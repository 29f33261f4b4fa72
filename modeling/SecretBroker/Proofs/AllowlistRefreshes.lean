import SecretBroker.Proofs.JsonReadings
import SecretBroker.Proofs.NetworkPrefixes
import SecretBroker.Proofs.SoleMembers
import SecretBroker.Proofs.TextBytes
import SecretBroker.Published

/-!
An allowlist over any number of refreshes of the published ranges. What it decides is settled by the
networks from the settings and by the latest refresh that went well; the others leave no trace. A
refresh goes well if it is answered with a success whose body is a document with a list of texts.
-/

namespace SecretBroker.Published

open SecretBroker.Api

/-- What a document lists under `actions`; nothing if it has no such member. -/
inductive Lists (json : Json) : List String → Prop
  | absent : Json.Sole "actions" json none → Lists json []
  | given {texts : List String} :
      Json.Sole "actions" json (some (.array (texts.map fun text => .text (some text)))) →
      Lists json texts

/-- An attempt to refresh goes well and brings these texts. -/
inductive Brings : Delivery → List String → Prop
  | answer {status : Nat} {body : List UInt8} {json : Json} {texts : List String} :
      200 ≤ status ∧ status ≤ 299 → Json.Derives (.item json) (Text.decodeChars body) →
      Lists json texts → Brings (.answer status (some body)) texts

/-- An attempt brings nothing, not even an empty list. -/
def Failed (attempt : Delivery) : Prop := ∀ texts, ¬ Brings attempt texts

/-- What the latest attempt that went well has brought. -/
def Latest (attempts : List Delivery) (texts : List String) : Prop :=
  ∃ earlier attempt later, attempts = earlier ++ attempt :: later ∧ Brings attempt texts ∧
    ∀ failed ∈ later, Failed failed

def refreshAll (list : Allowlist) (attempts : List Delivery) : Allowlist :=
  attempts.foldl (fun list attempt => (refresh list attempt).1) list

theorem ofJson_iff (json : Json) (texts : List String) :
    ofJson json = some texts ↔ Lists json texts := by
  rw [ofJson, Option.bind_eq_bind, Option.bind_eq_some_iff]
  constructor
  · rintro ⟨slots, read, found⟩
    split at found
    · rw [(Json.strings_iff _ _).mp found] at read
      exact .given ((Json.slots_sole_iff _ _ _).mp read)
    · cases found
      exact .absent ((Json.slots_sole_iff _ _ _).mp read)
    · cases found
  · rintro (sole | sole)
    · exact ⟨_, (Json.slots_sole_iff _ _ _).mpr sole, rfl⟩
    · exact ⟨_, (Json.slots_sole_iff _ _ _).mpr sole, (Json.strings_iff _ _).mpr rfl⟩

theorem brings_iff (status : Nat) (body : Option (List UInt8)) (texts : List String) :
    Brings (.answer status body) texts ↔
      (200 ≤ status ∧ status ≤ 299) ∧ (body.bind Json.readBytes).bind ofJson = some texts := by
  constructor
  · rintro @⟨_, body, json, _, success, written, lists⟩
    have read : Json.readBytes body = some json := (Json.readSymbols_iff _ _).mpr written
    exact ⟨success, by rw [Option.bind_some, read]; exact (ofJson_iff json texts).mpr lists⟩
  · rintro ⟨success, decoded⟩
    obtain ⟨json, read, lists⟩ := Option.bind_eq_some_iff.mp decoded
    obtain ⟨body, rfl, read⟩ := Option.bind_eq_some_iff.mp read
    exact .answer success ((Json.readSymbols_iff _ _).mp read) ((ofJson_iff json texts).mp lists)

theorem ranges_answer (status : Nat) (body : Option (List UInt8)) :
    ranges (.answer status body) =
      if 200 ≤ status ∧ status ≤ 299 then
        match (body.bind Json.readBytes).bind ofJson with
        | some texts => .ok (Net.Network.readSome texts)
        | none => .error (.transport "GitHub meta response invalid")
      else .error (.transport ("GitHub meta returned status " ++ toString status)) := by
  by_cases success : 200 ≤ status ∧ status ≤ 299
  · have inside : ¬ (status < 200 || 299 < status) = true := by
      simp only [Bool.or_eq_true, decide_eq_true_eq]
      omega
    cases decoded : (body.bind Json.readBytes).bind ofJson with
    | none => simp only [ranges, if_neg inside, if_pos success, decoded]
    | some texts => simp only [ranges, if_neg inside, if_pos success, decoded]
  · have outside : (status < 200 || 299 < status) = true := by
      simp only [Bool.or_eq_true, decide_eq_true_eq]
      omega
    simp only [ranges, if_pos outside, if_neg success]

theorem ranges_brought {attempt : Delivery} {texts : List String} (brought : Brings attempt texts) :
    ranges attempt = .ok (Net.Network.readSome texts) := by
  cases attempt with
  | none fault => cases brought
  | answer status body =>
      obtain ⟨success, decoded⟩ := (brings_iff status body texts).mp brought
      rw [ranges_answer, if_pos success, decoded]

theorem ranges_failed {attempt : Delivery} (failed : Failed attempt) :
    ∃ reason, ranges attempt = .error (.transport reason) := by
  cases attempt with
  | none fault => exact ⟨_, rfl⟩
  | answer status body =>
      rw [ranges_answer]
      by_cases success : 200 ≤ status ∧ status ≤ 299
      · rw [if_pos success]
        cases decoded : (body.bind Json.readBytes).bind ofJson with
        | none => exact ⟨_, rfl⟩
        | some texts =>
            exact absurd ((brings_iff status body texts).mpr ⟨success, decoded⟩) (failed texts)
      · rw [if_neg success]
        exact ⟨_, rfl⟩

theorem refresh_brought (list : Allowlist) {attempt : Delivery} {texts : List String}
    (brought : Brings attempt texts) :
    (refresh list attempt).1 = list.replacePublished (Net.Network.readSome texts) := by
  rw [refresh, ranges_brought brought]

theorem refresh_failed (list : Allowlist) {attempt : Delivery} (failed : Failed attempt) :
    ∃ reason, refresh list attempt = (list, .error (.transport reason)) := by
  obtain ⟨reason, told⟩ := ranges_failed failed
  exact ⟨reason, by rw [refresh, told]⟩

theorem refresh_settings (list : Allowlist) (attempt : Delivery) :
    (refresh list attempt).1.fixed = list.fixed ∧
      (refresh list attempt).1.publishedEnabled = list.publishedEnabled := by
  unfold refresh
  split <;> exact ⟨rfl, rfl⟩

theorem refreshAll_settings (list : Allowlist) (attempts : List Delivery) :
    (refreshAll list attempts).fixed = list.fixed ∧
      (refreshAll list attempts).publishedEnabled = list.publishedEnabled := by
  induction attempts generalizing list with
  | nil => exact ⟨rfl, rfl⟩
  | cons attempt rest ih =>
      have first := refresh_settings list attempt
      have others := ih (refresh list attempt).1
      exact ⟨others.1.trans first.1, others.2.trans first.2⟩

theorem refreshAll_failed (list : Allowlist) {attempts : List Delivery}
    (failed : ∀ attempt ∈ attempts, Failed attempt) : refreshAll list attempts = list := by
  induction attempts with
  | nil => rfl
  | cons attempt later ih =>
      obtain ⟨first, others⟩ := List.forall_mem_cons.mp failed
      obtain ⟨reason, kept⟩ := refresh_failed list first
      rw [refreshAll, List.foldl_cons, kept]
      exact ih others

/-- The ranges held are those of the latest attempt that went well. -/
theorem refreshAll_latest (list : Allowlist) {attempts : List Delivery} {texts : List String}
    (latest : Latest attempts texts) :
    (refreshAll list attempts).published = Net.Network.readSome texts := by
  obtain ⟨earlier, attempt, later, rfl, brought, failed⟩ := latest
  rw [refreshAll, List.foldl_append, List.foldl_cons, refresh_brought _ brought]
  exact congrArg Allowlist.published (refreshAll_failed _ failed)

theorem latest_or_failed (attempts : List Delivery) :
    (∃ texts, Latest attempts texts) ∨ ∀ attempt ∈ attempts, Failed attempt := by
  induction attempts with
  | nil => exact Or.inr nofun
  | cons attempt later ih =>
      rcases ih with ⟨texts, earlier, found, rest, rfl, brought, failed⟩ | failed
      · exact Or.inl ⟨texts, attempt :: earlier, found, rest, rfl, brought, failed⟩
      · by_cases bare : Failed attempt
        · exact Or.inr (List.forall_mem_cons.mpr ⟨bare, failed⟩)
        · obtain ⟨texts, brought⟩ := Classical.not_forall_not.mp bare
          exact Or.inl ⟨texts, [], attempt, later, rfl, brought, failed⟩

end SecretBroker.Published

namespace SecretBroker.Allowlist

theorem unrestricted_iff (list : Allowlist) :
    list.isRestricted = false ↔ list.fixed = [] ∧ list.publishedEnabled = false := by
  rw [isRestricted, Bool.or_eq_false_iff, Bool.not_eq_false', List.isEmpty_iff]

theorem admits_iff (list : Allowlist) (address : Net.Address) :
    list.admits address = true ↔
      (list.fixed = [] ∧ list.publishedEnabled = false) ∨
        (∃ network ∈ list.fixed, network.Spans address.canonical) ∨
        ∃ network ∈ list.published, network.Spans address.canonical := by
  rw [admits, Bool.or_eq_true, Bool.or_eq_true, Bool.not_eq_true', unrestricted_iff,
    Net.Network.any_contains_iff, Net.Network.any_contains_iff, or_assoc]

end SecretBroker.Allowlist

namespace SecretBroker.Published

open SecretBroker.Api

/-- One of the latest ranges that were published spans an address; texts that are no ranges do not
count. -/
def Spanned (attempts : List Delivery) (address : Net.Address) : Prop :=
  ∃ texts, Latest attempts texts ∧ ∃ text ∈ texts, ∃ network,
    Net.Network.read text = some network ∧ network.Spans address

theorem spanned_iff (fixed : List Net.Network) (enabled : Bool) (attempts : List Delivery)
    (address : Net.Address) :
    (∃ network ∈ (refreshAll (.new fixed enabled) attempts).published, network.Spans address) ↔
      Spanned attempts address := by
  constructor
  · rintro ⟨network, member, spans⟩
    rcases latest_or_failed attempts with ⟨texts, latest⟩ | failed
    · rw [refreshAll_latest _ latest, Net.Network.mem_readSome] at member
      obtain ⟨text, listed, parsed⟩ := member
      exact ⟨texts, latest, text, listed, network, parsed, spans⟩
    · rw [refreshAll_failed _ failed] at member
      cases member
  · rintro ⟨texts, latest, text, listed, network, parsed, spans⟩
    rw [refreshAll_latest _ latest]
    exact ⟨network, (Net.Network.mem_readSome texts network).mpr ⟨text, listed, parsed⟩, spans⟩

/-- After any attempts to refresh, an address is let in just if nothing is restricted, or a network
from the settings spans it, or a range of the latest attempt that went well. An attempt that failed
changes nothing, and says why; with published ranges enabled nobody gets in but for a network that
spans the address; and an IPv4 address is treated alike however it is carried. -/
theorem decisions_follow_latest_refresh (fixed : List Net.Network) (enabled : Bool)
    (attempts : List Delivery) :
    let list := refreshAll (.new fixed enabled) attempts
    (∀ address, list.admits address = true ↔
      (fixed = [] ∧ enabled = false) ∨
        (∃ network ∈ fixed, network.Spans address.canonical) ∨
        Spanned attempts address.canonical) ∧
    (∀ attempt, Failed attempt →
      ∃ reason, refresh list attempt = (list, .error (.transport reason))) ∧
    (enabled = true → ∀ address, list.admits address = true →
      (∃ network ∈ fixed, network.Spans address.canonical) ∨ Spanned attempts address.canonical) ∧
    ∀ bits, list.admits (.carrying bits) = list.admits (.v4 bits) := by
  intro list
  have settings : list.fixed = fixed ∧ list.publishedEnabled = enabled :=
    refreshAll_settings (.new fixed enabled) attempts
  have decision := fun address => list.admits_iff address
  simp only [settings.1, settings.2, list, spanned_iff] at decision
  refine ⟨decision, fun attempt failed => refresh_failed list failed, ?_, ?_⟩
  · intro restricts address admitted
    rcases (decision address).mp admitted with ⟨_, disabled⟩ | spans
    · cases restricts.symm.trans disabled
    · exact spans
  · intro bits
    rw [Allowlist.admits, Allowlist.admits, Net.Address.canonical_carrying]
    rfl

/-- A list of one range and of a text that is none. -/
def oneRange : Delivery :=
  .answer 200 (some (Text.utf8 "\x7b\"actions\":[\"10.0.0.0/8\",\"x\"]\x7d"))

theorem oneRange_brings : Brings oneRange ["10.0.0.0/8", "x"] := by
  have item (told : String) (plain : told.toList.all Json.isPlain = true) :
      Json.Derives (.item (.text (some told))) (some '"' :: (told.toList.map some ++ [some '"'])) :=
    (Json.Derives.text (Json.quoted_plain told plain)).unspaced
  have ranges := Json.Derives.array (.moreItems (item "10.0.0.0/8" (by decide +kernel))
    (.oneItem (item "x" (by decide +kernel))))
  have plain : "actions".toList.all Json.isPlain = true := by decide +kernel
  refine .answer (by decide) ?_ (.given (@Json.Sole.member "actions" [] [] _ nofun nofun))
  rw [Text.decodeChars_utf8]
  refine cast (congrArg (Json.Derives _) ?_) (Json.Derives.single plain ranges)
  decide +kernel

/-- After a refresh that brought one range and another that got no answer, an address in the range
is let in, also carried in IPv6. -/
theorem published_range_admits :
    let list := refreshAll (.new [] true) [oneRange, .none .timedOut]
    Brings oneRange ["10.0.0.0/8", "x"] ∧ Failed (.none .timedOut) ∧
      (∃ reason, refresh list (.none .timedOut) = (list, .error (.transport reason))) ∧
      list.admits (.v4 0x0a000005#32) = true ∧ list.admits (.carrying 0x0a000005#32) = true := by
  intro list
  have failed : Failed (.none .timedOut) := fun _ brought => nomatch brought
  obtain ⟨decided, keeps, -, alike⟩ :=
    decisions_follow_latest_refresh [] true [oneRange, .none .timedOut]
  have latest : Latest [oneRange, .none .timedOut] ["10.0.0.0/8", "x"] :=
    ⟨[], oneRange, [.none .timedOut], rfl, oneRange_brings, List.forall_mem_singleton.mpr failed⟩
  have range : Net.Network.read "10.0.0.0/8" = some (.v4 0x0a000000#32 8) := by decide +kernel
  have spans : (Net.Network.v4 0x0a000000#32 8).Spans (.v4 0x0a000005#32) :=
    (Net.Network.contains_iff _ _).mp (by decide)
  have admitted : list.admits (.v4 0x0a000005#32) = true :=
    (decided _).mpr (.inr (.inr ⟨_, latest, _, List.mem_cons_self, _, range, spans⟩))
  exact ⟨oneRange_brings, failed, keeps _ failed, admitted, (alike _).trans admitted⟩

end SecretBroker.Published
