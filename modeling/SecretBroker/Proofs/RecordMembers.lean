import Mathlib.Data.List.Forall2
import Mathlib.Data.List.Perm.Basic
import SecretBroker.Entry.Decode

/-!
Records in objects. A record's members stand under its keys, each in one of two spellings, in any
order and between members of other names. What is found under a key is what stands there; a record
that has two members for one key gives nothing at all.
-/

namespace SecretBroker.Json

/-- The key with its first letter as a capital. -/
def pascal (key : String) : String :=
  match key.toList with
  | [] => key
  | c :: rest => String.ofList (c.toUpper :: rest)

def spellings (key : String) : List String := [key, pascal key]

/-- Members for what a record has under its keys, in the order of the keys; no member for a key
that is left out. -/
inductive Spelled : List String → List (Option Json) → List (Option String × Json) → Prop
  | nil : Spelled [] [] []
  | omitted {key : String} {keys : List String} {given : List (Option Json)}
      {members : List (Option String × Json)} : Spelled keys given members →
      Spelled (key :: keys) (none :: given) members
  | spelled {key name : String} {keys : List String} {json : Json} {given : List (Option Json)}
      {members : List (Option String × Json)} : name ∈ spellings key → Spelled keys given members →
      Spelled (key :: keys) (some json :: given) ((some name, json) :: members)

/-- A member whose name is no spelling of a key. -/
def Unknown (keys : List String) (member : Option String × Json) : Prop :=
  ∃ name, member.1 = some name ∧ ∀ key ∈ keys, name ∉ spellings key

/-- An object with what a record has, in any order and between members that are unknown. -/
def Assembles (keys : List String) (given : List (Option Json)) (json : Json) : Prop :=
  ∃ members known others, json = .object members ∧ Spelled keys given known ∧
    (∀ member ∈ others, Unknown keys member) ∧ members.Perm (known ++ others)

/-- Two members of an object stand under one key, in the same spelling or in the two. -/
def Repeats (keys : List String) (members : List (Option String × Json)) : Prop :=
  ∃ key ∈ keys, ∃ front one middle other back,
    members = front ++ one :: (middle ++ other :: back) ∧
    (∃ name ∈ spellings key, one.1 = some name) ∧ ∃ name ∈ spellings key, other.1 = some name

/-- A record has something under a key: in an object by the key's name, in an array by its place. -/
inductive Gives (keys : List String) : Json → String → Json → Prop
  | member {members : List (Option String × Json)} {key name : String} {json : Json} :
      key ∈ keys → name ∈ spellings key → (some name, json) ∈ members →
      Gives keys (.object members) key json
  | place {items : List Json} {place : Nat} {key : String} {json : Json} :
      keys[place]? = some key → items[place]? = some json → Gives keys (.array items) key json

/-- The name is a spelling of the key. -/
def under (key : String) (member : Option String × Json) : Bool :=
  member.1.any (spellings key).contains

theorem under_iff (key : String) (member : Option String × Json) :
    under key member = true ↔ ∃ name ∈ spellings key, member.1 = some name := by
  rw [under]
  cases member.1 with
  | none => exact ⟨nofun, fun ⟨_, _, absent⟩ => nomatch absent⟩
  | some name =>
      rw [Option.any_some, List.contains_iff_mem]
      constructor
      · exact fun spelled => ⟨name, spelled, rfl⟩
      · rintro ⟨_, spelled, ⟨⟩⟩
        exact spelled

theorem memberNamed_filter (key : String) (members : List (Option String × Json)) :
    memberNamed (spellings key) members =
      match members.filter (under key) with
      | [] => some none
      | [member] => some (some member.2)
      | _ => none := rfl

theorem memberNamed_absent {key : String} {members : List (Option String × Json)}
    (absent : ∀ member ∈ members, under key member = false) :
    memberNamed (spellings key) members = some none := by
  have nothing : members.filter (under key) = [] :=
    List.filter_eq_nil_iff.mpr fun member listed => Bool.eq_false_iff.mp (absent member listed)
  rw [memberNamed_filter, nothing]

theorem memberNamed_sole {key : String} {members others : List (Option String × Json)}
    {member : Option String × Json} (same : members.Perm (member :: others))
    (named : under key member = true) (rest : ∀ other ∈ others, under key other = false) :
    memberNamed (spellings key) members = some (some member.2) := by
  have nothing : others.filter (under key) = [] :=
    List.filter_eq_nil_iff.mpr fun other listed => Bool.eq_false_iff.mp (rest other listed)
  have alone := same.filter (under key)
  rw [List.filter_cons_of_pos named, nothing, List.perm_singleton] at alone
  rw [memberNamed_filter, alone]

/-- What is found under a key is a member's, and there is no other member under it. -/
theorem memberNamed_found {key : String} {members : List (Option String × Json)}
    {slot : Option Json} (found : memberNamed (spellings key) members = some slot) :
    (members.filter (under key)).map (·.2) = slot.toList := by
  rw [memberNamed_filter] at found
  split at found
  · rename_i nothing
    cases found
    rw [nothing]
    rfl
  · rename_i member alone
    cases found
    rw [alone]
    rfl
  · cases found

theorem Spelled.named {keys : List String} {given : List (Option Json)}
    {members : List (Option String × Json)} (spelled : Spelled keys given members) :
    ∀ member ∈ members, ∃ key ∈ keys, ∃ name ∈ spellings key, member.1 = some name := by
  induction spelled with
  | nil => exact fun _ listed => nomatch listed
  | omitted _ ih =>
      intro member listed
      obtain ⟨key, known, named⟩ := ih member listed
      exact ⟨key, List.mem_cons_of_mem _ known, named⟩
  | spelled named _ ih =>
      intro member listed
      rcases List.mem_cons.mp listed with rfl | later
      · exact ⟨_, List.mem_cons_self, _, named, rfl⟩
      · obtain ⟨key, known, named⟩ := ih member later
        exact ⟨key, List.mem_cons_of_mem _ known, named⟩

theorem Unknown.not_under {keys : List String} {member : Option String × Json}
    (unknown : Unknown keys member) {key : String} (known : key ∈ keys) :
    under key member = false := by
  obtain ⟨name, named, other⟩ := unknown
  rw [Bool.eq_false_iff, Ne, under_iff]
  rintro ⟨spelling, spelled, same⟩
  obtain rfl := Option.some.inj (named.symm.trans same)
  exact other key known spelled

/-- Keys none of which has a spelling of another. -/
def Apart (keys : List String) : Prop :=
  keys.Pairwise fun key other => ∀ name ∈ spellings key, name ∉ spellings other

instance (keys : List String) : Decidable (Apart keys) :=
  inferInstanceAs (Decidable (List.Pairwise ..))

theorem Unknown.later {key : String} {keys : List String} {member : Option String × Json}
    (unknown : Unknown (key :: keys) member) : Unknown keys member := by
  obtain ⟨name, named, other⟩ := unknown
  exact ⟨name, named, fun known later => other known (List.mem_cons_of_mem _ later)⟩

/-- The members for later keys and the unknown ones do not stand under the first key. -/
theorem Spelled.not_under {key : String} {keys : List String} {given : List (Option Json)}
    {known others : List (Option String × Json)} (spelled : Spelled keys given known)
    (differs : ∀ other ∈ keys, ∀ name ∈ spellings key, name ∉ spellings other)
    (unknown : ∀ member ∈ others, Unknown (key :: keys) member) :
    ∀ member ∈ known ++ others, under key member = false := by
  intro member listed
  rcases List.mem_append.mp listed with among | beside
  · obtain ⟨other, later, name, named, told⟩ := spelled.named member among
    rw [Bool.eq_false_iff, Ne, under_iff]
    rintro ⟨spelling, here, again⟩
    obtain rfl := Option.some.inj (told.symm.trans again)
    exact differs other later _ here named
  · exact (unknown member beside).not_under List.mem_cons_self

/-- Every key finds what stands for it, and those left out nothing. -/
theorem mapM_spelled {keys : List String} {given : List (Option Json)}
    {known : List (Option String × Json)} (spelled : Spelled keys given known) (apart : Apart keys)
    {others members : List (Option String × Json)}
    (unknown : ∀ member ∈ others, Unknown keys member)
    (same : members.Perm (known ++ others)) :
    (keys.map spellings).mapM (memberNamed · members) = some given := by
  induction spelled generalizing others with
  | nil => rfl
  | @omitted key keys given known spelled ih =>
      obtain ⟨differs, apart⟩ := List.pairwise_cons.mp apart
      have elsewhere := spelled.not_under differs unknown
      have first : memberNamed (spellings key) members = some none :=
        memberNamed_absent fun member listed => elsewhere member (same.mem_iff.mp listed)
      have later := ih apart (fun member beside => (unknown member beside).later) same
      rw [List.map_cons, List.mapM_cons, first, later]
      rfl
  | @spelled key name keys json given known named spelled ih =>
      obtain ⟨differs, apart⟩ := List.pairwise_cons.mp apart
      have first : memberNamed (spellings key) members = some (some json) :=
        memberNamed_sole same ((under_iff key _).mpr ⟨name, named, rfl⟩)
          (spelled.not_under differs unknown)
      -- To the other keys the first key's member is one more that is unknown.
      have beside : ∀ member ∈ (some name, json) :: others, Unknown keys member := by
        intro member listed
        rcases List.mem_cons.mp listed with rfl | other
        · exact ⟨name, rfl, fun other later => differs other later name named⟩
        · exact (unknown member other).later
      have later := ih apart beside (same.trans List.perm_middle.symm)
      rw [List.map_cons, List.mapM_cons, first, later]
      rfl

theorem slots_assembled {keys : List String} {given : List (Option Json)} {json : Json}
    (assembles : Assembles keys given json) (apart : Apart keys) :
    json.slots (keys.map spellings) = some given := by
  obtain ⟨members, known, others, rfl, spelled, unknown, same⟩ := assembles
  have named : members.all (·.1.isSome) = true := by
    rw [List.all_eq_true]
    intro member listed
    rcases List.mem_append.mp (same.mem_iff.mp listed) with among | beside
    · obtain ⟨_, _, name, _, told⟩ := spelled.named member among
      rw [told]
      rfl
    · obtain ⟨name, told, _⟩ := unknown member beside
      rw [told]
      rfl
  rw [slots, if_pos named]
  exact mapM_spelled spelled apart unknown same

theorem mapM_some {α β : Type} {f : α → Option β} {items : List α} {results : List β}
    (read : items.mapM f = some results) :
    List.Forall₂ (fun item result => f item = some result) items results := by
  induction items generalizing results with
  | nil =>
      cases read
      exact .nil
  | cons item items ih =>
      simp only [List.mapM_cons, Option.bind_eq_bind, Option.bind_eq_some_iff, Option.pure_def,
        Option.some.injEq] at read
      obtain ⟨result, first, later, others, rfl⟩ := read
      exact .cons first (ih others)

theorem mapM_of_forall₂ {α β : Type} {f : α → Option β} {items : List α} {results : List β}
    (each : List.Forall₂ (fun item result => f item = some result) items results) :
    items.mapM f = some results := by
  induction each with
  | nil => rfl
  | cons first _ ih =>
      rw [List.mapM_cons, first, ih]
      rfl

/-- What is found under each of the keys of an object that is read as a record. -/
theorem slots_object {keys : List String} {given : List (Option Json)}
    {members : List (Option String × Json)}
    (read : (object members).slots (keys.map spellings) = some given) :
    List.Forall₂ (fun key slot => (members.filter (under key)).map (·.2) = slot.toList)
      keys given := by
  rw [slots] at read
  split at read
  · exact (List.forall₂_map_left_iff.mp (mapM_some read)).imp fun _ _ => memberNamed_found
  · cases read

theorem forall₂_place {α β : Type} {R : α → β → Prop} {items : List α} {results : List β}
    (each : List.Forall₂ R items results) {item : α} (listed : item ∈ items) :
    ∃ (place : Nat) (result : β), items[place]? = some item ∧ results[place]? = some result ∧
      R item result := by
  obtain ⟨place, inside, rfl⟩ := List.getElem_of_mem listed
  have within : place < results.length := each.length_eq ▸ inside
  exact ⟨place, results[place], List.getElem?_eq_getElem inside, List.getElem?_eq_getElem within,
    each.get inside within⟩

theorem Apart.nodup {keys : List String} (apart : Apart keys) : keys.Nodup := by
  refine List.Pairwise.imp ?_ apart
  rintro key other differs rfl
  exact differs key List.mem_cons_self List.mem_cons_self

/-- In a record that is read, what is given under a key is what is found at the key's place. -/
theorem slots_gives {keys : List String} {given : List (Option Json)} {record json : Json}
    {key : String} (apart : Apart keys) (read : record.slots (keys.map spellings) = some given)
    (gives : Gives keys record key json) : given[keys.idxOf key]? = some (some json) := by
  obtain ⟨place, atKey, found⟩ :
      ∃ place : Nat, keys[place]? = some key ∧ given[place]? = some (some json) := by
    cases gives with
    | @member members key name _ known named listed =>
        -- The member that the key finds is the only one under it, so it is the given one.
        obtain ⟨place, slot, atKey, found, sole⟩ := forall₂_place (slots_object read) known
        have among : json ∈ (members.filter (under key)).map (·.2) :=
          List.mem_map.mpr ⟨_, List.mem_filter.mpr
            ⟨listed, (under_iff key _).mpr ⟨name, named, rfl⟩⟩, rfl⟩
        rw [sole, Option.mem_toList] at among
        exact ⟨place, atKey, among ▸ found⟩
    | @place items place _ _ known listed =>
        rw [slots] at read
        split at read
        · cases read
          refine ⟨place, known, ?_⟩
          obtain ⟨inside, -⟩ := List.getElem?_eq_some_iff.mp listed
          rw [List.getElem?_append_left (by rw [List.length_map]; exact inside),
            List.getElem?_map, listed]
          rfl
        · cases read
  obtain ⟨inside, rfl⟩ := List.getElem?_eq_some_iff.mp atKey
  rw [apart.nodup.idxOf_getElem place inside]
  exact found

/-- An object with two members for one key is no record. -/
theorem slots_repeated {keys : List String} {members : List (Option String × Json)}
    (repeats : Repeats keys members) : (object members).slots (keys.map spellings) = none := by
  obtain ⟨key, known, front, one, middle, other, back, rfl, first, second⟩ := repeats
  rw [Option.eq_none_iff_forall_ne_some]
  intro given read
  obtain ⟨_, slot, _, _, sole⟩ := forall₂_place (slots_object read) known
  have count := congrArg List.length sole
  have most : slot.toList.length ≤ 1 := by cases slot <;> simp
  rw [List.length_map, List.filter_append, List.filter_cons_of_pos ((under_iff key one).mpr first),
    List.filter_append, List.filter_cons_of_pos ((under_iff key other).mpr second)] at count
  simp only [List.length_append, List.length_cons] at count
  omega

end SecretBroker.Json
