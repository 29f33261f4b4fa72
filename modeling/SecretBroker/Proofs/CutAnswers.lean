import SecretBroker.Proofs.AnswerCourses
import SecretBroker.Proofs.ServiceFailures

/-!
Slow and broken answers in a lookup through the web service. Without an answer in time a call is a
transport failure. An answer of 200 that stays without its whole body is an invalid response, as if
the body had come and could not be read.
-/

namespace SecretBroker

/-- It ends with an error of a kind. -/
def Fails (kind : VaultError.Kind) (outcome : Option (Answer Secret)) : Prop :=
  ∃ error, outcome = some (.error error) ∧ error.kind = kind

@[simp] theorem fails_error (kind : VaultError.Kind) (error : VaultError) :
    Fails kind (some (.error error)) ↔ error.kind = kind := by
  constructor
  · rintro ⟨same, ended, isKind⟩
    cases ended
    exact isKind
  · intro isKind
    exact ⟨error, rfl, isKind⟩

@[simp] theorem not_fails_ok (kind : VaultError.Kind) (value : Secret) :
    ¬ Fails kind (some (.ok value)) := by
  rintro ⟨error, ended, _⟩
  cases ended

@[simp] theorem not_fails_none (kind : VaultError.Kind) : ¬ Fails kind none := by
  rintro ⟨error, ended, _⟩
  cases ended

theorem Fails.unique {kind other : VaultError.Kind} {outcome : Option (Answer Secret)}
    (fails : Fails kind outcome) (different : kind ≠ other) : ¬ Fails other outcome := by
  rintro ⟨error, rfl, isOther⟩
  obtain ⟨_, same, isKind⟩ := fails
  cases same
  exact different (isKind.symm.trans isOther)

end SecretBroker

namespace SecretBroker.Api

/-- What a whole body holds is of use. -/
def Readable {α : Type} (decode : Json → Option α) (usable : α → Prop) (bytes : List UInt8) :
    Prop :=
  ∃ content, (Json.readBytes bytes).bind decode = some content ∧ usable content

/-- A call that did not conclude is a transport failure, and only the whole body of a 200 answer
can make a response invalid. -/
def Faithful (timeout : Nat) (conduct : Conduct) (readable : List UInt8 → Prop)
    (outcome : Option (Answer Secret)) : Prop :=
  (¬ conduct.Concludes timeout → Fails .transport outcome) ∧
    (Fails .invalidResponse outcome → conduct.begun? timeout = some 200 ∧
      conduct.Completes timeout ∧ ¬ readable conduct.bytes)

/-- When the call of an outcome is a transport failure and when its response is invalid. -/
structure Settles (timeout : Nat) (conduct : Conduct) (readable : List UInt8 → Prop)
    (outcome : Option (Answer Secret)) : Prop where
  transport : Fails .transport outcome ↔ conduct.begun? timeout = none
  invalid : Fails .invalidResponse outcome ↔ conduct.begun? timeout = some 200 ∧
    ¬ (conduct.Completes timeout ∧ readable conduct.bytes)

/-- It is faithful except where a 200 answer began and stayed without its whole body. -/
theorem Settles.faithful {timeout : Nat} {conduct : Conduct} {readable : List UInt8 → Prop}
    {outcome : Option (Answer Secret)} (settles : Settles timeout conduct readable outcome) :
    Faithful timeout conduct readable outcome ↔
      (conduct.begun? timeout = some 200 → conduct.Completes timeout) := by
  constructor
  · rintro ⟨_, whole⟩ begun
    by_contra cut
    have invalid : Fails .invalidResponse outcome :=
      settles.invalid.mpr ⟨begun, fun read => cut read.1⟩
    exact cut (whole invalid).2.1
  · intro whole
    constructor
    · intro waiting
      rcases Conduct.not_concludes_iff.mp waiting with unbegun | ⟨begun, cut⟩
      · exact settles.transport.mpr unbegun
      · exact absurd (whole begun) cut
    · intro invalid
      obtain ⟨begun, unread⟩ := settles.invalid.mp invalid
      exact ⟨begun, whole begun, fun readable => unread ⟨whole begun, readable⟩⟩

/-- How what a conduct delivers is read. -/
inductive Conduct.ReadsAs {α : Type} (decode : Json → Option α) (timeout : Nat)
    (conduct : Conduct) : Except Mishap α → Prop
  | undelivered (fault : CallFault) :
      conduct.begun? timeout = none → ReadsAs decode timeout conduct (.error (.undelivered fault))
  | refused (status : Nat) : conduct.begun? timeout = some status → status ≠ 200 →
      ReadsAs decode timeout conduct (.error (.status status))
  | unreadable : conduct.begun? timeout = some 200 →
      (conduct.Completes timeout → (Json.readBytes conduct.bytes).bind decode = none) →
      ReadsAs decode timeout conduct (.error .unreadable)
  | content (content : α) : conduct.begun? timeout = some 200 → conduct.Completes timeout →
      (Json.readBytes conduct.bytes).bind decode = some content →
      ReadsAs decode timeout conduct (.ok content)

theorem Conduct.reads {α : Type} (decode : Json → Option α) (timeout : Nat) (conduct : Conduct) :
    conduct.ReadsAs decode timeout ((conduct.delivery timeout).read decode) := by
  rcases conduct.delivery_cases timeout with
    ⟨unbegun, _, fault, delivered⟩ | ⟨status, begun, brought⟩
  · rw [delivered]
    exact .undelivered fault unbegun
  · by_cases accepted : status = 200
    · subst accepted
      rcases brought with ⟨whole, delivered⟩ | ⟨cut, delivered⟩
      · rw [delivered]
        cases held : (Json.readBytes conduct.bytes).bind decode with
        | none =>
            simp only [Delivery.read, ne_eq, not_true, if_false, Option.bind_some, held]
            exact .unreadable begun fun _ => held
        | some content =>
            simp only [Delivery.read, ne_eq, not_true, if_false, Option.bind_some, held]
            exact .content content begun whole held
      · rw [delivered]
        exact .unreadable begun fun whole => absurd whole cut
    · have refused : (conduct.delivery timeout).read decode = .error (.status status) := by
        rcases brought with ⟨_, delivered⟩ | ⟨_, delivered⟩ <;>
          rw [delivered, Delivery.read, if_pos accepted]
      rw [refused]
      exact .refused status begun accepted

/-- The outcome has the kind of error that what was read calls for. -/
def Reflects {α : Type} (usable : α → Prop) (outcome : Option (Answer Secret)) :
    Except Mishap α → Prop
  | .error (.undelivered _) => Fails .transport outcome
  | .error (.status _) => ¬ Fails .transport outcome ∧ ¬ Fails .invalidResponse outcome
  | .error .unreadable => Fails .invalidResponse outcome
  | .ok content => ¬ Fails .transport outcome ∧ (Fails .invalidResponse outcome ↔ ¬ usable content)

theorem Reflects.settles {α : Type} {decode : Json → Option α} {usable : α → Prop} {timeout : Nat}
    {conduct : Conduct} {outcome : Option (Answer Secret)}
    (reflects : Reflects usable outcome ((conduct.delivery timeout).read decode)) :
    Settles timeout conduct (Readable decode usable) outcome := by
  have reads := conduct.reads decode timeout
  generalize (conduct.delivery timeout).read decode = result at reads reflects
  cases reads with
  | undelivered fault unbegun =>
      have valid : ¬ Fails .invalidResponse outcome := reflects.unique (by decide)
      exact ⟨iff_of_true reflects unbegun, iff_of_false valid (by simp [unbegun])⟩
  | refused status begun other =>
      -- Of an answer with another status nothing is read but its head.
      constructor
      · exact iff_of_false reflects.1 (by simp [begun])
      · exact iff_of_false reflects.2 (by simp [begun, other])
  | unreadable begun unread =>
      -- The body may have come and not be readable, or not have come: the outcome is the same.
      have arrived : ¬ Fails .transport outcome := reflects.unique (by decide)
      refine ⟨iff_of_false arrived (by simp [begun]), iff_of_true reflects ⟨begun, ?_⟩⟩
      rintro ⟨whole, content, held, _⟩
      rw [unread whole] at held
      cases held
  | content content begun whole held =>
      refine ⟨iff_of_false reflects.1 (by simp [begun]), reflects.2.trans ?_⟩
      constructor
      · rintro useless
        refine ⟨begun, ?_⟩
        rintro ⟨_, same, held', useful⟩
        obtain rfl := Option.some.inj (held.symm.trans held')
        exact useless useful
      · rintro ⟨_, unread⟩ useful
        exact unread ⟨whole, content, held, useful⟩

theorem found_reflects (name : String) (delivery : Delivery) :
    Reflects (fun _ => True) (some (found name delivery)) (delivery.read Entry.listOfJson) := by
  unfold found
  rw [listed_reported]
  cases delivery.read Entry.listOfJson with
  | error mishap =>
      change Reflects _ (some (.error mishap.listingError)) _
      cases mishap <;> simp [Reflects, Mishap.listingError, CallFault.error, VaultError.kind]
  | ok entries =>
      -- It is no fault of the call if there is no such entry or the entry has no value.
      change Reflects _ (some (valueNamed name entries)) _
      unfold valueNamed
      cases entries.find? (·.nameOrEmpty = name) with
      | none => simp [Reflects, VaultError.kind]
      | some entry => cases value : entry.listedValue <;> simp [value, Reflects, VaultError.kind]

theorem Desk.not_fails_granted (desk : Desk) (caller : Nat) (grant : Grant)
    (kind : VaultError.Kind) : ¬ Fails kind (desk.settle caller (.ok grant)).2 := by
  simp only [Desk.settle]
  cases desk.tokenOf? grant with
  | none => exact not_fails_none kind
  | some token => exact not_fails_ok kind token.secret

namespace Visit

theorem token_reflects {visit : Visit} (stale : visit.desk.fresh? visit.now = none) :
    Reflects (fun grant => grant.token.isEmpty = false) visit.token?
      (visit.exchanged.read Grant.ofJson) := by
  rw [token_settled stale, grant_reported ""]
  unfold exchangeGrant
  cases visit.exchanged.read Grant.ofJson with
  | error mishap =>
      change Reflects _ (some (.error mishap.exchangeError)) _
      cases mishap <;> simp [Reflects, Mishap.exchangeError, CallFault.error, VaultError.kind]
  | ok grant =>
      cases empty : grant.token.isEmpty with
      | true =>
          simp only [empty, if_true, Except.mapError, Desk.settle]
          simp [Reflects, empty, Failure.error, VaultError.kind]
      | false =>
          simp only [empty, Bool.false_eq_true, if_false, Except.mapError]
          have granted := Desk.not_fails_granted { visit.desk with exchanging := some visit.now }
            visit.caller grant
          exact ⟨granted _, iff_of_false (granted _) (by simp [empty])⟩

/-- The visit with services of this conduct and a client with this timeout. -/
def within (visit : Visit) (timeout : Nat) (identity vault : Call → Conduct) : Visit :=
  { visit with
    identity := fun call => (identity call).delivery timeout
    vault := fun call => (vault call).delivery timeout }

/-- What a lookup comes to is settled by the conduct of the service that it calls: by that of the
identity service if it exchanges credentials, by that of the vault once it has a token. It is what
the conduct calls for unless a 200 answer stays without its whole body. -/
theorem failures_settled_by_conduct (visit : Visit) (timeout : Nat)
    (identity vault : Call → Conduct) {name : String}
    (accepted : LookupName.fault? name = none) :
    let lookup := visit.within timeout identity vault
    let IsGrant := Readable Grant.ofJson fun grant => grant.token.isEmpty = false
    let IsListing := Readable Entry.listOfJson fun _ => True
    (visit.desk.fresh? visit.now = none →
      let conduct := identity (exchangeCall visit.baseUrl visit.credentials)
      Settles timeout conduct IsGrant lookup.token? ∧
        (Faithful timeout conduct IsGrant lookup.token? ↔
          (conduct.begun? timeout = some 200 → conduct.Completes timeout))) ∧
    (∀ token call, lookup.token? = some (.ok token) →
      listingCall? visit.baseUrl token = some call →
      Settles timeout (vault call) IsListing (lookup.answer? name) ∧
        (Faithful timeout (vault call) IsListing (lookup.answer? name) ↔
          ((vault call).begun? timeout = some 200 → (vault call).Completes timeout))) ∧
    ∀ error, lookup.token? = some (.error error) →
      lookup.answer? name = some (.error error) := by
  intro lookup IsGrant IsListing
  refine ⟨?_, ?_, ?_⟩
  · intro stale conduct
    have reflects : Reflects (fun grant => grant.token.isEmpty = false) lookup.token?
        ((conduct.delivery timeout).read Grant.ofJson) := token_reflects stale
    have settles : Settles timeout conduct IsGrant lookup.token? := reflects.settles
    exact ⟨settles, settles.faithful⟩
  · intro token call served sends
    have called : listingCall? lookup.baseUrl token = some call := sends
    have listing : lookup.listing token = (vault call).delivery timeout := by
      rw [Visit.listing, called]
      rfl
    have heard : lookup.answer? name = some (found name ((vault call).delivery timeout)) := by
      simp only [answer?, accepted, served, listing]
    have settles : Settles timeout (vault call) IsListing (lookup.answer? name) := by
      rw [heard]
      exact (found_reflects name _).settles
    exact ⟨settles, settles.faithful⟩
  · intro error ended
    simp only [answer?, accepted, ended]

/-- A lookup through a client that has no token yet, or one that runs out in an hour. -/
def starting (current : Option Token) : Visit where
  baseUrl := "https://vault.example.com"
  credentials := ⟨"user.0f1c", ⟨"client-secret"⟩⟩
  desk := ⟨current, .free, none⟩
  caller := 0
  now := 0
  identity _ := .none .failed
  vault _ := .none .failed

theorem refused_exchange_faithful :
    LookupName.fault? "A" = none ∧
      Faithful (30 * nanosPerSecond) (.answered 7 503 .stalled)
        (Readable Grant.ofJson fun grant => grant.token.isEmpty = false)
        ((starting none).within (30 * nanosPerSecond) (fun _ => .answered 7 503 .stalled)
          fun _ => .silent).token? := by
  have accepted : LookupName.fault? "A" = none := by decide
  have settled := failures_settled_by_conduct (starting none) (30 * nanosPerSecond)
    (fun _ => .answered 7 503 .stalled) (fun _ => .silent) accepted
  refine ⟨accepted, (settled.1 rfl).2.mpr ?_⟩
  intro begun
  cases begun

/-- The identity service breaks off within the token response and the vault falls silent within the
list, both after a head in time: the response is called invalid. -/
theorem cut_answers_called_invalid :
    let timeout := 30 * nanosPerSecond
    let cut : Conduct := .answered 7 200 (.part 1 [0x7b] (.cut 1))
    let stalled : Conduct := .answered 7 200 (.part 1 [0x7b] .stalled)
    let token : Token := ⟨⟨"t"⟩, 3600 * nanosPerSecond⟩
    let exchanging := (starting none).within timeout (fun _ => cut) fun _ => stalled
    let listing := (starting (some token)).within timeout (fun _ => cut) fun _ => stalled
    (¬ cut.Concludes timeout ∧ ¬ Fails .transport exchanging.token? ∧
      exchanging.token? = some (.error (.invalidResponse "token response is not valid JSON"))) ∧
    (¬ stalled.Concludes timeout ∧ ¬ Fails .transport (listing.answer? "A") ∧
      listing.answer? "A" = some (.error (.invalidResponse "cipher list is not valid JSON"))) := by
  intro timeout cut stalled token exchanging listing
  have exchanged :
      exchanging.token? = some (.error (.invalidResponse "token response is not valid JSON")) := rfl
  have listed :
      listing.answer? "A" = some (.error (.invalidResponse "cipher list is not valid JSON")) := by
    have accepted : LookupName.fault? "A" = none := by decide
    have served : listing.token? = some (.ok ⟨"t"⟩) := rfl
    have heard : listing.listing ⟨"t"⟩ = .answer 200 none := by decide +kernel
    simp only [answer?, accepted, served, heard]
    rfl
  have cutShort : ¬ cut.Completes timeout := by
    rintro ⟨length, ends, _⟩
    cases ends
  have unended : ¬ stalled.Completes timeout := by
    rintro ⟨length, ends, _⟩
    cases ends
  refine ⟨⟨?_, ?_, exchanged⟩, ?_, ?_, listed⟩
  · exact Conduct.not_concludes_iff.mpr (Or.inr ⟨rfl, cutShort⟩)
  · rw [exchanged, fails_error]
    decide
  · exact Conduct.not_concludes_iff.mpr (Or.inr ⟨rfl, unended⟩)
  · rw [listed, fails_error]
    decide

end Visit
end SecretBroker.Api
