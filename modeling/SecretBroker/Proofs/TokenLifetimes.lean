import SecretBroker.Proofs.CutAnswers
import SecretBroker.Proofs.TokenDiscards

/-!
How long a token lasts, and what becomes of the caller that brings it. The identity service settles
the lifetime, in seconds within 64 bits, and the lifetime counts from the instant when the exchange
began. Whatever the service answers, the exchange ends with an error or with a token, unless the
token would last beyond the clock's range. Then the caller breaks down over the sum, and the desk
goes on without a new token.
-/

namespace SecretBroker.Api

/-- When a token is given up that is good for some seconds from an instant: earlier than that by the
margin, and never before the instant itself. -/
def expiryOf (since : Instant) (expiresIn : Nat) : Instant :=
  since + (expiresIn - 300) * nanosPerSecond

theorem after_margin (since : Instant) (expiresIn : Nat) :
    since + ((Span.ofSeconds expiresIn).dropUpTo Token.margin).total =
      expiryOf since expiresIn := by
  rw [Span.dropUpTo, Span.total_ofNanos, expiryOf]
  change since + (nanosPerSecond * expiresIn - nanosPerSecond * 300) = _
  rw [← Nat.mul_sub, Nat.mul_comm]

theorem granted_dated {since : Instant} {expiresIn : Nat} (secret : Secret)
    (dated : expiryOf since expiresIn < Instant.horizon * nanosPerSecond) :
    Token.granted secret (.ofSeconds expiresIn) since =
      some ⟨secret, expiryOf since expiresIn⟩ := by
  rw [Token.granted, Instant.after, after_margin, if_pos dated]
  rfl

theorem granted_overlong {since : Instant} {expiresIn : Nat} (secret : Secret)
    (overlong : Instant.horizon * nanosPerSecond ≤ expiryOf since expiresIn) :
    Token.granted secret (.ofSeconds expiresIn) since = none := by
  rw [Token.granted, Instant.after, after_margin, if_neg (Nat.not_lt_of_le overlong)]
  rfl

/-! What an answer of the identity service can grant. -/

theorem nat64_bounded {json : Json} {number : Nat} (read : Json.nat64? json = some number) :
    number ≤ secondsBound := by
  unfold Json.nat64? at read
  split at read
  · split at read
    · rename_i bounds
      obtain rfl := Option.some.inj read
      exact Int.toNat_le.mpr bounds.2
    · cases read
  · cases read

theorem Grant.ofJson_lifetime {json : Json} {grant : Grant} (read : ofJson json = some grant) :
    ∃ expiresIn ≤ secondsBound, grant.lifetime = .ofSeconds expiresIn := by
  unfold ofJson at read
  obtain ⟨slots, _, read⟩ := Option.bind_eq_some_iff.mp read
  split at read
  · obtain ⟨token, _, read⟩ := Option.bind_eq_some_iff.mp read
    obtain ⟨expiresIn, lifetime, read⟩ := Option.bind_eq_some_iff.mp read
    obtain ⟨_, _, read⟩ := Option.bind_eq_some_iff.mp read
    obtain rfl := Option.some.inj read
    exact ⟨expiresIn, nat64_bounded lifetime, rfl⟩
  · cases read

/-- Whatever is answered, the lifetime that it grants is a number of seconds within 64 bits. -/
theorem Grant.ofDelivery_lifetime {delivery : Delivery} {grant : Grant}
    (granted : ofDelivery delivery = .ok grant) :
    ∃ expiresIn ≤ secondsBound, grant.lifetime = .ofSeconds expiresIn := by
  unfold ofDelivery at granted
  split at granted
  · cases granted
  · split at granted
    · cases granted
    · split at granted
      · cases granted
      · rename_i content
        obtain ⟨json, _, read⟩ := Option.bind_eq_some_iff.mp content
        split at granted
        · cases granted
        · obtain rfl := Except.ok.inj granted
          exact ofJson_lifetime read

theorem Grant.seconds_unique {grant : Grant} {one other : Nat}
    (lifetime : grant.lifetime = .ofSeconds one) (again : grant.lifetime = .ofSeconds other) :
    one = other :=
  congrArg Span.seconds (lifetime.symm.trans again)

/-- How an exchange ends that began at an instant: what it brought, what the caller gets, if it does
not break down, and the token that the desk has from then on. -/
inductive Ends (since : Instant) (current : Option Token) :
    Answer Grant → Option (Answer Secret) → Option Token → Prop where
  | failed (error : VaultError) : Ends since current (.error error) (some (.error error)) current
  | granted {grant : Grant} {expiresIn : Nat} (bounded : expiresIn ≤ secondsBound)
    (lifetime : grant.lifetime = .ofSeconds expiresIn)
    (dated : expiryOf since expiresIn < Instant.horizon * nanosPerSecond) :
    Ends since current (.ok grant) (some (.ok grant.token))
      (some ⟨grant.token, expiryOf since expiresIn⟩)
  | broken {grant : Grant} {expiresIn : Nat} (bounded : expiresIn ≤ secondsBound)
    (lifetime : grant.lifetime = .ofSeconds expiresIn)
    (overlong : Instant.horizon * nanosPerSecond ≤ expiryOf since expiresIn) :
    Ends since current (.ok grant) none current

/-- A lifetime that leads out of the clock's range. -/
def Overlong (since : Instant) (granted : Answer Grant) : Prop :=
  ∃ grant expiresIn, granted = .ok grant ∧ grant.lifetime = .ofSeconds expiresIn ∧
    Instant.horizon * nanosPerSecond ≤ expiryOf since expiresIn

section Ends

variable {since : Instant} {current kept : Option Token} {settled : Option (Answer Secret)}

theorem Ends.dated {grant : Grant} {expiresIn : Nat}
    (ends : Ends since current (.ok grant) settled kept)
    (lifetime : grant.lifetime = .ofSeconds expiresIn)
    (dated : expiryOf since expiresIn < Instant.horizon * nanosPerSecond) :
    settled = some (.ok grant.token) ∧ kept = some ⟨grant.token, expiryOf since expiresIn⟩ := by
  cases ends with
  | granted bounded again _ =>
      obtain rfl := Grant.seconds_unique again lifetime
      exact ⟨rfl, rfl⟩
  | broken bounded again overlong =>
      obtain rfl := Grant.seconds_unique again lifetime
      exact absurd dated (Nat.not_lt_of_le overlong)

theorem Ends.broken_iff {granted : Answer Grant} (ends : Ends since current granted settled kept) :
    settled = none ↔ Overlong since granted := by
  constructor
  · rintro rfl
    cases ends with
    | broken bounded lifetime overlong => exact ⟨_, _, rfl, lifetime, overlong⟩
  · rintro ⟨grant, expiresIn, rfl, lifetime, overlong⟩
    cases ends with
    | granted bounded again dated =>
        obtain rfl := Grant.seconds_unique again lifetime
        exact absurd dated (Nat.not_lt_of_le overlong)
    | broken => rfl

end Ends

theorem Desk.settle_ends {desk : Desk} {since : Instant} (busy : desk.exchanging = some since)
    (caller : Nat) (delivery : Delivery) :
    Ends since desk.current (Grant.ofDelivery delivery)
      (desk.settle caller (Grant.ofDelivery delivery)).2
      (desk.settle caller (Grant.ofDelivery delivery)).1.current := by
  cases granted : Grant.ofDelivery delivery with
  | error error => exact .failed error
  | ok grant =>
      obtain ⟨expiresIn, bounded, lifetime⟩ := Grant.ofDelivery_lifetime granted
      rw [settle, tokenOf?, busy, Option.getD_some, lifetime]
      by_cases dated : expiryOf since expiresIn < Instant.horizon * nanosPerSecond
      · rw [granted_dated grant.token dated]
        exact .granted bounded lifetime dated
      · have overlong := Nat.le_of_not_lt dated
        rw [granted_overlong grant.token overlong]
        exact .broken bounded lifetime overlong

theorem Desk.settle_leaves (desk : Desk) (caller : Nat) (granted : Answer Grant) :
    (desk.settle caller granted).1.turns = (desk.leave caller).turns ∧
      (desk.settle caller granted).1.exchanging = (desk.leave caller).exchanging := by
  cases brought : desk.brought? granted with
  | none => rw [settle_barren brought]; exact ⟨rfl, rfl⟩
  | some token => rw [settle_brought brought]; exact ⟨rfl, rfl⟩

theorem TokenCalls.finish_settles (calls : TokenCalls) (caller : Nat) (granted : Answer Grant) :
    (calls.finish caller granted).desk = (calls.desk.settle caller granted).1 ∧
      (calls.finish caller granted).positions caller = none := by
  cases brought : calls.desk.brought? granted with
  | none =>
      rw [finish_barren brought, Desk.settle_barren brought]
      exact ⟨rfl, place_same _ _ _⟩
  | some token =>
      rw [finish_brought brought, Desk.settle_brought brought]
      exact ⟨rfl, place_same _ _ _⟩

/-- Whoever exchanges comes to an end with any answer, and leaves the turn to the next one. -/
theorem Listings.exchange_ends {run : Listings} (inTurn : run.calls.InTurn) {caller : Nat}
    {since : Instant} (exchanging : run.calls.positions caller = some (.exchanging since))
    (delivery : Delivery) :
    let granted := Grant.ofDelivery delivery
    let ended := (run.step (.identify caller granted)).calls
    Ends since run.calls.desk.current granted (run.calls.desk.settle caller granted).2
        ended.desk.current ∧
      ended.desk.turns = run.calls.desk.turns.pass ∧ ended.desk.exchanging = none ∧
      ended.positions caller = none := by
  intro granted ended
  obtain ⟨held, busy⟩ := inTurn.busy caller since exchanging
  have finished : ended = run.calls.finish caller granted := by
    simp only [ended, Listings.step, exchanging, move_calls]
    simp only [Listings.note, TokenCalls.step, exchanging]
  obtain ⟨desk, gone⟩ := run.calls.finish_settles caller granted
  obtain ⟨turns, idle⟩ := run.calls.desk.settle_leaves caller granted
  rw [Desk.leave_holder held] at turns idle
  rw [finished, desk]
  exact ⟨Desk.settle_ends busy caller delivery, turns, idle, gone⟩

theorem Visit.token_ends {visit : Visit} (stale : visit.desk.fresh? visit.now = none) :
    ∃ kept, Ends visit.now visit.desk.current (Grant.ofDelivery visit.exchanged) visit.token?
      kept := by
  let begun : Desk := { visit.desk with exchanging := some visit.now }
  have busy : begun.exchanging = some visit.now := rfl
  rw [token_settled stale]
  exact ⟨_, Desk.settle_ends busy visit.caller visit.exchanged⟩

theorem Visit.token_none_iff (visit : Visit) :
    visit.token? = none ↔ visit.desk.fresh? visit.now = none ∧
      Overlong visit.now (Grant.ofDelivery visit.exchanged) := by
  cases fresh : visit.desk.fresh? visit.now with
  | some secret => simp [token_fresh fresh]
  | none =>
      obtain ⟨kept, ends⟩ := token_ends fresh
      simp [ends.broken_iff]

/-- A caller that finds a fresh token gets it. Any other one gets the error or the token of its
exchange, whatever is answered, and breaks down exactly if the token would last beyond the clock's
range. In every run the end of an exchange leaves the desk with the new token, dated from the
exchange's beginning, or else with the old one, and the turn with the next caller; so the token at
the desk is always dated like that. -/
theorem tokens_dated_from_exchange (baseUrl : String) (now : Instant) (acts : List Listings.Act) :
    let run := Listings.run baseUrl now acts
    (∀ visit : Visit,
      (∀ secret, visit.desk.fresh? visit.now = some secret →
        visit.token? = some (.ok secret)) ∧
      (visit.desk.fresh? visit.now = none → ∃ kept, Ends visit.now visit.desk.current
        (Grant.ofDelivery visit.exchanged) visit.token? kept) ∧
      (visit.token? = none ↔ visit.desk.fresh? visit.now = none ∧
        Overlong visit.now (Grant.ofDelivery visit.exchanged))) ∧
    (∀ caller since, run.calls.positions caller = some (.exchanging since) → ∀ delivery,
      let granted := Grant.ofDelivery delivery
      let ended := (run.step (.identify caller granted)).calls
      Ends since run.calls.desk.current granted (run.calls.desk.settle caller granted).2
          ended.desk.current ∧
        ended.desk.turns = run.calls.desk.turns.pass ∧ ended.desk.exchanging = none ∧
        ended.positions caller = none) ∧
    ∀ token, run.calls.desk.current = some token → Stocked run.history token := by
  intro run
  have sound : run.Sound := Listings.run_sound baseUrl now acts
  refine ⟨?_, ?_, sound.stocked⟩
  · intro visit
    exact ⟨fun secret => Visit.token_fresh, Visit.token_ends, visit.token_none_iff⟩
  · intro caller since exchanging delivery
    exact Listings.exchange_ends sound.inTurn exchanging delivery

/-- A token response with a token and this lifetime. -/
def tokenResponse (expiresIn : String) : Delivery :=
  .answer 200 (some (Text.utf8
    ("\x7b\"access_token\": \"t1\", \"expires_in\": " ++ expiresIn ++ "\x7d")))

/-- A caller that has begun its exchange. -/
def exchangingCaller : List Listings.Act := [.fetch "A", .ask 0, .look 0]

/-- A token that is granted for an hour is given up after fifty-five minutes. -/
theorem hour_long_token_dated :
    let run := Listings.run "https://vault.example.com" 7 exchangingCaller
    run.calls.positions 0 = some (.exchanging 7) ∧
      (run.step (.identify 0 (Grant.ofDelivery (tokenResponse "3600")))).calls.desk.current =
        some ⟨⟨"t1"⟩, 7 + 55 * 60 * nanosPerSecond⟩ := by
  intro run
  have exchanging : run.calls.positions 0 = some (.exchanging 7) := by decide +kernel
  have granted : Grant.ofDelivery (tokenResponse "3600") = .ok ⟨⟨"t1"⟩, .ofSeconds 3600⟩ := by
    decide +kernel
  have dated := tokens_dated_from_exchange "https://vault.example.com" 7 exchangingCaller
  obtain ⟨ends, _⟩ := dated.2.1 0 7 exchanging (tokenResponse "3600")
  rw [granted] at ends ⊢
  obtain ⟨_, kept⟩ := ends.dated rfl (by decide)
  refine ⟨exchanging, ?_⟩
  rw [kept]
  decide

/-- The longest lifetime that can be told is granted, and the caller breaks down over it. -/
theorem longest_lifetime_breaks :
    let visit : Visit :=
      { Visit.starting none with identity := fun _ => tokenResponse "18446744073709551615" }
    Grant.ofDelivery visit.exchanged = .ok ⟨⟨"t1"⟩, .ofSeconds secondsBound⟩ ∧
      visit.token? = none := by
  intro visit
  have granted : Grant.ofDelivery visit.exchanged = .ok ⟨⟨"t1"⟩, .ofSeconds secondsBound⟩ := by
    decide +kernel
  refine ⟨granted, (Visit.token_none_iff visit).mpr ⟨rfl, _, secondsBound, granted, rfl, ?_⟩⟩
  decide

end SecretBroker.Api
