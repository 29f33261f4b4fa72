import SecretBroker.Proofs.TokenTurns

/-!
Callers that come together share one exchange. Whoever exchanges holds the turn, so there is one
exchange at a time; and from the end of the first one that brings a token nobody exchanges, as
long as the token is fresh and nobody forgets it.
-/

namespace SecretBroker.Api

def Event.begins : Event → Bool
  | .began _ => true
  | _ => false

def Event.grants : Event → Bool
  | .granted _ _ => true
  | _ => false

/-- The end of an exchange that brought no token. -/
def Event.fails : Event → Bool
  | .failed _ | .abandoned _ => true
  | _ => false

/-- What may be recorded while a token lasts: callers that it serves, and callers that are given
up before they exchange. -/
def Event.Shares (event : Event) (token : Token) : Prop :=
  (∃ caller, event = .served caller token.secret) ∨ ∃ caller, event = .left caller

namespace TokenCalls

variable {calls after : TokenCalls}

/-- Every exchange that has begun has ended in one way or the other, or is the one in flight. -/
def Accounted (calls : TokenCalls) : Prop :=
  calls.history.countP Event.begins = calls.history.countP Event.grants +
    calls.history.countP Event.fails + calls.desk.exchanging.toList.length

theorem Accounted.quiet (accounted : calls.Accounted) {event : Event}
    (grown : after.history = event :: calls.history)
    (sameExchange : after.desk.exchanging = calls.desk.exchanging)
    (begins : event.begins = false) (grants : event.grants = false) (fails : event.fails = false) :
    after.Accounted := by
  simpa [Accounted, grown, sameExchange, begins, grants, fails] using accounted

/-- The exchange in flight ends. -/
theorem Accounted.ended (accounted : calls.Accounted) {since : Instant} (events : List Event)
    (grown : after.history = events ++ calls.history)
    (before : calls.desk.exchanging = some since) (done : after.desk.exchanging = none)
    (begins : events.countP Event.begins = 0)
    (one : events.countP Event.grants + events.countP Event.fails = 1) : after.Accounted := by
  simp only [Accounted, grown, done, List.countP_append, begins, Option.toList_none,
    List.length_nil]
  simp only [Accounted, before, Option.toList_some, List.length_singleton] at accounted
  omega

/-- A caller that does not exchange leaves the exchange in flight alone. -/
theorem InTurn.leave_queued (inTurn : calls.InTurn) {caller : Nat}
    (queued : calls.positions caller = some .queued) :
    (calls.desk.leave caller).exchanging = calls.desk.exchanging := by
  by_cases held : calls.desk.turns.holder = some caller
  · rw [Desk.leave_holder held, inTurn.idle_holder queued held]
  · exact Desk.leave_waiting held

theorem Moves.accounted (moves : calls.Moves after) (inTurn : calls.InTurn)
    (accounted : calls.Accounted) : after.Accounted := by
  cases moves with
  | still | comeLooked | ask | elapsed => exact accounted
  | comeServed fresh => exact accounted.quiet rfl rfl rfl rfl rfl
  | served queued held fresh =>
      exact accounted.quiet rfl (inTurn.leave_queued queued) rfl rfl rfl
  | began queued held stale =>
      have idle := inTurn.idle_holder queued held
      simpa [Accounted, idle, note, place, withDesk, List.countP_cons, Event.begins, Event.grants,
        Event.fails] using accounted
  | @granted caller since token exchanging =>
      have busy := inTurn.busy caller since exchanging
      refine accounted.ended [_, _] rfl busy.2 ?_ rfl rfl
      exact congrArg Desk.exchanging (Desk.leave_holder busy.1)
  | @failed caller since exchanging =>
      have busy := inTurn.busy caller since exchanging
      refine accounted.ended [_] rfl busy.2 ?_ rfl rfl
      exact congrArg Desk.exchanging (Desk.leave_holder busy.1)
  | lookedLeft looked => exact accounted.quiet rfl rfl rfl rfl rfl
  | queuedLeft queued => exact accounted.quiet rfl (inTurn.leave_queued queued) rfl rfl rfl
  | @abandoned caller since exchanging =>
      have busy := inTurn.busy caller since exchanging
      refine accounted.ended [_] rfl busy.2 ?_ rfl rfl
      exact congrArg Desk.exchanging (Desk.leave_holder busy.1)
  | invalidated => exact accounted.quiet rfl rfl rfl rfl rfl

/-- A token that was granted and not forgotten stays, and no exchange begins, while it is fresh. -/
def Lasting (calls : TokenCalls) : Prop :=
  ∀ later grantee token earlier, calls.history = later ++ .granted grantee token :: earlier →
    .invalidated ∉ later → calls.now < token.expiry →
      calls.desk.current = some token ∧ calls.desk.exchanging = none ∧
        ∀ event ∈ later, event.Shares token

theorem Lasting.silent (lasting : calls.Lasting) (same : after.history = calls.history)
    (order : calls.now ≤ after.now) (sameCurrent : after.desk.current = calls.desk.current)
    (sameExchange : after.desk.exchanging = calls.desk.exchanging) : after.Lasting := by
  intro later grantee token earlier split kept young
  rw [same] at split
  rw [sameCurrent, sameExchange]
  exact lasting later grantee token earlier split kept (Nat.lt_of_le_of_lt order young)

/-- An event that grants nothing, recorded where every token that lasts is kept. -/
theorem Lasting.grow (lasting : calls.Lasting) (event : Event)
    (grown : after.history = event :: calls.history) (order : calls.now ≤ after.now)
    (plain : event.grants = false)
    (keeps : ∀ token, calls.desk.current = some token → calls.desk.exchanging = none →
      calls.now < token.expiry → event ≠ .invalidated →
        after.desk.current = some token ∧ after.desk.exchanging = none ∧ event.Shares token) :
    after.Lasting := by
  intro later grantee token earlier split kept young
  rw [grown] at split
  cases later with
  | nil =>
      obtain ⟨rfl, _⟩ := List.cons.inj split
      cases plain
  | cons head rest =>
      obtain ⟨rfl, tail⟩ := List.cons.inj split
      rw [List.mem_cons, not_or] at kept
      have fresh := Nat.lt_of_le_of_lt order young
      obtain ⟨current, idle, shared⟩ := lasting rest grantee token earlier tail kept.2 fresh
      obtain ⟨stays, still, head⟩ := keeps token current idle fresh fun same => kept.1 same.symm
      exact ⟨stays, still, List.forall_mem_cons.mpr ⟨head, shared⟩⟩

theorem Moves.lasting (moves : calls.Moves after) (inTurn : calls.InTurn)
    (lasting : calls.Lasting) : after.Lasting := by
  -- A caller that is served while a token lasts is served with that token.
  have shares : ∀ {secret : Secret} (caller : Nat) (token : Token),
      calls.desk.fresh? calls.now = some secret → calls.desk.current = some token →
        calls.now < token.expiry → (Event.served caller secret).Shares token := by
    intro secret caller token fresh current young
    rw [Desk.fresh_current current young] at fresh
    obtain rfl := Option.some.inj fresh
    exact Or.inl ⟨caller, rfl⟩
  have leaves : ∀ caller, calls.desk.exchanging = none →
      (calls.desk.leave caller).exchanging = none := by
    intro caller idle
    simp [Desk.leave, idle]
  cases moves with
  | still | comeLooked | ask => exact lasting.silent rfl (Nat.le_refl _) rfl rfl
  | elapsed span => exact lasting.silent rfl (Nat.le_add_right _ _) rfl rfl
  | comeServed fresh =>
      refine lasting.grow _ rfl (Nat.le_refl _) rfl ?_
      intro token current idle young _
      exact ⟨current, idle, shares _ token fresh current young⟩
  | served queued held fresh =>
      refine lasting.grow _ rfl (Nat.le_refl _) rfl ?_
      intro token current idle young _
      exact ⟨current, leaves _ idle, shares _ token fresh current young⟩
  | began queued held stale =>
      refine lasting.grow _ rfl (Nat.le_refl _) rfl ?_
      intro token current _ young _
      -- Whoever has the turn would have found the token that lasts.
      rw [Desk.fresh_current current young] at stale
      cases stale
  | @granted caller since token exchanging =>
      have busy := inTurn.busy caller since exchanging
      intro later grantee other earlier split kept young
      rcases later with _ | ⟨head, _ | ⟨second, rest⟩⟩
      · cases (List.cons.inj split).1
      · obtain ⟨rfl, tail⟩ := List.cons.inj split
        obtain ⟨same, _⟩ := List.cons.inj tail
        obtain ⟨_, rfl⟩ := Event.granted.inj same
        refine ⟨rfl, congrArg Desk.exchanging (Desk.leave_holder busy.1), ?_⟩
        exact List.forall_mem_cons.mpr ⟨Or.inl ⟨caller, rfl⟩, by simp⟩
      · -- An earlier token that lasts would have kept the caller from its exchange.
        obtain ⟨_, tail⟩ := List.cons.inj split
        obtain ⟨_, older⟩ := List.cons.inj tail
        have unforgotten : .invalidated ∉ rest := by
          simp only [List.mem_cons, not_or] at kept
          exact kept.2.2
        obtain ⟨_, idle, _⟩ := lasting rest grantee other earlier older unforgotten young
        rw [busy.2] at idle
        cases idle
  | @failed caller since exchanging =>
      refine lasting.grow _ rfl (Nat.le_refl _) rfl ?_
      intro token _ idle _ _
      rw [(inTurn.busy caller since exchanging).2] at idle
      cases idle
  | lookedLeft looked =>
      refine lasting.grow _ rfl (Nat.le_refl _) rfl ?_
      intro token current idle _ _
      exact ⟨current, idle, Or.inr ⟨_, rfl⟩⟩
  | queuedLeft queued =>
      refine lasting.grow _ rfl (Nat.le_refl _) rfl ?_
      intro token current idle _ _
      exact ⟨current, leaves _ idle, Or.inr ⟨_, rfl⟩⟩
  | @abandoned caller since exchanging =>
      refine lasting.grow _ rfl (Nat.le_refl _) rfl ?_
      intro token _ idle _ _
      rw [(inTurn.busy caller since exchanging).2] at idle
      cases idle
  | invalidated =>
      refine lasting.grow _ rfl (Nat.le_refl _) rfl ?_
      intro token _ _ _ unforgotten
      exact absurd rfl unforgotten

/-- Where no token was fresh to begin with, there is none before one is granted, and nobody is
served before that. -/
structure Owing (calls : TokenCalls) : Prop where
  stale : (∀ event ∈ calls.history, event.grants = false) → calls.desk.fresh? calls.now = none
  sources : ∀ later caller secret earlier,
    calls.history = later ++ .served caller secret :: earlier →
      ∃ event ∈ earlier, event.grants = true

theorem Owing.granted (owing : calls.Owing) {secret : Secret}
    (fresh : calls.desk.fresh? calls.now = some secret) :
    ∃ event ∈ calls.history, event.grants = true := by
  by_cases barren : ∀ event ∈ calls.history, event.grants = false
  · rw [owing.stale barren] at fresh
    cases fresh
  · simpa using barren

theorem Owing.silent (owing : calls.Owing) (same : after.history = calls.history)
    (stale : calls.desk.fresh? calls.now = none → after.desk.fresh? after.now = none) :
    after.Owing where
  stale barren := by
    rw [same] at barren
    exact stale (owing.stale barren)
  sources := by
    rw [same]
    exact owing.sources

theorem Owing.grow (owing : calls.Owing) (event : Event)
    (grown : after.history = event :: calls.history)
    (stale : calls.desk.fresh? calls.now = none → after.desk.fresh? after.now = none)
    (sourced : ∀ caller secret, event = .served caller secret →
      ∃ earlier ∈ calls.history, earlier.grants = true) : after.Owing where
  stale barren := by
    rw [grown] at barren
    exact stale (owing.stale (List.forall_mem_cons.mp barren).2)
  sources later caller secret earlier split := by
    rw [grown] at split
    cases later with
    | nil =>
        obtain ⟨same, rfl⟩ := List.cons.inj split
        exact sourced caller secret same
    | cons head rest => exact owing.sources rest caller secret earlier (List.cons.inj split).2

theorem Moves.owing (moves : calls.Moves after) (owing : calls.Owing) : after.Owing := by
  cases moves with
  | still | comeLooked | ask => exact owing.silent rfl id
  | elapsed span => exact owing.silent rfl (Desk.fresh_of_later (Nat.le_add_right _ _))
  | comeServed fresh => exact owing.grow _ rfl id fun _ _ _ => owing.granted fresh
  | served queued held fresh => exact owing.grow _ rfl id fun _ _ _ => owing.granted fresh
  | @granted caller since token exchanging =>
      refine ⟨fun barren => ?_, ?_⟩
      · have plain := barren (.granted caller token) (by simp [note])
        cases plain
      · intro later other secret earlier split
        rcases later with _ | ⟨head, _ | ⟨second, rest⟩⟩
        · obtain ⟨_, rfl⟩ := List.cons.inj split
          exact ⟨_, List.mem_cons_self, rfl⟩
        · cases (List.cons.inj (List.cons.inj split).2).1
        · exact owing.sources rest other secret earlier (List.cons.inj (List.cons.inj split).2).2
  | began | failed | lookedLeft | queuedLeft | abandoned =>
      exact owing.grow _ rfl id fun _ _ same => by cases same
  | invalidated => exact owing.grow _ rfl (fun _ => rfl) fun _ _ same => by cases same

theorem run_in_turn (current : Option Token) (now : Instant) (acts : List Act) :
    (run current now acts).InTurn :=
  List.foldlRecOn acts step (start_in_turn current now) fun calls inTurn act _ =>
    (step_moves calls act).in_turn inTurn

/-- What is kept by the moves of callers that take their turns holds of every run. -/
theorem run_invariant (holds : TokenCalls → Prop) (current : Option Token) (now : Instant)
    (acts : List Act) (initially : holds (start current now))
    (kept : ∀ calls after, calls.InTurn → calls.Moves after → holds calls → holds after) :
    holds (run current now acts) := by
  have both := List.foldlRecOn (motive := fun calls => calls.InTurn ∧ holds calls) acts step
    ⟨start_in_turn current now, initially⟩ fun calls held act _ =>
      ⟨(step_moves calls act).in_turn held.1, kept _ _ held.1 (step_moves calls act) held.2⟩
  exact both.2

theorem run_accounted (current : Option Token) (now : Instant) (acts : List Act) :
    (run current now acts).Accounted :=
  run_invariant Accounted current now acts rfl fun _ _ inTurn moves => moves.accounted inTurn

theorem run_lasting (current : Option Token) (now : Instant) (acts : List Act) :
    (run current now acts).Lasting := by
  refine run_invariant Lasting current now acts ?_ fun _ _ inTurn moves => moves.lasting inTurn
  intro later grantee token earlier split
  simp [start] at split

theorem run_owing (current : Option Token) (now : Instant) (acts : List Act)
    (stale : (start current now).desk.fresh? now = none) : (run current now acts).Owing := by
  refine run_invariant Owing current now acts ⟨fun _ => stale, ?_⟩ fun _ _ _ moves => moves.owing
  intro later caller secret earlier split
  simp [start] at split

theorem look_fresh {caller : Nat} {secret : Secret}
    (queued : calls.positions caller = some .queued)
    (held : calls.desk.turns.holder = some caller)
    (fresh : calls.desk.fresh? calls.now = some secret) :
    calls.step (.look caller) =
      ((calls.withDesk (calls.desk.leave caller)).note (.served caller secret)).place caller
        none := by
  simp [step, queued, held, look, Desk.proceed_fresh fresh]

theorem began_of_move {caller : Nat} (moves : calls.Moves after)
    (began : after.history = .began caller :: calls.history) :
    calls.positions caller = some .queued ∧ calls.desk.turns.holder = some caller ∧
      calls.desk.fresh? calls.now = none := by
  cases moves with
  | began queued held stale =>
      obtain ⟨same, _⟩ := List.cons.inj began
      obtain rfl := Event.began.inj same
      exact ⟨queued, held, stale⟩
  | still | comeLooked | ask | elapsed => exact absurd began.symm (List.cons_ne_self _ _)
  | comeServed | served | failed | lookedLeft | queuedLeft | abandoned | invalidated =>
      cases (List.cons.inj began).1
  | granted => cases (List.cons.inj began).1

/-- An exchange that ends without a token changes nothing but whose turn it is. -/
theorem end_without_token (inTurn : calls.InTurn) {caller : Nat} {since : Instant} (act : Act)
    (exchanging : calls.positions caller = some (.exchanging since))
    (fruitless : act = .giveUp caller ∨
      ∃ answer, act = .finish caller answer ∧ calls.desk.brought? answer = none) :
    (calls.step act).desk =
        { calls.desk with turns := calls.desk.turns.pass, exchanging := none } ∧
      (calls.step act).positions caller = none := by
  have leaves := Desk.leave_holder (inTurn.busy caller since exchanging).1
  rcases fruitless with rfl | ⟨answer, rfl, barren⟩
  · simp only [step, exchanging, giveUp]
    exact ⟨leaves, place_same _ _ _⟩
  · simp only [step, exchanging, finish_barren barren]
    exact ⟨leaves, place_same _ _ _⟩

theorem shared_counts {later : List Event} {token : Token}
    (shares : ∀ event ∈ later, event.Shares token) :
    later.countP Event.begins = 0 ∧ later.countP Event.grants = 0 ∧
      later.countP Event.fails = 0 := by
  refine ⟨?_, ?_, ?_⟩ <;>
    refine List.countP_eq_zero.mpr fun event member => ?_ <;>
    rcases shares event member with ⟨caller, rfl⟩ | ⟨caller, rfl⟩ <;>
    exact Bool.false_ne_true

/-- Where nothing but sharing has followed the first grant, all other exchanges have failed. -/
theorem Accounted.first_grant (accounted : calls.Accounted) (idle : calls.desk.exchanging = none)
    {later earlier : List Event} {grantee : Nat} {token : Token}
    (split : calls.history = later ++ .granted grantee token :: earlier)
    (first : ∀ event ∈ earlier, event.grants = false)
    (shares : ∀ event ∈ later, event.Shares token) :
    calls.history.countP Event.begins = 1 + earlier.countP Event.fails := by
  obtain ⟨_, grants, fails⟩ := shared_counts shares
  have none_earlier : earlier.countP Event.grants = 0 :=
    List.countP_eq_zero.mpr fun event member => by simp [first event member]
  have one : calls.history.countP Event.grants = 1 := by
    rw [split, List.countP_append, grants, List.countP_cons_of_pos rfl, none_earlier]
  have before : calls.history.countP Event.fails = earlier.countP Event.fails := by
    rw [split, List.countP_append, fails, List.countP_cons_of_neg Bool.false_ne_true, Nat.zero_add]
  rw [Accounted, idle, one, before] at accounted
  exact accounted

theorem Owing.first_grant (owing : calls.Owing) {later earlier : List Event} {grantee : Nat}
    {token : Token} (split : calls.history = later ++ .granted grantee token :: earlier)
    (first : ∀ event ∈ earlier, event.grants = false) (caller : Nat) (secret : Secret) :
    .served caller secret ∉ earlier := by
  intro member
  obtain ⟨between, before, inside⟩ := List.append_of_mem member
  have whole : calls.history =
      (later ++ .granted grantee token :: between) ++ .served caller secret :: before := by
    rw [split, inside, List.append_assoc, List.cons_append]
  obtain ⟨event, older, grants⟩ := owing.sources _ _ _ _ whole
  have among : event ∈ earlier := by
    rw [inside]
    exact List.mem_append_right _ (List.mem_cons_of_mem _ older)
  rw [first event among] at grants
  cases grants

/-- In every run: one exchange is in flight at most; it begins only where the caller that has the
turn finds no fresh token; a token that was brought, is fresh and was not forgotten is what the
next caller that has the turn returns with; and an exchange that fails or is given up leaves the
token as it was and passes the turn on. So if the first token that was brought is still fresh and
not forgotten, the exchanges are that one and those that failed before it, and every caller that
has been served since has this token. -/
theorem exchanges_are_shared (current : Option Token) (now : Instant) (acts : List Act) :
    let calls := run current now acts
    (∀ caller other since later, calls.positions caller = some (.exchanging since) →
      calls.positions other = some (.exchanging later) → caller = other) ∧
    (∀ act caller, (calls.step act).history = .began caller :: calls.history →
      calls.positions caller = some .queued ∧ calls.desk.turns.holder = some caller ∧
        calls.desk.fresh? calls.now = none) ∧
    (∀ later grantee token earlier, calls.history = later ++ .granted grantee token :: earlier →
      .invalidated ∉ later → calls.now < token.expiry →
        ∀ caller, calls.positions caller = some .queued →
          calls.desk.turns.holder = some caller →
            (calls.step (.look caller)).history = .served caller token.secret :: calls.history ∧
              (calls.step (.look caller)).positions caller = none) ∧
    (∀ act caller since, calls.positions caller = some (.exchanging since) →
      (act = .giveUp caller ∨
        ∃ answer, act = .finish caller answer ∧ calls.desk.brought? answer = none) →
          (calls.step act).desk =
              { calls.desk with turns := calls.desk.turns.pass, exchanging := none } ∧
            (calls.step act).positions caller = none) ∧
    ∀ later grantee token earlier, calls.history = later ++ .granted grantee token :: earlier →
      (∀ event ∈ earlier, event.grants = false) → .invalidated ∉ later →
        calls.now < token.expiry →
          calls.history.countP Event.begins = 1 + earlier.countP Event.fails ∧
            (∀ event ∈ later, event.Shares token) ∧
            ((start current now).desk.fresh? now = none →
              ∀ caller secret, .served caller secret ∉ earlier) := by
  intro calls
  have inTurn : calls.InTurn := run_in_turn current now acts
  have lasting : calls.Lasting := run_lasting current now acts
  refine ⟨?_, ?_, ?_, ?_, ?_⟩
  · intro caller other since later exchanging again
    have holds := (inTurn.busy caller since exchanging).1
    exact Option.some.inj (holds.symm.trans (inTurn.busy other later again).1)
  · exact fun act caller began => began_of_move (step_moves calls act) began
  · intro later grantee token earlier split kept young caller queued held
    obtain ⟨stays, _, _⟩ := lasting later grantee token earlier split kept young
    rw [look_fresh queued held (Desk.fresh_current stays young)]
    exact ⟨rfl, place_same _ _ _⟩
  · exact fun act caller since exchanging fruitless =>
      end_without_token inTurn act exchanging fruitless
  · intro later grantee token earlier split first kept young
    obtain ⟨_, idle, shares⟩ := lasting later grantee token earlier split kept young
    have accounted : calls.Accounted := run_accounted current now acts
    refine ⟨accounted.first_grant idle split first shares, shares, ?_⟩
    intro stale
    exact (run_owing current now acts stale).first_grant split first

/-- The first of three callers gives its exchange up, and the token of the second one's serves the
third, which waits for the turn meanwhile. -/
theorem waiter_served_with_token :
    let calls := run none 0 [.come, .come, .come, .ask 0, .ask 1, .ask 2, .look 0, .giveUp 0,
      .look 1, .finish 1 (.ok ⟨⟨"token"⟩, .ofSeconds 600⟩)]
    let token : Token := ⟨⟨"token"⟩, 300000000000⟩
    let earlier : List Event := [.began 1, .abandoned 0, .began 0]
    calls.history = [.served 1 ⟨"token"⟩] ++ .granted 1 token :: earlier ∧
      calls.now < token.expiry ∧ calls.positions 2 = some .queued ∧
      calls.desk.turns.holder = some 2 ∧
      (calls.step (.look 2)).history = .served 2 ⟨"token"⟩ :: calls.history ∧
      calls.history.countP Event.begins = 1 + earlier.countP Event.fails := by
  intro calls token earlier
  have history : calls.history = [.served 1 ⟨"token"⟩] ++ .granted 1 token :: earlier := by
    decide +kernel
  have young : calls.now < token.expiry := by decide +kernel
  have kept : Event.invalidated ∉ [.served 1 ⟨"token"⟩] := by decide
  have queued : calls.positions 2 = some .queued := by decide +kernel
  have held : calls.desk.turns.holder = some 2 := by decide +kernel
  have first : ∀ event ∈ earlier, event.grants = false := by decide
  obtain ⟨-, -, serves, -, counts⟩ := exchanges_are_shared none 0 [.come, .come, .come, .ask 0,
    .ask 1, .ask 2, .look 0, .giveUp 0, .look 1, .finish 1 (.ok ⟨⟨"token"⟩, .ofSeconds 600⟩)]
  exact ⟨history, young, queued, held, (serves _ 1 token earlier history kept young 2 queued held).1,
    (counts _ 1 token earlier history first kept young).1⟩

end TokenCalls
end SecretBroker.Api
