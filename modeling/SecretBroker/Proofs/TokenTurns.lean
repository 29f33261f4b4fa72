import Mathlib.Data.List.Induction
import SecretBroker.Proofs.TokenCalls
import SecretBroker.Proofs.TurnQueue

/-!
What one act of a caller for a token can do, and what stays true of the turns meanwhile: whoever
has asked is in the queue once, and whoever exchanges holds the turn.
-/

namespace SecretBroker.Api

namespace Desk

variable {desk : Desk} {now : Instant} {caller : Nat}

theorem fresh_current {token : Token} (current : desk.current = some token)
    (young : now < token.expiry) : desk.fresh? now = some token.secret := by
  simp [fresh?, current, Token.isFresh, young]

theorem fresh_of_later {later : Instant} (order : now ≤ later) (stale : desk.fresh? now = none) :
    desk.fresh? later = none := by
  cases current : desk.current with
  | none => simp [fresh?, current]
  | some token =>
      by_cases young : later < token.expiry
      · rw [fresh_current current (Nat.lt_of_le_of_lt order young)] at stale
        cases stale
      · simp [fresh?, current, Token.isFresh, young]

theorem proceed_fresh {secret : Secret} (fresh : desk.fresh? now = some secret) :
    desk.proceed caller now = (desk.leave caller, .served secret) := by
  simp [proceed, fresh]

theorem proceed_stale (stale : desk.fresh? now = none) :
    desk.proceed caller now = ({ desk with exchanging := some now }, .exchange) := by
  simp [proceed, stale]

theorem settle_brought {answer : Answer Grant} {token : Token}
    (brought : desk.brought? answer = some token) :
    desk.settle caller answer =
      ({ desk.leave caller with current := some token }, some (.ok token.secret)) := by
  cases answer with
  | error error => cases brought
  | ok grant =>
      change desk.tokenOf? grant = some token at brought
      change desk.receive caller (desk.tokenOf? grant) = _
      rw [brought]
      rfl

theorem settle_barren {answer : Answer Grant} (barren : desk.brought? answer = none) :
    (desk.settle caller answer).1 = desk.leave caller := by
  cases answer with
  | error error => rfl
  | ok grant =>
      change desk.tokenOf? grant = none at barren
      change (desk.receive caller (desk.tokenOf? grant)).1 = _
      rw [barren]
      rfl

/-- The holder of the turn leaves it to the next one, and its exchange is over. -/
theorem leave_holder (held : desk.turns.holder = some caller) :
    desk.leave caller = { desk with turns := desk.turns.pass, exchanging := none } := by
  rw [leave, Turns.leave_holder held, if_pos (Turns.holds_iff.mpr held)]

theorem leave_waiting (waits : desk.turns.holder ≠ some caller) :
    (desk.leave caller).exchanging = desk.exchanging :=
  if_neg fun holds => waits (Turns.holds_iff.mp holds)

end Desk

namespace TokenCalls

variable {calls after : TokenCalls}

/-- Everything that one act can do. -/
inductive Moves (calls : TokenCalls) : TokenCalls → Prop where
  | still : Moves calls calls
  | comeServed {secret : Secret} (fresh : calls.desk.fresh? calls.now = some secret) :
    Moves calls (({ calls with callers := calls.callers + 1 } : TokenCalls).note
      (.served calls.callers secret))
  | comeLooked (stale : calls.desk.fresh? calls.now = none) :
    Moves calls (({ calls with callers := calls.callers + 1 } : TokenCalls).place calls.callers
      (some .looked))
  | ask {caller : Nat} (looked : calls.positions caller = some .looked) :
    Moves calls ((calls.withDesk (calls.desk.ask caller)).place caller (some .queued))
  | served {caller : Nat} {secret : Secret} (queued : calls.positions caller = some .queued)
    (held : calls.desk.turns.holder = some caller)
    (fresh : calls.desk.fresh? calls.now = some secret) :
    Moves calls (((calls.withDesk (calls.desk.leave caller)).note (.served caller secret)).place
      caller none)
  | began {caller : Nat} (queued : calls.positions caller = some .queued)
    (held : calls.desk.turns.holder = some caller)
    (stale : calls.desk.fresh? calls.now = none) :
    Moves calls (((calls.withDesk { calls.desk with exchanging := some calls.now }).note
      (.began caller)).place caller (some (.exchanging calls.now)))
  | granted {caller : Nat} {since : Instant} {token : Token}
    (exchanging : calls.positions caller = some (.exchanging since)) :
    Moves calls ((((calls.withDesk { calls.desk.leave caller with current := some token }).place
      caller none).note (.granted caller token)).note (.served caller token.secret))
  | failed {caller : Nat} {since : Instant}
    (exchanging : calls.positions caller = some (.exchanging since)) :
    Moves calls (((calls.withDesk (calls.desk.leave caller)).place caller none).note
      (.failed caller))
  | lookedLeft {caller : Nat} (looked : calls.positions caller = some .looked) :
    Moves calls ((calls.note (.left caller)).place caller none)
  | queuedLeft {caller : Nat} (queued : calls.positions caller = some .queued) :
    Moves calls (((calls.withDesk (calls.desk.leave caller)).note (.left caller)).place caller none)
  | abandoned {caller : Nat} {since : Instant}
    (exchanging : calls.positions caller = some (.exchanging since)) :
    Moves calls (((calls.withDesk (calls.desk.leave caller)).note (.abandoned caller)).place caller
      none)
  | invalidated : Moves calls ((calls.withDesk calls.desk.invalidate).note .invalidated)
  | elapsed (span : Nat) : Moves calls { calls with now := calls.now + span }

theorem finish_brought {caller : Nat} {answer : Answer Grant} {token : Token}
    (brought : calls.desk.brought? answer = some token) :
    calls.finish caller answer =
      (((calls.withDesk { calls.desk.leave caller with current := some token }).place caller
        none).note (.granted caller token)).note (.served caller token.secret) := by
  simp [finish, brought, Desk.settle_brought brought]

theorem finish_barren {caller : Nat} {answer : Answer Grant}
    (barren : calls.desk.brought? answer = none) :
    calls.finish caller answer =
      ((calls.withDesk (calls.desk.leave caller)).place caller none).note (.failed caller) := by
  simp [finish, barren, Desk.settle_barren barren]

theorem step_moves (calls : TokenCalls) (act : Act) : calls.Moves (calls.step act) := by
  cases act with
  | come =>
      cases fresh : calls.desk.fresh? calls.now with
      | some secret =>
          simp only [step, come, fresh]
          exact .comeServed fresh
      | none =>
          simp only [step, come, fresh]
          exact .comeLooked fresh
  | ask caller =>
      by_cases looked : calls.positions caller = some .looked
      · simp only [step, if_pos looked]
        exact .ask looked
      · simp only [step, if_neg looked]
        exact .still
  | look caller =>
      by_cases turn : calls.positions caller = some .queued ∧ calls.desk.turns.holder = some caller
      · simp only [step, if_pos turn, look]
        cases fresh : calls.desk.fresh? calls.now with
        | some secret =>
            rw [Desk.proceed_fresh fresh]
            exact .served turn.1 turn.2 fresh
        | none =>
            rw [Desk.proceed_stale fresh]
            exact .began turn.1 turn.2 fresh
      · simp only [step, if_neg turn]
        exact .still
  | finish caller answer =>
      simp only [step]
      split
      · rename_i since exchanging
        cases brought : calls.desk.brought? answer with
        | some token =>
            rw [finish_brought brought]
            exact .granted exchanging
        | none =>
            rw [finish_barren brought]
            exact .failed exchanging
      · exact .still
  | giveUp caller =>
      simp only [step]
      split
      · rename_i position inside
        cases position with
        | looked => exact .lookedLeft inside
        | queued => exact .queuedLeft inside
        | exchanging since => exact .abandoned inside
      · exact .still
  | invalidate => exact .invalidated
  | elapse span => exact .elapsed span

/-- Callers that have asked for the turn are in the queue, once each, and the one that exchanges
holds the turn. -/
structure InTurn (calls : TokenCalls) : Prop where
  tidy : calls.desk.turns.Tidy
  once : calls.desk.turns.parties.Nodup
  queue : ∀ caller, caller ∈ calls.desk.turns.parties ↔
    ∃ position, calls.positions caller = some position ∧ position ≠ .looked
  busy : ∀ caller since, calls.positions caller = some (.exchanging since) →
    calls.desk.turns.holder = some caller ∧ calls.desk.exchanging = some since
  idle : (∀ caller since, calls.positions caller ≠ some (.exchanging since)) →
    calls.desk.exchanging = none
  numbered : ∀ caller, calls.callers ≤ caller → calls.positions caller = none

theorem place_same (calls : TokenCalls) (caller : Nat) (position : Option Position) :
    (calls.place caller position).positions caller = position :=
  Function.update_self _ _ _

theorem place_other (calls : TokenCalls) {caller other : Nat} (position : Option Position)
    (differs : other ≠ caller) :
    (calls.place caller position).positions other = calls.positions other :=
  Function.update_of_ne differs _ _

theorem start_in_turn (current : Option Token) (now : Instant) : (start current now).InTurn where
  tidy := Turns.free_tidy
  once := List.nodup_nil
  queue := by simp [start, Turns.parties, Turns.free]
  busy := by simp [start]
  idle _ := rfl
  numbered _ _ := rfl

theorem InTurn.below (inTurn : calls.InTurn) {caller : Nat} {position : Position}
    (inside : calls.positions caller = some position) : caller < calls.callers := by
  by_cases late : calls.callers ≤ caller
  · rw [inTurn.numbered caller late] at inside
    cases inside
  · exact Nat.lt_of_not_le late

/-- While nobody else than a queued caller holds the turn, nobody exchanges. -/
theorem InTurn.idle_holder (inTurn : calls.InTurn) {caller : Nat}
    (queued : calls.positions caller = some .queued)
    (held : calls.desk.turns.holder = some caller) : calls.desk.exchanging = none := by
  refine inTurn.idle fun other since exchanging => ?_
  have holds := (inTurn.busy other since exchanging).1
  obtain rfl := Option.some.inj (held.symm.trans holds)
  rw [queued] at exchanging
  cases exchanging

/-- The queue, the clock aside, is all that matters. -/
theorem InTurn.congr (inTurn : calls.InTurn) (sameTurns : after.desk.turns = calls.desk.turns)
    (sameExchange : after.desk.exchanging = calls.desk.exchanging)
    (samePositions : after.positions = calls.positions)
    (more : calls.callers ≤ after.callers) : after.InTurn where
  tidy := by rw [sameTurns]; exact inTurn.tidy
  once := by rw [sameTurns]; exact inTurn.once
  queue := by rw [sameTurns, samePositions]; exact inTurn.queue
  busy := by rw [sameTurns, sameExchange, samePositions]; exact inTurn.busy
  idle := by rw [sameExchange, samePositions]; exact inTurn.idle
  numbered caller late := by
    rw [samePositions]
    exact inTurn.numbered caller (Nat.le_trans more late)

/-- A caller leaves the queue. -/
theorem InTurn.leave (inTurn : calls.InTurn) {caller : Nat} {position : Position}
    (inside : calls.positions caller = some position)
    (sameTurns : after.desk.turns = calls.desk.turns.leave caller)
    (sameExchange : after.desk.exchanging = (calls.desk.leave caller).exchanging)
    (samePositions : after.positions = Function.update calls.positions caller none)
    (sameCallers : after.callers = calls.callers) : after.InTurn where
  tidy := by
    rw [sameTurns]
    exact Turns.leave_tidy inTurn.tidy
  once := by
    rw [sameTurns, Turns.leave_parties inTurn.once]
    exact inTurn.once.filter _
  queue other := by
    rw [sameTurns, Turns.leave_parties inTurn.once, List.mem_filter, inTurn.queue, samePositions]
    by_cases same : other = caller
    · subst same
      simp
    · simp [same]
  busy other since exchanging := by
    rw [samePositions] at exchanging
    by_cases same : other = caller
    · subst same
      simp at exchanging
    · rw [Function.update_of_ne same] at exchanging
      -- The turn is with the one that exchanges, and stays there.
      obtain ⟨holds, began⟩ := inTurn.busy other since exchanging
      have waits : calls.desk.turns.holder ≠ some caller := fun held =>
        same (Option.some.inj (holds.symm.trans held))
      rw [sameTurns, sameExchange, Turns.leave_waiting waits, Desk.leave_waiting waits]
      exact ⟨holds, began⟩
  idle nobody := by
    rw [sameExchange]
    by_cases held : calls.desk.turns.holder = some caller
    · rw [Desk.leave_holder held]
    · rw [Desk.leave_waiting held]
      refine inTurn.idle fun other since exchanging => ?_
      have differs : other ≠ caller := fun same =>
        held (same ▸ (inTurn.busy other since exchanging).1)
      refine nobody other since ?_
      rw [samePositions, Function.update_of_ne differs]
      exact exchanging
  numbered other late := by
    rw [sameCallers] at late
    have differs : other ≠ caller := Nat.ne_of_gt (Nat.lt_of_lt_of_le (inTurn.below inside) late)
    rw [samePositions, Function.update_of_ne differs]
    exact inTurn.numbered other late

/-- A caller that is not in the queue comes or goes. -/
theorem InTurn.aside (inTurn : calls.InTurn) {caller : Nat} (position : Option Position)
    (outside : ∀ prior, calls.positions caller = some prior → prior = .looked)
    (stays : ∀ next, position = some next → next = .looked)
    (sameDesk : after.desk = calls.desk)
    (samePositions : after.positions = Function.update calls.positions caller position)
    (more : calls.callers ≤ after.callers) (below : caller < after.callers) : after.InTurn where
  tidy := by rw [sameDesk]; exact inTurn.tidy
  once := by rw [sameDesk]; exact inTurn.once
  queue other := by
    rw [sameDesk, inTurn.queue, samePositions]
    by_cases same : other = caller
    · subst same
      rw [Function.update_self]
      constructor
      · rintro ⟨prior, inside, asked⟩
        exact absurd (outside prior inside) asked
      · rintro ⟨next, inside, asked⟩
        exact absurd (stays next inside) asked
    · rw [Function.update_of_ne same]
  busy other since exchanging := by
    rw [samePositions] at exchanging
    rw [sameDesk]
    by_cases same : other = caller
    · subst same
      rw [Function.update_self] at exchanging
      cases stays _ exchanging
    · rw [Function.update_of_ne same] at exchanging
      exact inTurn.busy other since exchanging
  idle nobody := by
    rw [sameDesk]
    refine inTurn.idle fun other since exchanging => ?_
    have differs : other ≠ caller := by
      rintro rfl
      cases outside _ exchanging
    refine nobody other since ?_
    rw [samePositions, Function.update_of_ne differs]
    exact exchanging
  numbered other late := by
    have differs : other ≠ caller := Nat.ne_of_gt (Nat.lt_of_lt_of_le below late)
    rw [samePositions, Function.update_of_ne differs]
    exact inTurn.numbered other (Nat.le_trans more late)

/-- A caller that has looked goes to the end of the queue. -/
theorem InTurn.ask (inTurn : calls.InTurn) {caller : Nat}
    (looked : calls.positions caller = some .looked) :
    ((calls.withDesk (calls.desk.ask caller)).place caller (some .queued)).InTurn where
  tidy := Turns.ask_tidy _ _
  once := by
    change (calls.desk.turns.ask caller).parties.Nodup
    rw [Turns.ask_parties inTurn.tidy, List.nodup_append]
    refine ⟨inTurn.once, by simp, ?_⟩
    intro other member last isLast
    rw [List.mem_singleton] at isLast
    rintro rfl
    obtain ⟨position, inside, asked⟩ := (inTurn.queue other).mp member
    rw [isLast, looked] at inside
    exact asked (Option.some.inj inside).symm
  queue other := by
    change other ∈ (calls.desk.turns.ask caller).parties ↔ _
    rw [Turns.ask_parties inTurn.tidy, List.mem_append, List.mem_singleton, inTurn.queue]
    by_cases same : other = caller
    · subst same
      simp [place_same]
    · rw [place_other _ _ same]
      simp [same, withDesk]
  busy other since exchanging := by
    by_cases same : other = caller
    · subst same
      rw [place_same] at exchanging
      cases exchanging
    · rw [place_other _ _ same] at exchanging
      obtain ⟨holds, began⟩ := inTurn.busy other since exchanging
      exact ⟨Turns.ask_holder holds, began⟩
  idle nobody := by
    refine inTurn.idle fun other since exchanging => ?_
    have differs : other ≠ caller := by
      rintro rfl
      rw [looked] at exchanging
      cases exchanging
    exact nobody other since ((place_other _ _ differs).trans exchanging)
  numbered other late := by
    have differs : other ≠ caller := Nat.ne_of_gt (Nat.lt_of_lt_of_le (inTurn.below looked) late)
    exact (place_other _ _ differs).trans (inTurn.numbered other late)

/-- The holder of the turn begins its exchange. -/
theorem InTurn.exchange (inTurn : calls.InTurn) {caller : Nat}
    (queued : calls.positions caller = some .queued)
    (held : calls.desk.turns.holder = some caller) (since : Instant)
    (sameTurns : after.desk.turns = calls.desk.turns)
    (began : after.desk.exchanging = some since)
    (samePositions : after.positions =
      Function.update calls.positions caller (some (.exchanging since)))
    (sameCallers : after.callers = calls.callers) : after.InTurn where
  tidy := by rw [sameTurns]; exact inTurn.tidy
  once := by rw [sameTurns]; exact inTurn.once
  queue other := by
    rw [sameTurns, inTurn.queue, samePositions]
    by_cases same : other = caller
    · subst same
      simp [queued]
    · rw [Function.update_of_ne same]
  busy other later exchanging := by
    rw [samePositions] at exchanging
    rw [sameTurns, began]
    by_cases same : other = caller
    · subst same
      rw [Function.update_self] at exchanging
      cases exchanging
      exact ⟨held, rfl⟩
    · rw [Function.update_of_ne same] at exchanging
      -- Another one that exchanges would hold the turn as well.
      have holds := (inTurn.busy other later exchanging).1
      exact absurd (Option.some.inj (holds.symm.trans held)) same
  idle nobody := by
    refine absurd ?_ (nobody caller since)
    rw [samePositions, Function.update_self]
  numbered other late := by
    rw [sameCallers] at late
    have differs : other ≠ caller := Nat.ne_of_gt (Nat.lt_of_lt_of_le (inTurn.below queued) late)
    rw [samePositions, Function.update_of_ne differs]
    exact inTurn.numbered other late

theorem Moves.in_turn (moves : calls.Moves after) (inTurn : calls.InTurn) : after.InTurn := by
  cases moves with
  | still => exact inTurn
  | comeServed fresh => exact inTurn.congr rfl rfl rfl (Nat.le_succ _)
  | comeLooked stale =>
      have absent := inTurn.numbered calls.callers (Nat.le_refl _)
      refine inTurn.aside (some .looked) ?_ (by simp) rfl rfl (Nat.le_succ _) (Nat.lt_succ_self _)
      simp [absent]
  | ask looked => exact inTurn.ask looked
  | served queued held fresh => exact inTurn.leave queued rfl rfl rfl rfl
  | began queued held stale => exact inTurn.exchange queued held calls.now rfl rfl rfl rfl
  | granted exchanging => exact inTurn.leave exchanging rfl rfl rfl rfl
  | failed exchanging => exact inTurn.leave exchanging rfl rfl rfl rfl
  | lookedLeft looked =>
      refine inTurn.aside none ?_ (by simp) rfl rfl (Nat.le_refl _) (inTurn.below looked)
      intro prior inside
      exact Option.some.inj (inside.symm.trans looked)
  | queuedLeft queued => exact inTurn.leave queued rfl rfl rfl rfl
  | abandoned exchanging => exact inTurn.leave exchanging rfl rfl rfl rfl
  | invalidated => exact inTurn.congr rfl rfl rfl (Nat.le_refl _)
  | elapsed span => exact inTurn.congr rfl rfl rfl (Nat.le_refl _)

end TokenCalls
end SecretBroker.Api
