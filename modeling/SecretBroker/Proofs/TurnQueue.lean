import Mathlib.Data.List.Nodup
import SecretBroker.Turns

/-!
Taking turns as a queue: the holder and those who wait for it are one list, in the order in which
they asked. Whoever asks goes to its end, and whoever leaves is taken out of it.
-/

namespace SecretBroker.Turns

variable {turns : Turns} {party : Nat}

/-- The holder of the turn and then those who wait. -/
def parties (turns : Turns) : List Nat := turns.holder.toList ++ turns.waiting

/-- Nobody waits for a turn that nobody holds. -/
def Tidy (turns : Turns) : Prop := turns.holder = none → turns.waiting = []

theorem holds_iff : turns.holds party = true ↔ turns.holder = some party := by
  simp [holds]

theorem free_tidy : Tidy free := fun _ => rfl

theorem pass_tidy (turns : Turns) : Tidy turns.pass := by
  cases waiting : turns.waiting <;> simp [Tidy, pass, waiting]

theorem pass_parties (turns : Turns) : turns.pass.parties = turns.waiting := by
  cases waiting : turns.waiting <;> simp [parties, pass, waiting]

/-- After a request somebody holds the turn. -/
theorem ask_tidy (turns : Turns) (party : Nat) : (turns.ask party).Tidy := by
  cases held : turns.holder <;> simp [ask, held, Tidy]

theorem ask_parties (tidy : turns.Tidy) : (turns.ask party).parties = turns.parties ++ [party] := by
  cases held : turns.holder with
  | none => simp [ask, parties, held, tidy held]
  | some holder => simp [ask, parties, held]

/-- Asking takes the turn from nobody. -/
theorem ask_holder {holder : Nat} (held : turns.holder = some holder) :
    (turns.ask party).holder = some holder := by
  simp [ask, held]

theorem leave_holder (held : turns.holder = some party) : turns.leave party = turns.pass :=
  if_pos held

/-- Whoever leaves without the turn leaves it where it is. -/
theorem leave_waiting (waits : turns.holder ≠ some party) :
    (turns.leave party).holder = turns.holder := by
  rw [leave, if_neg waits]

theorem leave_tidy (tidy : turns.Tidy) : (turns.leave party).Tidy := by
  by_cases held : turns.holder = some party
  · rw [leave_holder held]
    exact pass_tidy turns
  · intro gone
    rw [leave_waiting held] at gone
    simp [leave, held, tidy gone]

theorem leave_parties (once : turns.parties.Nodup) :
    (turns.leave party).parties = turns.parties.filter (· ≠ party) := by
  by_cases held : turns.holder = some party
  · rw [leave_holder held, pass_parties]
    simp only [parties, held, Option.toList_some, List.singleton_append] at once ⊢
    have absent : party ∉ turns.waiting := (List.nodup_cons.mp once).1
    have kept : turns.waiting.filter (· ≠ party) = turns.waiting := by
      refine List.filter_eq_self.mpr fun other member => ?_
      exact decide_eq_true (ne_of_mem_of_not_mem member absent)
    rw [List.filter_cons_of_neg (by simp), kept]
  · cases holds : turns.holder with
    | none => simp [leave, parties, holds]
    | some holder =>
        have other : holder ≠ party := fun same => held (same ▸ holds)
        simp [leave, parties, holds, other]

end SecretBroker.Turns
