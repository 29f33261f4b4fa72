/-!
Taking turns: one party at a time, the others in the order in which they asked. A party that
gives up, waiting or not, makes way for the next.
-/

namespace SecretBroker

structure Turns where
  holder : Option Nat
  waiting : List Nat
  deriving DecidableEq, Repr

namespace Turns

def free : Turns := ⟨none, []⟩

/-- A party asks for the turn, and holds it at once if nobody else does. -/
def ask (turns : Turns) (party : Nat) : Turns :=
  match turns.holder with
  | none => { turns with holder := some party }
  | some _ => { turns with waiting := turns.waiting ++ [party] }

/-- The turn passes to the one that has waited longest. -/
def pass (turns : Turns) : Turns := ⟨turns.waiting.head?, turns.waiting.tail⟩

def leave (turns : Turns) (party : Nat) : Turns :=
  if turns.holder = some party then turns.pass
  else { turns with waiting := turns.waiting.filter (· ≠ party) }

def holds (turns : Turns) (party : Nat) : Bool := turns.holder == some party

end Turns
end SecretBroker
