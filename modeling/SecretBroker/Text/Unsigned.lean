import SecretBroker.Text.Fold

/-!
Unsigned decimal numbers with an upper bound, as settings and network lengths are written:
an optional plus sign and at least one digit.
-/

namespace SecretBroker.Text

inductive NumberFault where
  | empty
  | invalidDigit
  | tooLarge
  deriving DecidableEq, Repr

def NumberFault.message : NumberFault → String
  | .empty => "cannot parse integer from empty string"
  | .invalidDigit => "invalid digit found in string"
  | .tooLarge => "number too large to fit in target type"

/-- Reads digits onto a value; the first digit that passes the bound, or the first
character that is no digit, decides which fault is told. -/
def digitsUpTo (bound : Nat) : List Char → Nat → Except NumberFault Nat
  | [], value => .ok value
  | c :: rest, value =>
    if isAsciiDigit c then
      let next := value * 10 + (c.toNat - '0'.toNat)
      if next ≤ bound then digitsUpTo bound rest next else .error .tooLarge
    else .error .invalidDigit

def unsignedChars (bound : Nat) : List Char → Except NumberFault Nat
  | [] => .error .empty
  | ['+'] => .error .invalidDigit
  | '+' :: digits => digitsUpTo bound digits 0
  | digits => digitsUpTo bound digits 0

def unsigned (bound : Nat) (text : String) : Except NumberFault Nat :=
  unsignedChars bound text.toList

end SecretBroker.Text
