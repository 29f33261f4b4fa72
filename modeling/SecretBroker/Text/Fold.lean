/-!
Letter case. Option words, schemes and field names are compared over ASCII; only the names
of settings are folded over all of Unicode.
-/

namespace SecretBroker.Text

def foldAscii (text : String) : String := String.ofList (text.toList.map Char.toLower)

def eqIgnoringCase (left right : String) : Bool := foldAscii left == foldAscii right

/-- The lower case of a character as far as it can reach an ASCII letter: the ASCII capitals,
and the Kelvin sign, the only other character whose full lower case is one ASCII letter. -/
def lowerTowardsAscii (c : Char) : Char := if c = '\u212a' then 'k' else c.toLower

def lower (text : String) : String := String.ofList (text.toList.map lowerTowardsAscii)

def isAsciiDigit (c : Char) : Bool := '0' ≤ c && c ≤ '9'

/-- A number written in decimal is all digits. -/
theorem isAsciiDigit_of_mem_toDigits {number : Nat} {c : Char} (written : c ∈ Nat.toDigits 10 number) :
    isAsciiDigit c = true := by
  have digit := Nat.isDigit_of_mem_toDigits (by decide) (by decide) written
  simpa [Char.isDigit, isAsciiDigit, Char.le_def] using digit

def isAsciiLetter (c : Char) : Bool := ('a' ≤ c && c ≤ 'z') || ('A' ≤ c && c ≤ 'Z')

def isAsciiAlphanumeric (c : Char) : Bool := isAsciiDigit c || isAsciiLetter c

/-- The value of a hexadecimal digit of either case. -/
def hexValue? (c : Char) : Option Nat :=
  if isAsciiDigit c then some (c.toNat - '0'.toNat)
  else if 'a' ≤ c && c ≤ 'f' then some (c.toNat - 'a'.toNat + 10)
  else if 'A' ≤ c && c ≤ 'F' then some (c.toNat - 'A'.toNat + 10)
  else none

/-- Category Cc: the ASCII controls, delete, and the C1 controls. -/
def isControl (c : Char) : Bool := c.toNat < 0x20 || (0x7f ≤ c.toNat && c.toNat < 0xa0)

end SecretBroker.Text
