import SecretBroker.Text.Fold
import SecretBroker.Text.Utf8

/-!
Form encoding: letters, digits and four marks stand for themselves, a blank is a plus sign, and
every other byte is a percent sign with two upper-case hexadecimal digits.
-/

namespace SecretBroker.Text

def upperHex (n : Nat) : Char := if n < 10 then Char.ofNat (0x30 + n) else Char.ofNat (0x37 + n)

def isFormChar (c : Char) : Bool := isAsciiAlphanumeric c || c = '*' || c = '-' || c = '.' || c = '_'

def formByte (byte : UInt8) : List Char :=
  let c := Char.ofNat byte.toNat
  if isFormChar c then [c]
  else if c = ' ' then ['+']
  else ['%', upperHex (byte.toNat / 16), upperHex (byte.toNat % 16)]

def formText (text : String) : String := String.ofList ((utf8 text).flatMap formByte)

/-- The fields in order, each with its value. -/
def formFields (fields : List (String × String)) : String :=
  "&".intercalate (fields.map fun (name, value) => formText name ++ "=" ++ formText value)

end SecretBroker.Text
