import SecretBroker.Text.Fold

/-!
Percent escapes: a percent sign and two hexadecimal digits stand for a byte. A percent sign
without them stands for itself.
-/

namespace SecretBroker.Text

def hexPair? (high low : UInt8) : Option UInt8 := do
  let h ← hexValue? (Char.ofNat high.toNat)
  let l ← hexValue? (Char.ofNat low.toNat)
  some (UInt8.ofNat (h * 16 + l))

def percentDecode : List UInt8 → List UInt8
  | [] => []
  | [a] => [a]
  | [a, b] => [a, b]
  | a :: b :: c :: rest =>
    match if a = 0x25 then hexPair? b c else none with
    | some byte => byte :: percentDecode rest
    | none => a :: percentDecode (b :: c :: rest)

end SecretBroker.Text
