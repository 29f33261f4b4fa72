/-!
Base64 with the standard alphabet and padding: three bytes are four characters.
-/

namespace SecretBroker.Digest

def base64Alphabet : List Char :=
  "ABCDEFGHIJKLMNOPQRSTUVWXYZabcdefghijklmnopqrstuvwxyz0123456789+/".toList

def sextet (n : Nat) : Char := base64Alphabet.getD (n % 64) 'A'

def base64Chars : List UInt8 → List Char
  | [] => []
  | [a] => [sextet (a.toNat / 4), sextet (a.toNat * 16), '=', '=']
  | [a, b] =>
    let n := a.toNat * 256 + b.toNat
    [sextet (n / 1024), sextet (n / 16), sextet (n * 4), '=']
  | a :: b :: c :: rest =>
    let n := (a.toNat * 256 + b.toNat) * 256 + c.toNat
    sextet (n / 262144) :: sextet (n / 4096) :: sextet (n / 64) :: sextet n :: base64Chars rest

def base64 (bytes : List UInt8) : String := String.ofList (base64Chars bytes)

end SecretBroker.Digest
