import SecretBroker.Net.Address
import SecretBroker.Text.Blank
import SecretBroker.Text.Unsigned

/-!
Networks: an address and how many of its leading bits an address inside shares with it.
The bits behind these are kept as they were written.
-/

namespace SecretBroker.Net

inductive Network where
  | v4 (base : BitVec 32) (length : Nat)
  | v6 (base : BitVec 128) (length : Nat)
  deriving DecidableEq, Repr

namespace Network

/-- Same family, and equal once everything behind the leading bits is shifted away. -/
def contains : Network → Address → Bool
  | .v4 base length, .v4 bits => base >>> (32 - length) == bits >>> (32 - length)
  | .v6 base length, .v6 bits => base >>> (128 - length) == bits >>> (128 - length)
  | _, _ => false

def text : Network → String
  | .v4 base length => v4Text base.toNat ++ "/" ++ toString length
  | .v6 base length => v6Text base.toNat ++ "/" ++ toString length

/-- The number of leading ones of a mask, if only zeros follow them. -/
def maskLength? (mask : BitVec 32) : Option Nat :=
  (List.range 33).find? fun n => mask = BitVec.allOnes 32 <<< (32 - n)

def lengthUpTo? (bound : Nat) (text : List Char) : Option Nat :=
  match Text.unsignedChars 255 text with
  | .ok n => if n ≤ bound then some n else none
  | .error _ => none

/-- The two sides of the one slash, or the whole text and nothing. -/
def sides? (text : List Char) : Option (List Char × Option (List Char)) :=
  match Text.splitChars '/' text with
  | [address] => some (address, none)
  | [address, length] => some (address, some length)
  | _ => none

/-- A bare address is a network of its own. An IPv4 network may give its length as a mask. -/
def ofChars? (text : List Char) : Option Network := do
  let (address, length) ← sides? text
  match v4? address with
  | some base =>
    match length with
    | none => some (.v4 base 32)
    | some length =>
      let n ← match v4? length with
        | some mask => maskLength? mask
        | none => lengthUpTo? 32 length
      some (.v4 base n)
  | none =>
    let base ← v6? address
    match length with
    | none => some (.v6 base 128)
    | some length => some (.v6 base (← lengthUpTo? 128 length))

def read (text : String) : Option Network := ofChars? text.toList

/-- A comma separated list of networks; the first entry that is none is the fault. -/
def readList (text : String) : Except String (List Network) :=
  (Text.commaList text).mapM fun entry =>
    match read entry with
    | some network => .ok network
    | none => .error entry

/-- The networks among the texts. -/
def readSome (texts : List String) : List Network := texts.filterMap read

end Network
end SecretBroker.Net
