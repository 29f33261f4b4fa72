import SecretBroker.Text.Fold

/-!
Network addresses of both families: reading the usual notations, and the canonical text.
-/

namespace SecretBroker.Net

open SecretBroker.Text

inductive Address where
  | v4 (bits : BitVec 32)
  | v6 (bits : BitVec 128)
  deriving DecidableEq, Repr

namespace Address

/-- The address as the family it was made for: an IPv4 address carried in `::ffff:0:0/96` is
that IPv4 address. -/
def canonical : Address → Address
  | .v4 bits => .v4 bits
  | .v6 bits =>
    if bits >>> 32 = 0xffff then .v4 (bits.setWidth 32) else .v6 bits

end Address

/-- The longest run of digits of a base at the front, and the rest. -/
def takeBase (base : Nat) : List Char → List Nat × List Char
  | [] => ([], [])
  | c :: rest =>
    match hexValue? c with
    | some d =>
      if d < base then
        let (digits, after) := takeBase base rest
        (d :: digits, after)
      else ([], c :: rest)
    | none => ([], c :: rest)

def valueOf (base : Nat) (digits : List Nat) : Nat := digits.foldl (fun n d => n * base + d) 0

/-- A decimal byte without leading zeros. -/
def octet? (input : List Char) : Option (Nat × List Char) :=
  match takeBase 10 input with
  | ([], _) => none
  | (0 :: _ :: _, _) => none
  | (digits, rest) =>
    if digits.length ≤ 3 ∧ valueOf 10 digits ≤ 255 then some (valueOf 10 digits, rest) else none

def char? (c : Char) : List Char → Option (List Char)
  | [] => none
  | d :: rest => if c = d then some rest else none

/-- Four decimal bytes between points, at the front of the input. -/
def v4Prefix? (input : List Char) : Option (Nat × List Char) := do
  let (a, rest) ← octet? input
  let (b, rest) ← octet? (← char? '.' rest)
  let (c, rest) ← octet? (← char? '.' rest)
  let (d, rest) ← octet? (← char? '.' rest)
  some (((a * 256 + b) * 256 + c) * 256 + d, rest)

def v4? (text : List Char) : Option (BitVec 32) :=
  match v4Prefix? text with
  | some (n, []) => some (BitVec.ofNat 32 n)
  | _ => none

/-- A group of one to four hexadecimal digits. -/
def group? (input : List Char) : Option (Nat × List Char) :=
  match takeBase 16 input with
  | ([], _) => none
  | (digits, rest) => if digits.length ≤ 4 then some (valueOf 16 digits, rest) else none

/-- Up to `limit` groups between colons, the first without a colon before it. An IPv4 address
stands for the last two groups and ends the list; the flag tells that it did. -/
def groups (first : Bool) : Nat → List Char → List Nat × Bool × List Char
  | 0, input => ([], false, input)
  | limit + 1, input =>
    match if first then some input else char? ':' input with
    | none => ([], false, input)
    | some start =>
      match if 0 < limit then v4Prefix? start else none with
      | some (n, rest) => ([n / 65536, n % 65536], true, rest)
      | none =>
        match group? start with
        | none => ([], false, input)
        | some (g, rest) =>
          let (found, mapped, rest) := groups false limit rest
          (g :: found, mapped, rest)

def valueOfGroups (found : List Nat) : Nat := valueOf 65536 found

/-- Eight groups, or fewer around a double colon, which stands for at least one zero group. -/
def v6? (text : List Char) : Option (BitVec 128) :=
  match groups true 8 text with
  | (head, mapped, rest) =>
    if head.length = 8 then
      if rest.isEmpty then some (BitVec.ofNat 128 (valueOfGroups head)) else none
    else if mapped then none
    else
      match rest with
      | ':' :: ':' :: rest =>
        let (tail, _, rest) := groups true (7 - head.length) rest
        if rest.isEmpty then
          let zeros := List.replicate (8 - head.length - tail.length) 0
          some (BitVec.ofNat 128 (valueOfGroups (head ++ zeros ++ tail)))
        else none
      | _ => none

namespace Address

def ofChars? (text : List Char) : Option Address :=
  match v4? text with
  | some bits => some (.v4 bits)
  | none => (v6? text).map .v6

def read (text : String) : Option Address := ofChars? text.toList

end Address

def v4Text (n : Nat) : String :=
  let part (shift : Nat) := toString ((n >>> shift) % 256)
  part 24 ++ "." ++ part 16 ++ "." ++ part 8 ++ "." ++ part 0

def hexChars (n : Nat) : List Char := Nat.toDigits 16 n

def groupsOf (n : Nat) : List Nat :=
  [112, 96, 80, 64, 48, 32, 16, 0].map fun shift => (n >>> shift) % 65536

/-- The first of the longest runs of zeros: where it starts and how long it is. -/
def longestZeros : Nat → List Nat → Nat × Nat
  | _, [] => (0, 0)
  | start, g :: rest =>
    let here := ((g :: rest).takeWhile (· = 0)).length
    let later := longestZeros (start + 1) rest
    if later.2 ≤ here then (start, here) else later

def groupsText (found : List Nat) : String :=
  ":".intercalate (found.map fun g => String.ofList (hexChars g))

/-- The canonical text of an IPv6 address: lower case, no leading zeros, the first longest run
of at least two zero groups as a double colon, and an IPv4 address inside in its own notation. -/
def v6Text (n : Nat) : String :=
  if n >>> 32 = 0xffff then "::ffff:" ++ v4Text n
  else
    let found := groupsOf n
    let (start, count) := longestZeros 0 found
    if 1 < count then
      groupsText (found.take start) ++ "::" ++ groupsText (found.drop (start + count))
    else groupsText found

def Address.text : Address → String
  | .v4 bits => v4Text bits.toNat
  | .v6 bits => v6Text bits.toNat

/-- An address and a TCP number after a colon; an IPv6 address stands in brackets and may name
a numeric scope. -/
def endpoint? (text : String) : Option (Address × Nat) :=
  let number? (input : List Char) : Option Nat :=
    match takeBase 10 input with
    | ([], _) => none
    | (digits, []) => if valueOf 10 digits ≤ 65535 then some (valueOf 10 digits) else none
    | _ => none
  match text.toList with
  | '[' :: rest =>
    let inside := rest.takeWhile (· ≠ ']')
    let address := inside.takeWhile (· ≠ '%')
    let scopeFits :=
      match inside.dropWhile (· ≠ '%') with
      | [] => true
      | _ :: scope =>
        match takeBase 10 scope with
        | ([], _) => false
        | (digits, rest) => rest.isEmpty && valueOf 10 digits ≤ 0xffffffff
    match rest.dropWhile (· ≠ ']') with
    | ']' :: ':' :: number =>
      if scopeFits then do
        let bits ← v6? address
        let n ← number? number
        some (.v6 bits, n)
      else none
    | _ => none
  | chars => do
    let (n, rest) ← v4Prefix? chars
    let number ← number? (← char? ':' rest)
    some (.v4 (BitVec.ofNat 32 n), number)

end SecretBroker.Net
