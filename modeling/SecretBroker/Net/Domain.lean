import SecretBroker.Net.Domain.Characters
import SecretBroker.Text.Blank
import SecretBroker.Text.Fold

/-!
Domain names as they stand in web addresses: which names have an ASCII form, and which of them
are numeric addresses in disguise.
-/

namespace SecretBroker.Net.Domain

open SecretBroker.Text

/-- ASCII characters that separate parts of an address, and controls. -/
def isDenied (c : Char) : Bool :=
  c.toNat ≤ 0x20 || c.toNat = 0x7f || "\"#%/:<>?@[\\]^`\x7b|\x7d".toList.contains c

/-- Characters that vanish from a name. -/
def isIgnored (c : Char) : Bool :=
  let n := c.toNat
  n = 0xad || n = 0x34f || n = 0x115f || n = 0x1160 || n = 0x17b4 || n = 0x17b5 ||
    (0x180b ≤ n && n ≤ 0x180f) || n = 0x200b || (0x2060 ≤ n && n ≤ 0x2064) ||
    (0x206a ≤ n && n ≤ 0x206f) || n = 0x3164 || (0xfe00 ≤ n && n ≤ 0xfe0f) || n = 0xfeff ||
    n = 0xffa0 || (0x1bca0 ≤ n && n ≤ 0x1bca3) || (0x1d173 ≤ n && n ≤ 0x1d17a) ||
    (0xe0100 ≤ n && n ≤ 0xe01ef)

/-- The ASCII character that a full width form or a full stop of another script stands for. -/
def narrow (c : Char) : Char :=
  let n := c.toNat
  if 0xff01 ≤ n && n ≤ 0xff5e then Char.ofNat (n - 0xfee0)
  else if n = 0x3002 || n = 0xff61 then '.'
  else if c = '\u212a' then 'k'
  else c

def isJoiner (c : Char) : Bool := c.toNat = 0x200c || c.toNat = 0x200d

/-- A character that may stand in a label. -/
def isAdmitted (c : Char) : Bool :=
  if c.toNat < 0x80 then !isDenied c
  else !inRuns refusedRuns c.toNat && !isJoiner c

/-- No label begins with a mark, and all its characters are admitted. -/
def isLabel (label : List Char) : Bool :=
  label.all isAdmitted && !(label.head?.any fun c => inRuns markRuns c.toNat)

/-! The encoding of other scripts' labels in ASCII: digits of base 36 that say where which
character is inserted. -/

def digit36? (c : Char) : Option Nat :=
  if isAsciiDigit c then some (c.toNat - '0'.toNat + 26)
  else if isAsciiLetter c then some (c.toLower.toNat - 'a'.toNat)
  else none

def adaptLoop : Nat → Nat → Nat → Nat × Nat
  | 0, delta, k => (delta, k)
  | fuel + 1, delta, k => if 455 < delta then adaptLoop fuel (delta / 35) (k + 36) else (delta, k)

def adapt (delta count : Nat) (first : Bool) : Nat :=
  let delta := if first then delta / 700 else delta / 2
  let (delta, k) := adaptLoop 32 (delta + delta / count) 0
  k + 36 * delta / (delta + 38)

def threshold (k bias : Nat) : Nat := if k ≤ bias then 1 else if bias + 26 ≤ k then 26 else k - bias

/-- One variable length number: its value and the digits after it. -/
def delta? (bias : Nat) : Nat → Nat → Nat → List Char → Option (Nat × List Char)
  | _, _, _, [] => none
  | k, weight, sum, c :: rest => do
    let d ← digit36? c
    let sum := sum + d * weight
    let t := threshold k bias
    if 0xffffffff < sum then none
    else if d < t then some (sum, rest)
    else delta? bias (k + 36) (weight * (36 - t)) sum rest

def insertions : Nat → Nat → Nat → Nat → List Char → List Nat → Option (List Nat)
  | _, _, _, _, [], label => some label
  | 0, _, _, _, _ :: _, _ => none
  | fuel + 1, code, position, bias, digits, label => do
    let (delta, rest) ← delta? bias 36 1 0 digits
    let count := label.length + 1
    let next := position + delta
    let code := code + next / count
    let place := next % count
    if code < 0xd800 || (0xe000 ≤ code && code ≤ 0x10ffff) then
      insertions fuel code (place + 1) (adapt delta count (position = 0 && label.all (· < 0x80))) rest
        (label.take place ++ code :: label.drop place)
    else none

/-- The label that the digits encode; it holds at least one character beyond ASCII. -/
def decodeLabel? (encoded : List Char) : Option (List Char) := do
  let reversed := encoded.reverse
  let digits := (reversed.takeWhile (· ≠ '-')).reverse
  let basic := (reversed.dropWhile (· ≠ '-')).drop 1 |>.reverse
  let start := if basic.isEmpty && encoded.contains '-' then encoded else digits
  let codes ← insertions encoded.length 128 0 72 start (basic.map Char.toNat)
  if codes.all (· < 0x80) then none else some (codes.map Char.ofNat)

def isValidLabel (label : List Char) : Bool :=
  if (label.take 4).map Char.toLower = "xn--".toList then
    match decodeLabel? (label.drop 4) with
    | some decoded => isLabel decoded
    | none => false
  else isLabel label

/-- The labels of a name once ignored characters are gone and dots unified; `none` if some
label is not valid. -/
def labels? (name : List Char) : Option (List (List Char)) :=
  let labels := splitChars '.' ((name.filter (!isIgnored ·)).map narrow)
  if labels.all isValidLabel then some labels else none

/-- A number in decimal, octal after a zero, or hexadecimal after `0x`. -/
def number? (text : List Char) : Option Nat :=
  let read (base : Nat) (digits : List Char) : Option Nat :=
    if digits.all (fun c => (hexValue? c).any (· < base)) then
      some (digits.foldl (fun n c => n * base + (hexValue? c).getD 0) 0)
    else none
  match text with
  | [] => none
  | '0' :: 'x' :: digits | '0' :: 'X' :: digits => read 16 digits
  | '0' :: d :: digits => read 8 (d :: digits)
  | digits => read 10 digits

def withoutRoot (labels : List (List Char)) : List (List Char) :=
  if labels.getLast? = some [] then labels.dropLast else labels

/-- The last label, a closing dot aside, is a number. -/
def endsInNumber (labels : List (List Char)) : Bool :=
  match (withoutRoot labels).getLast? with
  | none => false
  | some label => !label.isEmpty && (label.all isAsciiDigit || (number? label).isSome)

/-- Up to four numbers; all but the last are bytes, and the last fills what is left. -/
def isNumericAddress (labels : List (List Char)) : Bool :=
  let parts := withoutRoot labels
  match parts.mapM number? with
  | none => false
  | some numbers =>
    numbers.length ≤ 4 && numbers.dropLast.all (· ≤ 255) &&
      numbers.getLast?.any fun last => last >>> (8 * (5 - numbers.length)) = 0

/-- A host name: it has an ASCII form, is not empty, and if it ends in a number it is an address. -/
def isHost (name : List Char) : Bool :=
  match labels? name with
  | none => false
  | some labels =>
    labels ≠ [[]] && (if endsInNumber labels then isNumericAddress labels else true)

end SecretBroker.Net.Domain
