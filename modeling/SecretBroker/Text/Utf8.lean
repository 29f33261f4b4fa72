/-!
UTF-8. Text goes out as its bytes; bytes come in strictly, or with every ill-formed part
replaced by U+FFFD, one replacement for each maximal part that begins a well-formed sequence.
-/

namespace SecretBroker.Text

def utf8 (text : String) : List UInt8 := text.toUTF8.toList

/-- The continuation bytes that a lead byte asks for, each as the range it must lie in. -/
def continuations (lead : UInt8) : Option (List (UInt8 × UInt8)) :=
  if lead < 0x80 then some []
  else if 0xc2 ≤ lead && lead ≤ 0xdf then some [(0x80, 0xbf)]
  else if lead == 0xe0 then some [(0xa0, 0xbf), (0x80, 0xbf)]
  else if lead == 0xed then some [(0x80, 0x9f), (0x80, 0xbf)]
  else if 0xe1 ≤ lead && lead ≤ 0xef then some [(0x80, 0xbf), (0x80, 0xbf)]
  else if lead == 0xf0 then some [(0x90, 0xbf), (0x80, 0xbf), (0x80, 0xbf)]
  else if 0xf1 ≤ lead && lead ≤ 0xf3 then some [(0x80, 0xbf), (0x80, 0xbf), (0x80, 0xbf)]
  else if lead == 0xf4 then some [(0x80, 0x8f), (0x80, 0xbf), (0x80, 0xbf)]
  else none

/-- Takes the continuation bytes while they fit their ranges; `false` if one is missing. -/
def takeContinuations : List (UInt8 × UInt8) → List UInt8 → Bool × List UInt8 × List UInt8
  | [], rest => (true, [], rest)
  | _ :: _, [] => (false, [], [])
  | (low, high) :: ranges, b :: rest =>
    if low ≤ b && b ≤ high then
      let (whole, taken, after) := takeContinuations ranges rest
      (whole, b :: taken, after)
    else (false, [], b :: rest)

def leadBits (lead : UInt8) : Nat :=
  if lead < 0x80 then lead.toNat
  else if lead < 0xe0 then lead.toNat - 0xc0
  else if lead < 0xf0 then lead.toNat - 0xe0
  else lead.toNat - 0xf0

def charOf (lead : UInt8) (taken : List UInt8) : Char :=
  Char.ofNat (taken.foldl (fun n b => n * 64 + (b.toNat - 0x80)) (leadBits lead))

theorem takeContinuations_length (ranges : List (UInt8 × UInt8)) (bytes : List UInt8) :
    (takeContinuations ranges bytes).2.2.length ≤ bytes.length := by
  fun_induction takeContinuations ranges bytes with
  | case1 => simp
  | case2 => simp
  | case3 low high ranges b rest fits whole taken after found ih =>
    rw [found] at ih
    simp only [List.length_cons] at ih ⊢
    omega
  | case4 => simp

/-- The first character, or `none` for an ill-formed start, and the bytes after it. -/
def nextChar (lead : UInt8) (rest : List UInt8) : Option Char × List UInt8 :=
  match continuations lead with
  | none => (none, rest)
  | some ranges =>
    let found := takeContinuations ranges rest
    (if found.1 then some (charOf lead found.2.1) else none, found.2.2)

theorem nextChar_length (lead : UInt8) (rest : List UInt8) :
    (nextChar lead rest).2.length ≤ rest.length := by
  unfold nextChar
  split
  · simp
  · exact takeContinuations_length _ _

def decodeChars : List UInt8 → List (Option Char)
  | [] => []
  | lead :: rest =>
    (nextChar lead rest).1 :: decodeChars (nextChar lead rest).2
  termination_by bytes => bytes.length
  decreasing_by
    have := nextChar_length lead rest
    simp only [List.length_cons]
    omega

/-- Ill-formed parts become U+FFFD. -/
def decodeLossy (bytes : List UInt8) : String :=
  String.ofList ((decodeChars bytes).map fun c => c.getD '\ufffd')

/-- The text that the bytes encode, if all of them are well formed. -/
def decodeStrict (bytes : List UInt8) : Option String :=
  ((decodeChars bytes).mapM id).map String.ofList

end SecretBroker.Text
