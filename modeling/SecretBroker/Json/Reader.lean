import SecretBroker.Json
import SecretBroker.Text.Fold
import SecretBroker.Text.Utf8

/-!
Reading JSON. The input is a list of characters in which `none` stands for bytes that encode
no character; such a place is accepted inside a text only.
-/

namespace SecretBroker.Json

open SecretBroker.Text

abbrev Symbol := Option Char

def isSpace (s : Symbol) : Bool := s == some ' ' || s == some '\n' || s == some '\t' || s == some '\r'

def skipSpace (input : List Symbol) : List Symbol := input.dropWhile isSpace

/-- A part of a text: a character, a 16 bit unit given by its escape, or ill-formed bytes. -/
inductive Piece where
  | char (c : Char)
  | unit (code : Nat)
  | broken
  deriving DecidableEq, Repr

def hex4? : Symbol → Symbol → Symbol → Symbol → Option Nat
  | some a, some b, some c, some d => do
    let a ← hexValue? a
    let b ← hexValue? b
    let c ← hexValue? c
    let d ← hexValue? d
    some (((a * 16 + b) * 16 + c) * 16 + d)
  | _, _, _, _ => none

def escaped? : Char → Option Char
  | '"' => some '"'
  | '\\' => some '\\'
  | '/' => some '/'
  | 'b' => some '\x08'
  | 'f' => some '\x0c'
  | 'n' => some '\n'
  | 'r' => some '\r'
  | 't' => some '\t'
  | _ => none

/-- The pieces up to the closing quote, and what follows it. Raw controls and unknown escapes
end the reading. -/
def pieces : List Symbol → Option (List Piece × List Symbol)
  | some '"' :: rest => some ([], rest)
  | some '\\' :: some 'u' :: a :: b :: c :: d :: rest => do
    let code ← hex4? a b c d
    let (tail, rest) ← pieces rest
    some (.unit code :: tail, rest)
  | some '\\' :: some e :: rest => do
    let c ← escaped? e
    let (tail, rest) ← pieces rest
    some (.char c :: tail, rest)
  | some c :: rest =>
    if c.toNat < 0x20 || c = '\\' then none
    else do
      let (tail, rest) ← pieces rest
      some (.char c :: tail, rest)
  | none :: rest => do
    let (tail, rest) ← pieces rest
    some (.broken :: tail, rest)
  | [] => none

def isHighUnit (code : Nat) : Bool := 0xd800 ≤ code && code < 0xdc00

def isLowUnit (code : Nat) : Bool := 0xdc00 ≤ code && code < 0xe000

/-- The characters of the pieces. A high unit must be followed by a low one, and a low unit
must follow a high one. -/
def joinPieces : List Piece → Option (List Char)
  | [] => some []
  | .char c :: rest => (joinPieces rest).map (c :: ·)
  | .unit high :: .unit low :: rest =>
    if isHighUnit high then
      if isLowUnit low then
        (joinPieces rest).map
          (Char.ofNat (0x10000 + (high - 0xd800) * 0x400 + (low - 0xdc00)) :: ·)
      else none
    else if isLowUnit high then none
    else (joinPieces (.unit low :: rest)).map (Char.ofNat high :: ·)
  | .unit code :: rest =>
    if isHighUnit code || isLowUnit code then none
    else (joinPieces rest).map (Char.ofNat code :: ·)
  | .broken :: _ => none

def textOf (found : List Piece) : Option String := (joinPieces found).map String.ofList

def takeDigits : List Symbol → List Char × List Symbol
  | some c :: rest =>
    if isAsciiDigit c then
      let (digits, rest) := takeDigits rest
      (c :: digits, rest)
    else ([], some c :: rest)
  | rest => ([], rest)

def natOf (digits : List Char) : Nat := digits.foldl (fun n c => n * 10 + (c.toNat - '0'.toNat)) 0

/-- `some true` after digits behind a point, `some false` where there is no point. -/
def fraction? : List Symbol → Option (Bool × List Symbol)
  | some '.' :: rest =>
    match takeDigits rest with
    | ([], _) => none
    | (_ :: _, rest) => some (true, rest)
  | rest => some (false, rest)

def dropSign : List Symbol → List Symbol
  | some '+' :: rest => rest
  | some '-' :: rest => rest
  | rest => rest

def exponent? : List Symbol → Option (Bool × List Symbol)
  | some 'e' :: rest | some 'E' :: rest =>
    match takeDigits (dropSign rest) with
    | ([], _) => none
    | (_ :: _, rest) => some (true, rest)
  | rest => some (false, rest)

/-- A number: no digit stands before a leading zero's point. A zero with a minus sign is not
an integer. -/
def number (negative : Bool) (input : List Symbol) : Option (Json × List Symbol) :=
  match takeDigits input with
  | ([], _) => none
  | ('0' :: _ :: _, _) => none
  | (digits, rest) => do
    let (pointed, rest) ← fraction? rest
    let (raised, rest) ← exponent? rest
    let value := natOf digits
    if pointed || raised || (negative && value = 0) then some (.real, rest)
    else some (.integer (if negative then -(value : Int) else value), rest)

def word (letters : List Char) (value : Json) (input : List Symbol) : Option (Json × List Symbol) :=
  if (letters.map some).isPrefixOf input then some (value, input.drop letters.length) else none

mutual

/-- One value after leading blanks. `fuel` bounds the number of steps, of which there are at most
three to a character. -/
def value : Nat → List Symbol → Option (Json × List Symbol)
  | 0, _ => none
  | fuel + 1, input =>
    match skipSpace input with
    | some '"' :: rest => (pieces rest).map fun (found, rest) => (.text (textOf found), rest)
    | some '[' :: rest =>
      match skipSpace rest with
      | some ']' :: rest => some (.array [], rest)
      | rest => (items fuel rest).map fun (found, rest) => (.array found, rest)
    | some '{' :: rest =>
      match skipSpace rest with
      | some '}' :: rest => some (.object [], rest)
      | rest => (members fuel rest).map fun (found, rest) => (.object found, rest)
    | some 'n' :: rest => word ['u', 'l', 'l'] .null rest
    | some 't' :: rest => word ['r', 'u', 'e'] (.bool true) rest
    | some 'f' :: rest => word ['a', 'l', 's', 'e'] (.bool false) rest
    | some '-' :: rest => number true rest
    | rest => number false rest

/-- The items of an array up to its closing bracket; there is at least one. -/
def items : Nat → List Symbol → Option (List Json × List Symbol)
  | 0, _ => none
  | fuel + 1, input =>
    match value fuel input with
    | none => none
    | some (item, rest) =>
      match skipSpace rest with
      | some ']' :: rest => some ([item], rest)
      | some ',' :: rest => (items fuel rest).map fun (found, rest) => (item :: found, rest)
      | _ => none

/-- The members of an object up to its closing brace; there is at least one. -/
def members : Nat → List Symbol → Option (List (Option String × Json) × List Symbol)
  | 0, _ => none
  | fuel + 1, input =>
    match skipSpace input with
    | some '"' :: rest =>
      match pieces rest with
      | none => none
      | some (key, rest) =>
        match skipSpace rest with
        | some ':' :: rest =>
          match value fuel rest with
          | none => none
          | some (item, rest) =>
            match skipSpace rest with
            | some '}' :: rest => some ([(textOf key, item)], rest)
            | some ',' :: rest =>
              (members fuel rest).map fun (found, rest) => ((textOf key, item) :: found, rest)
            | _ => none
        | _ => none
    | _ => none

end

/-- Reads a whole document: one value, and nothing but blanks after it. -/
def readSymbols (input : List Symbol) : Option Json :=
  match value (3 * input.length + 3) input with
  | some (found, rest) => if (skipSpace rest).isEmpty then some found else none
  | none => none

def readText (text : String) : Option Json := readSymbols (text.toList.map some)

def readBytes (bytes : List UInt8) : Option Json := readSymbols (decodeChars bytes)

end SecretBroker.Json
