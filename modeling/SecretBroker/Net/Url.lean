import SecretBroker.Net.Address
import SecretBroker.Net.Domain
import SecretBroker.Text.Percent
import SecretBroker.Text.Utf8

/-!
Which texts are absolute web addresses. Paths, queries and fragments may hold anything, so only
the scheme, the host and the number behind it decide.
-/

namespace SecretBroker.Net.Url

open SecretBroker.Text

def isEdge (c : Char) : Bool := c.toNat ≤ 0x20

/-- The text that counts: without controls and blanks at the ends, nor tabs and line ends inside. -/
def significant (text : List Char) : List Char :=
  (((text.dropWhile isEdge).reverse.dropWhile isEdge).reverse).filter
    fun c => !(c = '\t' || c = '\n' || c = '\r')

def isSchemeChar (c : Char) : Bool := isAsciiAlphanumeric c || c = '+' || c = '-' || c = '.'

/-- The scheme in lower case and what follows its colon. -/
def scheme? (text : List Char) : Option (String × List Char) :=
  let scheme := text.takeWhile isSchemeChar
  match text.dropWhile isSchemeChar with
  | ':' :: rest =>
    if scheme.head?.any isAsciiLetter then some (foldAscii (String.ofList scheme), rest) else none
  | _ => none

def isSlash (c : Char) : Bool := c = '/' || c = '\\'

/-- Where the part with the host ends. -/
def endsAuthority (backslash : Bool) (c : Char) : Bool :=
  c = '/' || c = '?' || c = '#' || (backslash && c = '\\')

def isBracketed (host : List Char) : Bool :=
  host.getLast? = some ']' && (v6? (host.drop 1).dropLast).isSome

/-- The host of a web address. -/
def isHost (host : List Char) : Bool :=
  if host.head? = some '[' then isBracketed host
  else
    match decodeStrict (percentDecode (utf8 (String.ofList host))) with
    | none => false
    | some name => Domain.isHost name.toList

/-- The host of an address of any other scheme. -/
def isOpaqueHost (host : List Char) : Bool :=
  if host.head? = some '[' then isBracketed host
  else !host.any fun c => c = '\x00' || " #/:<>?@[\\]^|".toList.contains c

/-- Splits off the host: a colon ends it except inside brackets. -/
def splitHost (inside : Bool) : List Char → List Char × List Char
  | [] => ([], [])
  | c :: rest =>
    if c = ':' && !inside then ([], c :: rest)
    else
      let (host, after) := splitHost (if c = '[' then true else if c = ']' then false else inside) rest
      (c :: host, after)

def isNumber (text : List Char) : Bool :=
  text.all isAsciiDigit && text.foldl (fun n c => n * 10 + (c.toNat - '0'.toNat)) 0 ≤ 65535

/-- User, host and number. A user needs a host after it. -/
def isAuthority (special : Bool) (authority : List Char) : Bool :=
  let reversed := authority.reverse
  let place := (reversed.takeWhile (· ≠ '@')).reverse
  let (host, after) := splitHost false place
  let number := after.drop 1
  if host.isEmpty then
    !special && after.isEmpty && !authority.contains '@'
  else (if special then isHost host else isOpaqueHost host) && isNumber number

def isDriveLetter (host : List Char) : Bool :=
  match host with
  | [letter, mark] => isAsciiLetter letter && (mark = ':' || mark = '|')
  | _ => false

/-- Whether a text is an absolute web address. -/
def isValid (text : String) : Bool :=
  match scheme? (significant text.toList) with
  | none => false
  | some (scheme, rest) =>
    if ["http", "https", "ws", "wss", "ftp"].contains scheme then
      isAuthority true ((rest.dropWhile isSlash).takeWhile (!endsAuthority true ·))
    else if scheme = "file" then
      match rest with
      | a :: b :: rest =>
        if isSlash a && isSlash b then
          let host := rest.takeWhile (!endsAuthority true ·)
          host.isEmpty || isDriveLetter host || isHost host
        else true
      | _ => true
    else
      match rest with
      | '/' :: '/' :: rest => isAuthority false (rest.takeWhile (!endsAuthority false ·))
      | _ => true

end SecretBroker.Net.Url
