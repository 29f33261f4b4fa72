import SecretBroker.Http.Target
import SecretBroker.Net.Address
import SecretBroker.Text.Utf8

/-!
Requests as the service sees them. Names of methods and headers are tokens; a header's value is
a sequence of bytes, and only one of visible ASCII characters can be read as text.
-/

namespace SecretBroker.Http

open SecretBroker.Text

def isTokenChar (c : Char) : Bool :=
  isAsciiAlphanumeric c || "!#$%&'*+-.^_|~\x60".toList.contains c

def isToken (text : String) : Bool := !text.isEmpty && text.toList.all isTokenChar

abbrev HeaderValue := List UInt8

namespace HeaderValue

def isByte (byte : UInt8) : Bool := byte == 0x09 || (0x20 ≤ byte && byte != 0x7f)

def ofText? (text : String) : Option HeaderValue :=
  if (utf8 text).all isByte then some (utf8 text) else none

def isVisible (byte : UInt8) : Bool := byte == 0x09 || (0x20 ≤ byte && byte < 0x7f)

/-- The value as text, if it is one of visible ASCII characters, blanks and tabs. -/
def text? (value : HeaderValue) : Option String :=
  if value.all isVisible then some (String.ofList (value.map fun byte => Char.ofNat byte.toNat))
  else none

end HeaderValue

structure Request where
  method : String
  target : Target
  /-- In order of arrival, the names in lower case. -/
  headers : List (String × HeaderValue)
  /-- The address at the other end of the connection, where it is known. -/
  peer : Option Net.Address
  deriving DecidableEq, Repr

namespace Request

/-- A request of the given parts; `none` if one of them cannot stand in a request. -/
def ofParts? (method target : String) (headers : List (String × String))
    (peer : Option Net.Address) : Option Request := do
  guard (isToken method)
  let target ← Target.read target
  let headers ← headers.mapM fun (name, value) => do
    guard (isToken name)
    return (foldAscii name, ← HeaderValue.ofText? value)
  return ⟨method, target, headers, peer⟩

/-- The first header of a name. -/
def header? (request : Request) (name : String) : Option HeaderValue :=
  (request.headers.find? (·.1 = name)).map (·.2)

/-- All headers of a name, in order. -/
def headersNamed (request : Request) (name : String) : List HeaderValue :=
  (request.headers.filter (·.1 = name)).map (·.2)

end Request
end SecretBroker.Http
