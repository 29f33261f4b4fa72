import SecretBroker.Http.Request
import SecretBroker.Http.Response
import SecretBroker.Text.Blank

/-!
Compression of responses. Small bodies are left alone; the others vary with what the client
accepts, and go out compressed if it accepts that at least as gladly as no coding at all.
-/

namespace SecretBroker.Http

inductive Coding where
  | identity
  | gzip
  deriving DecidableEq, Repr

namespace Coding

def ofWord? (word : String) : Option Coding :=
  if Text.eqIgnoringCase word "gzip" || Text.eqIgnoringCase word "x-gzip" then some .gzip
  else if Text.eqIgnoringCase word "identity" then some .identity
  else none

/-- The places after the point, in thousandths, where the first place counts `unit` of them. -/
def thousandths? : Nat → List Char → Option Nat
  | _, [] => some 0
  | unit, c :: rest =>
    if 0 < unit && Text.isAsciiDigit c then
      (thousandths? (unit / 10) rest).map ((c.toNat - '0'.toNat) * unit + ·)
    else none

/-- A weight between zero and one, in thousandths. -/
def weight? (text : String) : Option Nat :=
  let scaled (whole : Nat) (rest : List Char) : Option Nat :=
    match rest with
    | [] => some whole
    | '.' :: places =>
      (thousandths? 100 places).bind fun part =>
        if whole + part ≤ 1000 then some (whole + part) else none
    | _ => none
  match text.toList with
  | q :: '=' :: digit :: rest =>
    if q ≠ 'q' && q ≠ 'Q' then none
    else if digit = '0' then scaled 0 rest
    else if digit = '1' then scaled 1000 rest
    else none
  | _ => none

/-- A coding that the client accepts, with its weight. Unknown codings do not count. -/
def ofItem? (item : String) : Option (Coding × Nat) := do
  let word := item.toList.takeWhile (· ≠ ';')
  let coding ← ofWord? (Text.trim (String.ofList word))
  match item.toList.drop word.length with
  | [] => return (coding, 1000)
  | _ :: parameter => return (coding, ← weight? (Text.trim (String.ofList parameter)))

def accepted (request : Request) : List (Coding × Nat) :=
  (((request.headersNamed "accept-encoding").filterMap HeaderValue.text?).flatMap
    (Text.split ',')).filterMap ofItem?

/-- The largest weight that a coding is accepted with; zero means not at all. -/
def weightOf (coding : Coding) (accepted : List (Coding × Nat)) : Nat :=
  ((accepted.filter (·.1 = coding)).map (·.2)).foldl Nat.max 0

def preferred (request : Request) : Coding :=
  let weights := accepted request
  if 0 < gzip.weightOf weights && identity.weightOf weights ≤ gzip.weightOf weights then .gzip
  else .identity

end Coding

/-- The page for monitoring is of this type. -/
def pageType : String := "text/plain; version=0.0.4"

/-- Bodies below this size are not worth compressing. -/
def compressibleSize : Nat := 32

/-- The monitoring page grows with the service and always counts as large. -/
def Response.isCompressible (response : Response) : Bool :=
  compressibleSize ≤ response.body.utf8ByteSize
    || response.header? "content-type" == some pageType

/-- The body is kept as it is read once its coding is undone. -/
def Response.encode (response : Response) (request : Request) : Response :=
  if !response.isCompressible then response
  else
    let varying := response.addHeader "vary" "accept-encoding"
    match Coding.preferred request with
    | .gzip => varying.addHeader "content-encoding" "gzip"
    | .identity => varying

end SecretBroker.Http
