import SecretBroker.Text.Fold

/-!
Request targets: a path with an optional query, an absolute address, an authority alone, or an
asterisk. A fragment is cut off. Of a target only its path matters here.
-/

namespace SecretBroker.Http

open SecretBroker.Text

structure Target where
  path : String
  query : Option String
  deriving DecidableEq, Repr

namespace Target

def sizeLimit : Nat := 65534

def schemeLimit : Nat := 64

/-- The marks of a path that need no escape; some that should have one are let through. -/
def isPathChar (c : Char) : Bool :=
  isAsciiAlphanumeric c || "!\"$%&'()*+,-./:;=@[\\]^_\x7b|\x7d~".toList.contains c || 0x7f ≤ c.toNat

/-- A query may hold every visible character but a hash, a double quote and angle brackets. -/
def isQueryChar (c : Char) : Bool := 0x21 ≤ c.toNat && !"\"#<>".toList.contains c

/-- A path and what follows it. -/
def ofPathChars? (text : List Char) : Option Target :=
  let path := text.takeWhile fun c => c ≠ '?' && c ≠ '#'
  let shown := if path.isEmpty then "/" else String.ofList path
  if !path.all isPathChar then none
  else
    match text.dropWhile fun c => c ≠ '?' && c ≠ '#' with
    | '?' :: rest =>
      let query := rest.takeWhile (· ≠ '#')
      if query.all isQueryChar then some ⟨shown, some (String.ofList query)⟩ else none
    | _ => some ⟨shown, none⟩

def isSchemeChar (c : Char) : Bool := isAsciiAlphanumeric c || "+-.~".toList.contains c

/-- Whether the text has a scheme, and what follows its slashes; the text itself if it has
none. A scheme that is too long is a fault. -/
def afterScheme? (text : List Char) : Option (Bool × List Char) :=
  let scheme := text.takeWhile isSchemeChar
  match text.drop scheme.length with
  | ':' :: '/' :: '/' :: rest =>
    if scheme.isEmpty && rest.isEmpty then some (false, text)
    else if schemeLimit < scheme.length then none
    else some (true, rest)
  | _ => some (false, text)

/-- What is known of an authority while it is read from the left. -/
structure Authority where
  colons : Nat := 0
  opened : Bool := false
  closed : Bool := false
  percent : Bool := false
  endsInAt : Bool := false
  deriving DecidableEq, Repr

namespace Authority

def colonLimit : Nat := 8

def isPlainChar (c : Char) : Bool :=
  isAsciiAlphanumeric c || "!$&'()*+,-.;=_~".toList.contains c

def isEnd (c : Char) : Bool := c = '/' || c = '?' || c = '#'

/-- A bracketed host and the part before an at sign may hold colons and percent signs. -/
def read (seen : Authority) (c : Char) : Option Authority :=
  let seen := { seen with endsInAt := c == '@' }
  if c = ':' then
    if colonLimit ≤ seen.colons then none else some { seen with colons := seen.colons + 1 }
  else if c = '[' then
    if seen.percent || seen.opened then none else some { seen with opened := true }
  else if c = ']' then
    if !seen.opened || seen.closed then none
    else some { seen with closed := true, colons := 0, percent := false }
  else if c = '@' then some { seen with colons := 0, percent := false }
  else if c = '%' then some { seen with percent := true }
  else if isPlainChar c then some seen else none

def isComplete (seen : Authority) : Bool :=
  seen.opened == seen.closed && seen.colons ≤ 1 && !seen.endsInAt && !seen.percent

end Authority

def isAuthority (text : List Char) : Bool :=
  (text.foldlM Authority.read {}).any Authority.isComplete

def ofChars? (text : List Char) : Option Target :=
  match text with
  | [] => none
  | ['*'] => some ⟨"*", none⟩
  | '/' :: _ => ofPathChars? text
  | _ => do
    let (absolute, rest) ← afterScheme? text
    let authority := rest.takeWhile fun c => !Authority.isEnd c
    let after := rest.dropWhile fun c => !Authority.isEnd c
    if !isAuthority authority then none
    else if absolute then (if authority.isEmpty then none else ofPathChars? after)
    else if after.isEmpty then some ⟨"", none⟩
    else none

def read (text : String) : Option Target :=
  if sizeLimit < text.utf8ByteSize then none else ofChars? text.toList

end Target
end SecretBroker.Http
