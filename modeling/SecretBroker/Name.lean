import SecretBroker.Text.Fold
import SecretBroker.VaultError

/-!
Names of secrets. A lookup name is any short text without controls; a path name, which callers
may put into a request path, is much narrower. Command line arguments have the rule of lookup
names and may in addition not look like a flag.
-/

namespace SecretBroker

/-- Names and arguments have at most this many characters, path names this many bytes. -/
def nameLimit : Nat := 255

namespace LookupName

inductive Fault where
  | empty
  | tooLong
  | control
  deriving DecidableEq, Repr

def Fault.reason : Fault → String
  | .empty => "secret name cannot be empty"
  | .tooLong => "secret name exceeds " ++ toString nameLimit ++ " characters"
  | .control => "secret name contains control characters"

def Fault.error (fault : Fault) : VaultError := .invalidInput fault.reason

def fault? (name : String) : Option Fault :=
  if name.isEmpty then some .empty
  else if nameLimit < name.length then some .tooLong
  else if name.toList.any Text.isControl then some .control
  else none

def check (name : String) : Answer Unit :=
  match fault? name with
  | some fault => .error fault.error
  | none => .ok ()

end LookupName

namespace Argument

inductive Fault where
  | empty
  | tooLong
  | control
  | flag
  deriving DecidableEq, Repr

def Fault.reason : Fault → String
  | .empty => "argument cannot be empty"
  | .tooLong => "argument exceeds " ++ toString nameLimit ++ " characters"
  | .control => "argument contains control characters"
  | .flag => "argument cannot start with '-'"

def Fault.error (fault : Fault) : VaultError := .invalidInput fault.reason

def fault? (value : String) : Option Fault :=
  if value.isEmpty then some .empty
  else if nameLimit < value.length then some .tooLong
  else if value.toList.any Text.isControl then some .control
  else if value.toList.head? = some '-' then some .flag
  else none

def check (value : String) : Answer Unit :=
  match fault? value with
  | some fault => .error fault.error
  | none => .ok ()

end Argument

namespace PathName

def isInner (c : Char) : Bool :=
  Text.isAsciiAlphanumeric c || c = '_' || c = '-' || c = '.' || c = '/'

def hasDotDot : List Char → Bool
  | '.' :: '.' :: _ => true
  | _ :: rest => hasDotDot rest
  | [] => false

/-- Letters and digits at both ends, those and `_ - . /` between, and no step upwards. -/
def isValidChars (name : List Char) : Bool :=
  name.head?.any Text.isAsciiAlphanumeric && name.getLast?.any Text.isAsciiAlphanumeric &&
    name.all isInner && !hasDotDot name

def isValid (name : String) : Bool :=
  !name.isEmpty && name.utf8ByteSize ≤ nameLimit && isValidChars name.toList

end PathName
end SecretBroker
