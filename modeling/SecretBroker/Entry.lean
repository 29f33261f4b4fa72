/-!
Entries of the vault, and which of an entry's texts is the value of the secret it stands for.
The vault's own listing and the command line client have different rules for that.
-/

namespace SecretBroker

inductive EntryType where
  | login
  | secureNote
  | card
  | identity
  | other (code : Int)
  deriving DecidableEq, Repr

def EntryType.ofCode (code : Int) : EntryType :=
  if code = 1 then .login
  else if code = 2 then .secureNote
  else if code = 3 then .card
  else if code = 4 then .identity
  else .other code

structure CustomField where
  name : Option String
  value : Option String
  type : Option Int
  deriving DecidableEq, Repr

structure LoginUri where
  uri : Option String
  deriving DecidableEq, Repr

structure LoginData where
  username : Option String
  password : Option String
  uris : Option (List LoginUri)
  deriving DecidableEq, Repr

structure Entry where
  id : Option String
  name : Option String
  type : EntryType
  login : Option LoginData
  notes : Option String
  fields : Option (List CustomField)
  deriving DecidableEq, Repr

def nonEmpty (text : Option String) : Option String := text.filter (· ≠ "")

namespace Entry

def nameOrEmpty (entry : Entry) : String := entry.name.getD ""

def idOrEmpty (entry : Entry) : String := entry.id.getD ""

def password (entry : Entry) : Option String := entry.login.bind fun login => nonEmpty login.password

def noteText (entry : Entry) : Option String := nonEmpty entry.notes

def fieldList (entry : Entry) : List CustomField := entry.fields.getD []

/-- The first non-empty value among the fields whose name is wanted. -/
def namedValue (wanted : String → Bool) (entry : Entry) : Option String :=
  (entry.fieldList.filter (·.name.any wanted)).findSome? (nonEmpty ·.value)

def isExactName (name : String) : Bool := name == "value" || name == "secret"

def isFoldedName (name : String) : Bool :=
  let folded := String.ofList (name.toList.map Char.toLower)
  folded == "value" || folded == "secret" || folded == "api_key"

/-- The value by the rule of the listing: a login's password, a secure note's text, a field
named `value` or `secret`, any notes. -/
def listedValue (entry : Entry) : Option String :=
  (if entry.type = .login then entry.password else none) <|>
  (if entry.type = .secureNote then entry.noteText else none) <|>
  entry.namedValue isExactName <|>
  entry.noteText

/-- The value by the rule of the command line client: any password, a field named `value`,
`secret` or `api_key` in any case, any notes, the first field's value. -/
def clientValue (entry : Entry) : Option String :=
  entry.password <|>
  entry.namedValue isFoldedName <|>
  entry.noteText <|>
  (entry.fieldList.head?.bind (nonEmpty ·.value))

end Entry
end SecretBroker
