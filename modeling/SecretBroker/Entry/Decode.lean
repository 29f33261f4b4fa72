import SecretBroker.Entry
import SecretBroker.Json.Reader

/-!
Entries from JSON. Every member has two spellings of its name and may be left out. A record may
also be given as an array of its members in their fixed order.
-/

namespace SecretBroker

namespace Json

/-- The one member under any of the names; `none` if there are several. -/
def memberNamed (names : List String) (members : List (Option String × Json)) :
    Option (Option Json) :=
  match members.filter (fun m => m.1.any names.contains) with
  | [] => some none
  | [m] => some (some m.2)
  | _ => none

/-- What a record's members are given as, in the record's order, `none` for one left out.
Unknown members of an object are passed over; an array may not have too many items. -/
def slots (names : List (List String)) : Json → Option (List (Option Json))
  | .object members =>
    if members.all (·.1.isSome) then names.mapM (memberNamed · members) else none
  | .array items =>
    if items.length ≤ names.length then
      some (items.map some ++ List.replicate (names.length - items.length) none)
    else none
  | _ => none

/-- A member that may be left out or null. -/
def optional {α : Type} (read : Json → Option α) : Option Json → Option (Option α)
  | none => some none
  | some .null => some none
  | some json => (read json).map some

def string? : Json → Option String
  | .text value => value
  | _ => none

/-- An integer of 64 bits with sign. -/
def int64? : Json → Option Int
  | .integer n => if -0x8000000000000000 ≤ n ∧ n ≤ 0x7fffffffffffffff then some n else none
  | _ => none

/-- An integer of 64 bits without sign. -/
def nat64? : Json → Option Nat
  | .integer n => if 0 ≤ n ∧ n ≤ 0xffffffffffffffff then some n.toNat else none
  | _ => none

def list? {α : Type} (read : Json → Option α) : Json → Option (List α)
  | .array items => items.mapM read
  | _ => none

end Json

namespace CustomField

def ofJson (json : Json) : Option CustomField := do
  match ← json.slots [["name", "Name"], ["value", "Value"], ["type", "Type"]] with
  | [name, value, type] =>
    some ⟨← Json.optional Json.string? name, ← Json.optional Json.string? value,
      ← Json.optional Json.int64? type⟩
  | _ => none

end CustomField

namespace LoginUri

def ofJson (json : Json) : Option LoginUri := do
  match ← json.slots [["uri", "Uri"]] with
  | [uri] => some ⟨← Json.optional Json.string? uri⟩
  | _ => none

end LoginUri

namespace LoginData

def ofJson (json : Json) : Option LoginData := do
  match ← json.slots [["username", "Username"], ["password", "Password"], ["uris", "Uris"]] with
  | [username, password, uris] =>
    some ⟨← Json.optional Json.string? username, ← Json.optional Json.string? password,
      ← Json.optional (Json.list? LoginUri.ofJson) uris⟩
  | _ => none

end LoginData

namespace EntryType

/-- A type left out is type zero; a type may not be null. -/
def ofMember : Option Json → Option EntryType
  | none => some (.other 0)
  | some json => json.int64?.map ofCode

end EntryType

namespace Entry

def ofJson (json : Json) : Option Entry := do
  match ← json.slots [["id", "Id"], ["name", "Name"], ["type", "Type"], ["login", "Login"],
    ["notes", "Notes"], ["fields", "Fields"]] with
  | [id, name, type, login, notes, fields] =>
    some ⟨← Json.optional Json.string? id, ← Json.optional Json.string? name,
      ← EntryType.ofMember type, ← Json.optional LoginData.ofJson login,
      ← Json.optional Json.string? notes, ← Json.optional (Json.list? CustomField.ofJson) fields⟩
  | _ => none

def read (text : String) : Option Entry := (Json.readText text).bind ofJson

/-- A bare list of entries. -/
def readList (text : String) : Option (List Entry) := (Json.readText text).bind (Json.list? ofJson)

/-- The envelope around a listing. A list left out is empty; it may not be null. -/
def listOfJson (json : Json) : Option (List Entry) := do
  match ← json.slots [["data", "Data"]] with
  | [none] => some []
  | [some entries] => entries.list? ofJson
  | _ => none

def readEnvelope (text : String) : Option (List Entry) := (Json.readText text).bind listOfJson

end Entry
end SecretBroker
