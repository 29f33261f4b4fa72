import SecretBroker.Proofs.RecordMembers

/-!
The records of an entry, each read from what stands under its keys, and that no record is read in
which, at any depth, one key has two members.
-/

namespace SecretBroker.Json

/-- The records that are decoded: a custom field, the address of a login, a login, an entry, and the
envelope around a listing. -/
inductive Shape
  | field
  | uri
  | login
  | entry
  | envelope

namespace Shape

def keys : Shape → List String
  | field => ["name", "value", "type"]
  | uri => ["uri"]
  | login => ["username", "password", "uris"]
  | entry => ["id", "name", "type", "login", "notes", "fields"]
  | envelope => ["data"]

/-- The keys under which a record stands. -/
def records : Shape → List (String × Shape)
  | entry => [("login", login)]
  | _ => []

/-- The keys under which a list of records stands. -/
def lists : Shape → List (String × Shape)
  | login => [("uris", uri)]
  | entry => [("fields", field)]
  | envelope => [("data", entry)]
  | _ => []

theorem keys_apart (shape : Shape) : Apart shape.keys := by
  cases shape <;> decide +kernel

/-- The names that a record's members may have. -/
abbrev names (shape : Shape) : List (List String) := shape.keys.map spellings

def Accepts : Shape → Json → Prop
  | field, json => (CustomField.ofJson json).isSome
  | uri, json => (LoginUri.ofJson json).isSome
  | login, json => (LoginData.ofJson json).isSome
  | entry, json => (Entry.ofJson json).isSome
  | envelope, json => (Entry.listOfJson json).isSome

end Shape

/-- At some depth at which records are decoded, one key has two members. -/
inductive Doubled : Shape → Json → Prop
  | here {shape : Shape} {members : List (Option String × Json)} : Repeats shape.keys members →
      Doubled shape (.object members)
  | record {shape inner : Shape} {key : String} {json within : Json} :
      (key, inner) ∈ shape.records → Gives shape.keys json key within → Doubled inner within →
      Doubled shape json
  | list {shape inner : Shape} {key : String} {json item : Json} {items : List Json} :
      (key, inner) ∈ shape.lists → Gives shape.keys json key (.array items) → item ∈ items →
      Doubled inner item → Doubled shape json

theorem optional_some {α : Type} {read : Json → Option α} {slot : Option Json} {result : Option α}
    (found : optional read slot = some result) {json : Json} (given : slot = some json) :
    json = .null ∨ (read json).isSome := by
  subst given
  unfold optional at found
  split at found
  · rename_i absent
    cases absent
  · rename_i same
    exact .inl (Option.some.inj same)
  · rename_i same
    cases same
    obtain ⟨value, got, -⟩ := Option.map_eq_some_iff.mp found
    exact .inr (by rw [got]; rfl)

end SecretBroker.Json

namespace SecretBroker

open Json (Shape)

/-! What each record is read from: its slots in the order of its keys, and the reader of each. -/

theorem CustomField.ofJson_iff (json : Json) (field : CustomField) :
    CustomField.ofJson json = some field ↔
      ∃ name value type, json.slots Shape.field.names = some [name, value, type] ∧
        Json.optional Json.string? name = some field.name ∧
        Json.optional Json.string? value = some field.value ∧
        Json.optional Json.int64? type = some field.type := by
  have names : [["name", "Name"], ["value", "Value"], ["type", "Type"]] = Shape.field.names := by
    decide +kernel
  rw [CustomField.ofJson, names]
  constructor
  · intro read
    obtain ⟨given, found, rest⟩ := Option.bind_eq_some_iff.mp read
    split at rest
    · simp only [Option.bind_eq_bind, Option.bind_eq_some_iff, Option.some.injEq] at rest
      obtain ⟨_, first, _, second, _, third, rfl⟩ := rest
      exact ⟨_, _, _, found, first, second, third⟩
    · cases rest
  · rintro ⟨name, value, type, found, first, second, third⟩
    simp only [found, first, second, third, Option.bind_eq_bind, Option.bind_some]

theorem LoginUri.ofJson_iff (json : Json) (address : LoginUri) :
    LoginUri.ofJson json = some address ↔
      ∃ uri, json.slots Shape.uri.names = some [uri] ∧
        Json.optional Json.string? uri = some address.uri := by
  have names : [["uri", "Uri"]] = Shape.uri.names := by decide +kernel
  rw [LoginUri.ofJson, names]
  constructor
  · intro read
    obtain ⟨given, found, rest⟩ := Option.bind_eq_some_iff.mp read
    split at rest
    · simp only [Option.bind_eq_bind, Option.bind_eq_some_iff, Option.some.injEq] at rest
      obtain ⟨_, first, rfl⟩ := rest
      exact ⟨_, found, first⟩
    · cases rest
  · rintro ⟨uri, found, first⟩
    simp only [found, first, Option.bind_eq_bind, Option.bind_some]

theorem LoginData.ofJson_iff (json : Json) (login : LoginData) :
    LoginData.ofJson json = some login ↔
      ∃ username password uris,
        json.slots Shape.login.names = some [username, password, uris] ∧
        Json.optional Json.string? username = some login.username ∧
        Json.optional Json.string? password = some login.password ∧
        Json.optional (Json.list? LoginUri.ofJson) uris = some login.uris := by
  have names : [["username", "Username"], ["password", "Password"], ["uris", "Uris"]] =
      Shape.login.names := by decide +kernel
  rw [LoginData.ofJson, names]
  constructor
  · intro read
    obtain ⟨given, found, rest⟩ := Option.bind_eq_some_iff.mp read
    split at rest
    · simp only [Option.bind_eq_bind, Option.bind_eq_some_iff, Option.some.injEq] at rest
      obtain ⟨_, first, _, second, _, third, rfl⟩ := rest
      exact ⟨_, _, _, found, first, second, third⟩
    · cases rest
  · rintro ⟨username, password, uris, found, first, second, third⟩
    simp only [found, first, second, third, Option.bind_eq_bind, Option.bind_some]

theorem Entry.ofJson_iff (json : Json) (entry : Entry) :
    Entry.ofJson json = some entry ↔
      ∃ id name type login notes fields,
        json.slots Shape.entry.names = some [id, name, type, login, notes, fields] ∧
        Json.optional Json.string? id = some entry.id ∧
        Json.optional Json.string? name = some entry.name ∧
        EntryType.ofMember type = some entry.type ∧
        Json.optional LoginData.ofJson login = some entry.login ∧
        Json.optional Json.string? notes = some entry.notes ∧
        Json.optional (Json.list? CustomField.ofJson) fields = some entry.fields := by
  have names : [["id", "Id"], ["name", "Name"], ["type", "Type"], ["login", "Login"],
      ["notes", "Notes"], ["fields", "Fields"]] = Shape.entry.names := by decide +kernel
  rw [Entry.ofJson, names]
  constructor
  · intro read
    obtain ⟨given, found, rest⟩ := Option.bind_eq_some_iff.mp read
    split at rest
    · simp only [Option.bind_eq_bind, Option.bind_eq_some_iff, Option.some.injEq] at rest
      obtain ⟨_, first, _, second, _, third, _, fourth, _, fifth, _, sixth, rfl⟩ := rest
      exact ⟨_, _, _, _, _, _, found, first, second, third, fourth, fifth, sixth⟩
    · cases rest
  · rintro ⟨id, name, type, login, notes, fields, found, first, second, third, fourth, fifth, sixth⟩
    simp only [found, first, second, third, fourth, fifth, sixth, Option.bind_eq_bind,
      Option.bind_some]

theorem Entry.listOfJson_iff (json : Json) (entries : List Entry) :
    Entry.listOfJson json = some entries ↔
      ∃ data, json.slots Shape.envelope.names = some [data] ∧
        (data.elim (some []) (Json.list? Entry.ofJson)) = some entries := by
  have names : [["data", "Data"]] = Shape.envelope.names := by decide +kernel
  rw [Entry.listOfJson, names]
  constructor
  · intro read
    obtain ⟨given, found, rest⟩ := Option.bind_eq_some_iff.mp read
    split at rest
    · exact ⟨_, found, rest⟩
    · exact ⟨_, found, rest⟩
    · cases rest
  · rintro ⟨data, found, rest⟩
    simp only [found, Option.bind_eq_bind, Option.bind_some]
    cases data with
    | none => exact rest
    | some data => exact rest

namespace Json

theorem Shape.slots_of_accepts {shape : Shape} {json : Json} (accepts : shape.Accepts json) :
    ∃ given, json.slots shape.names = some given := by
  cases shape with
  | field =>
      obtain ⟨field, read⟩ := Option.isSome_iff_exists.mp accepts
      obtain ⟨_, _, _, found, _⟩ := (CustomField.ofJson_iff json field).mp read
      exact ⟨_, found⟩
  | uri =>
      obtain ⟨address, read⟩ := Option.isSome_iff_exists.mp accepts
      obtain ⟨_, found, _⟩ := (LoginUri.ofJson_iff json address).mp read
      exact ⟨_, found⟩
  | login =>
      obtain ⟨login, read⟩ := Option.isSome_iff_exists.mp accepts
      obtain ⟨_, _, _, found, _⟩ := (LoginData.ofJson_iff json login).mp read
      exact ⟨_, found⟩
  | entry =>
      obtain ⟨entry, read⟩ := Option.isSome_iff_exists.mp accepts
      obtain ⟨_, _, _, _, _, _, found, _⟩ := (Entry.ofJson_iff json entry).mp read
      exact ⟨_, found⟩
  | envelope =>
      obtain ⟨entries, read⟩ := Option.isSome_iff_exists.mp accepts
      obtain ⟨_, found, _⟩ := (Entry.listOfJson_iff json entries).mp read
      exact ⟨_, found⟩

theorem list_accepted {α : Type} {read : Json → Option α} {items : List Json} {results : List α}
    (accepted : list? read (.array items) = some results) :
    ∀ item ∈ items, (read item).isSome := by
  intro item listed
  obtain ⟨_, result, _, _, found⟩ := forall₂_place (mapM_some accepted) listed
  rw [found]
  rfl

theorem list_accepted_optional {α : Type} {read : Json → Option α} {slot : Option Json}
    {result : Option (List α)} (found : optional (list? read) slot = some result)
    {items : List Json} (given : slot = some (.array items)) :
    ∀ item ∈ items, (read item).isSome := by
  rcases optional_some found given with null | listed
  · cases null
  · obtain ⟨results, accepted⟩ := Option.isSome_iff_exists.mp listed
    exact list_accepted accepted

/-- A record that is accepted has a record under each such key, if not null. -/
theorem Shape.accepts_record {shape inner : Shape} {key : String} {json within : Json}
    (accepts : shape.Accepts json) (nested : (key, inner) ∈ shape.records)
    (gives : Gives shape.keys json key within) : within = .null ∨ inner.Accepts within := by
  cases shape with
  | entry =>
      obtain ⟨rfl, rfl⟩ := Prod.mk.inj (List.mem_singleton.mp nested)
      obtain ⟨entry, read⟩ := Option.isSome_iff_exists.mp accepts
      obtain ⟨_, _, _, login, _, _, found, _, _, _, decoded, _⟩ :=
        (Entry.ofJson_iff json entry).mp read
      have given := slots_gives Shape.entry.keys_apart found gives
      have place : Shape.entry.keys.idxOf "login" = 3 := by decide +kernel
      rw [place] at given
      exact optional_some decoded (Option.some.inj given)
  | field | uri | login | envelope => cases nested

/-- A record that is accepted has only such records in a list under a key for a list of records. -/
theorem Shape.accepts_list {shape inner : Shape} {key : String} {json : Json} {items : List Json}
    (accepts : shape.Accepts json) (nested : (key, inner) ∈ shape.lists)
    (gives : Gives shape.keys json key (.array items)) : ∀ item ∈ items, inner.Accepts item := by
  cases shape with
  | login =>
      obtain ⟨rfl, rfl⟩ := Prod.mk.inj (List.mem_singleton.mp nested)
      obtain ⟨login, read⟩ := Option.isSome_iff_exists.mp accepts
      obtain ⟨_, _, _, found, _, _, decoded⟩ := (LoginData.ofJson_iff json login).mp read
      have given := slots_gives Shape.login.keys_apart found gives
      have place : Shape.login.keys.idxOf "uris" = 2 := by decide +kernel
      rw [place] at given
      exact list_accepted_optional decoded (Option.some.inj given)
  | entry =>
      obtain ⟨rfl, rfl⟩ := Prod.mk.inj (List.mem_singleton.mp nested)
      obtain ⟨entry, read⟩ := Option.isSome_iff_exists.mp accepts
      obtain ⟨_, _, _, _, _, _, found, _, _, _, _, _, decoded⟩ :=
        (Entry.ofJson_iff json entry).mp read
      have given := slots_gives Shape.entry.keys_apart found gives
      have place : Shape.entry.keys.idxOf "fields" = 5 := by decide +kernel
      rw [place] at given
      exact list_accepted_optional decoded (Option.some.inj given)
  | envelope =>
      obtain ⟨rfl, rfl⟩ := Prod.mk.inj (List.mem_singleton.mp nested)
      obtain ⟨entries, read⟩ := Option.isSome_iff_exists.mp accepts
      obtain ⟨_, found, decoded⟩ := (Entry.listOfJson_iff json entries).mp read
      have given := slots_gives Shape.envelope.keys_apart found gives
      have place : Shape.envelope.keys.idxOf "data" = 0 := by decide +kernel
      rw [place] at given
      rw [Option.some.inj given] at decoded
      exact list_accepted decoded
  | field | uri => cases nested

theorem Doubled.not_null {shape : Shape} {json : Json} (doubled : Doubled shape json) :
    json ≠ .null := by
  rintro rfl
  cases doubled with
  | record _ gives _ => cases gives
  | list _ gives _ _ => cases gives

/-- No record is accepted in which, at any depth, one key has two members. -/
theorem Doubled.refused {shape : Shape} {json : Json} (doubled : Doubled shape json) :
    ¬ shape.Accepts json := by
  induction doubled with
  | here repeats =>
      intro accepts
      obtain ⟨given, read⟩ := Shape.slots_of_accepts accepts
      cases (slots_repeated repeats).symm.trans read
  | record nested gives within ih =>
      intro accepts
      exact (Shape.accepts_record accepts nested gives).elim within.not_null ih
  | list nested gives listed _ ih =>
      intro accepts
      exact ih (Shape.accepts_list accepts nested gives _ listed)

end Json
end SecretBroker
