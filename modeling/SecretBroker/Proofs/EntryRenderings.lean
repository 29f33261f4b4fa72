import SecretBroker.Proofs.JsonReadings
import SecretBroker.Proofs.RepeatedKeys
import SecretBroker.Proofs.TextBytes

/-!
The renderings of entries as JSON: each record as an object with its members in any order and in
either spelling, what it lacks left out or null, and any other members between. Decoding gives back
the entry that was rendered.
-/

namespace SecretBroker

namespace Json

def IsText (value : String) (json : Json) : Prop := json = .text (some value)

def IsInteger (value : Int) (json : Json) : Prop := json = .integer value

/-- What stands for something that may be lacking, which is left out or null then. -/
inductive Given {α : Type} (renders : α → Json → Prop) : Option α → Option Json → Prop
  | omitted : Given renders none none
  | null : Given renders none (some .null)
  | given {value : α} {json : Json} : renders value json → Given renders (some value) (some json)

/-- The items of an array in their order. -/
def ListOf {α : Type} (renders : α → Json → Prop) (values : List α) (json : Json) : Prop :=
  ∃ items, json = .array items ∧ List.Forall₂ renders values items

/-- An integer of 64 bits with sign. -/
def Fits64 (value : Int) : Prop := -0x8000000000000000 ≤ value ∧ value < 0x8000000000000000

end Json

open Json (Shape Given)

namespace CustomField

def Rendered (field : CustomField) (json : Json) : Prop :=
  ∃ name value type, Given Json.IsText field.name name ∧ Given Json.IsText field.value value ∧
    Given Json.IsInteger field.type type ∧ Json.Assembles Shape.field.keys [name, value, type] json

def Proper (field : CustomField) : Prop := ∀ type, field.type = some type → Json.Fits64 type

end CustomField

namespace LoginUri

def Rendered (address : LoginUri) (json : Json) : Prop :=
  ∃ uri, Given Json.IsText address.uri uri ∧ Json.Assembles Shape.uri.keys [uri] json

end LoginUri

namespace LoginData

def Rendered (login : LoginData) (json : Json) : Prop :=
  ∃ username password uris, Given Json.IsText login.username username ∧
    Given Json.IsText login.password password ∧
    Given (Json.ListOf LoginUri.Rendered) login.uris uris ∧
    Json.Assembles Shape.login.keys [username, password, uris] json

end LoginData

namespace EntryType

def code : EntryType → Int
  | login => 1
  | secureNote => 2
  | card => 3
  | identity => 4
  | other code => code

/-- The number, which may be left out where it is zero. -/
inductive Rendered : EntryType → Option Json → Prop
  | omitted : Rendered (other 0) none
  | number (type : EntryType) : Rendered type (some (.integer type.code))

/-- Another type has a number of 64 bits that is none of the first four. -/
def Proper (type : EntryType) : Prop :=
  ∀ code, type = other code → Json.Fits64 code ∧ code ∉ [1, 2, 3, 4]

end EntryType

namespace Entry

def Rendered (entry : Entry) (json : Json) : Prop :=
  ∃ id name type login notes fields, Given Json.IsText entry.id id ∧
    Given Json.IsText entry.name name ∧ entry.type.Rendered type ∧
    Given LoginData.Rendered entry.login login ∧ Given Json.IsText entry.notes notes ∧
    Given (Json.ListOf CustomField.Rendered) entry.fields fields ∧
    Json.Assembles Shape.entry.keys [id, name, type, login, notes, fields] json

/-- An envelope around the renderings of entries. -/
def Enclosed (entries : List Entry) (json : Json) : Prop :=
  ∃ data, Json.ListOf Rendered entries data ∧
    Json.Assembles Shape.envelope.keys [some data] json

def Proper (entry : Entry) : Prop :=
  entry.type.Proper ∧ ∀ fields, entry.fields = some fields → ∀ field ∈ fields, field.Proper

end Entry

namespace Json

theorem optional_given {α : Type} {renders : α → Json → Prop} {read : Json → Option α}
    {value : Option α} {slot : Option Json} (given : Given renders value slot)
    (refuses : read .null = none)
    (reads : ∀ some, value = .some some → ∀ json, renders some json → read json = .some some) :
    optional read slot = some value := by
  cases given with
  | omitted => rfl
  | null => rfl
  | @given value json rendered =>
      have found := reads value rfl json rendered
      cases json with
      | null => cases refuses.symm.trans found
      | _ => exact (congrArg (Option.map some) found)

theorem list_rendered {α : Type} {renders : α → Json → Prop} {read : Json → Option α}
    {values : List α} {json : Json} (rendered : ListOf renders values json)
    (reads : ∀ value ∈ values, ∀ json, renders value json → read json = some value) :
    list? read json = some values := by
  obtain ⟨items, rfl, each⟩ := rendered
  refine mapM_of_forall₂ ?_
  induction each with
  | nil => exact .nil
  | cons first _ ih =>
      exact .cons (reads _ List.mem_cons_self _ first)
        (ih fun value later => reads value (List.mem_cons_of_mem _ later))

theorem string_read {value : String} {json : Json} (rendered : IsText value json) :
    string? json = some value := by
  rw [rendered]
  rfl

theorem text_given {value : Option String} {slot : Option Json} (given : Given IsText value slot) :
    optional string? slot = some value :=
  optional_given given rfl fun _ _ _ => string_read

theorem int64_read {value : Int} {json : Json} (fits : Fits64 value)
    (rendered : IsInteger value json) : int64? json = some value := by
  obtain ⟨least, most⟩ := fits
  rw [rendered, int64?]
  exact if_pos ⟨by omega, by omega⟩

end Json

theorem CustomField.rendered_read {field : CustomField} {json : Json} (proper : field.Proper)
    (rendered : field.Rendered json) : CustomField.ofJson json = some field := by
  obtain ⟨name, value, type, first, second, third, assembles⟩ := rendered
  refine (CustomField.ofJson_iff json field).mpr ⟨name, value, type,
    Json.slots_assembled assembles Shape.field.keys_apart, ?_, ?_, ?_⟩
  · exact Json.text_given first
  · exact Json.text_given second
  · exact Json.optional_given third rfl fun code same _ => Json.int64_read (proper code same)

theorem LoginUri.rendered_read {address : LoginUri} {json : Json}
    (rendered : address.Rendered json) : LoginUri.ofJson json = some address := by
  obtain ⟨uri, first, assembles⟩ := rendered
  refine (LoginUri.ofJson_iff json address).mpr ⟨uri,
    Json.slots_assembled assembles Shape.uri.keys_apart, ?_⟩
  exact Json.text_given first

theorem LoginData.rendered_read {login : LoginData} {json : Json}
    (rendered : login.Rendered json) : LoginData.ofJson json = some login := by
  obtain ⟨username, password, uris, first, second, third, assembles⟩ := rendered
  refine (LoginData.ofJson_iff json login).mpr ⟨username, password, uris,
    Json.slots_assembled assembles Shape.login.keys_apart, ?_, ?_, ?_⟩
  · exact Json.text_given first
  · exact Json.text_given second
  · exact Json.optional_given third rfl fun _ _ _ listed =>
      Json.list_rendered listed fun _ _ _ => LoginUri.rendered_read

theorem EntryType.rendered_read {type : EntryType} {slot : Option Json} (proper : type.Proper)
    (rendered : type.Rendered slot) : EntryType.ofMember slot = some type := by
  cases rendered with
  | omitted => rfl
  | number =>
      have fits : Json.Fits64 type.code := by
        cases type with
        | other code => exact (proper code rfl).1
        | _ => exact ⟨by decide, by decide⟩
      have decoded : EntryType.ofCode type.code = type := by
        cases type with
        | other code =>
            have differs := (proper code rfl).2
            simp only [List.mem_cons, List.not_mem_nil, or_false, not_or] at differs
            obtain ⟨one, two, three, four⟩ := differs
            rw [EntryType.code, EntryType.ofCode, if_neg one, if_neg two, if_neg three, if_neg four]
        | _ => rfl
      rw [EntryType.ofMember, Json.int64_read fits rfl, Option.map_some, decoded]

theorem Entry.rendered_read {entry : Entry} {json : Json} (proper : entry.Proper)
    (rendered : entry.Rendered json) : Entry.ofJson json = some entry := by
  obtain ⟨id, name, type, login, notes, fields, first, second, third, fourth, fifth, sixth,
    assembles⟩ := rendered
  refine (Entry.ofJson_iff json entry).mpr ⟨id, name, type, login, notes, fields,
    Json.slots_assembled assembles Shape.entry.keys_apart, ?_, ?_, ?_, ?_, ?_, ?_⟩
  · exact Json.text_given first
  · exact Json.text_given second
  · exact EntryType.rendered_read proper.1 third
  · exact Json.optional_given fourth rfl fun _ _ _ => LoginData.rendered_read
  · exact Json.text_given fifth
  · exact Json.optional_given sixth rfl fun fields same _ listed =>
      Json.list_rendered listed fun field member _ =>
        CustomField.rendered_read (proper.2 fields same field member)

theorem Entry.enclosed_read {entries : List Entry} {json : Json}
    (proper : ∀ entry ∈ entries, entry.Proper) (enclosed : Entry.Enclosed entries json) :
    Entry.listOfJson json = some entries := by
  obtain ⟨data, listed, assembles⟩ := enclosed
  refine (Entry.listOfJson_iff json entries).mpr ⟨some data,
    Json.slots_assembled assembles Shape.envelope.keys_apart, ?_⟩
  exact Json.list_rendered listed fun entry member _ => Entry.rendered_read (proper entry member)

/-- An answer's body is decoded from its bytes, as an envelope is from its text. -/
theorem Entry.envelope_bytes (text : String) :
    (Json.readBytes (Text.utf8 text)).bind Entry.listOfJson = Entry.readEnvelope text := by
  rw [Json.readBytes_utf8, Entry.readEnvelope]

/-- Decoding undoes every rendering of an entry, and of a list of entries in an envelope, also from
the bytes of an answer: the text may have any blanks and escapes, the records either spelling of
each key, any order and any members beside their own. A text in which a key has two members where a
record is decoded is refused. -/
theorem Entry.decoding_undoes_rendering :
    (∀ entry : Entry, entry.Proper → ∀ json text, entry.Rendered json →
      Json.Writes (.item json) text.toList → Entry.read text = some entry) ∧
    (∀ entries : List Entry, (∀ entry ∈ entries, entry.Proper) → ∀ json text,
      Entry.Enclosed entries json → Json.Writes (.item json) text.toList →
      Entry.readEnvelope text = some entries ∧
      (Json.readBytes (Text.utf8 text)).bind Entry.listOfJson = some entries) ∧
    ∀ json text, Json.Writes (.item json) text.toList →
      (Json.Doubled .entry json → Entry.read text = none) ∧
      (Json.Doubled .envelope json → Entry.readEnvelope text = none ∧
        (Json.readBytes (Text.utf8 text)).bind Entry.listOfJson = none) := by
  refine ⟨?_, ?_, ?_⟩
  · intro entry proper json text rendered wrote
    rw [Entry.read, (Json.readText_iff text json).mpr wrote]
    exact Entry.rendered_read proper rendered
  · intro entries proper json text enclosed wrote
    rw [Entry.envelope_bytes, and_self, Entry.readEnvelope, (Json.readText_iff text json).mpr wrote]
    exact Entry.enclosed_read proper enclosed
  · intro json text wrote
    rw [Entry.envelope_bytes, and_self, Entry.read, Entry.readEnvelope,
      (Json.readText_iff text json).mpr wrote]
    exact ⟨fun doubled => Option.not_isSome_iff_eq_none.mp doubled.refused,
      fun doubled => Option.not_isSome_iff_eq_none.mp doubled.refused⟩

/-- An entry with only a name is decoded from an object with the name behind an unknown member, in
the other spelling and escaped, and with null notes. An object with both spellings is refused. -/
theorem Entry.escaped_name_decoded :
    Entry.read "\x7b\"x\": [1.5],\"Name\":\"\\u0041\",\"notes\":null\x7d" =
        some ⟨none, some "A", .other 0, none, none, none⟩ ∧
      Entry.read "\x7b\"name\":null,\"Name\":null\x7d" = none := by
  have nothing : Json.Blanks [] := nofun
  have space : Json.Blanks [some ' '] := List.forall_mem_singleton.mpr (by decide)
  have member (name : String) (plain : name.toList.all Json.isPlain = true)
      {json : Json} {before written : List Json.Symbol} (blanks : Json.Blanks before)
      (derived : Json.Derives (.value json) written) :
      Json.Derives (.member (some name) json) (some '"' :: (name.toList.map some ++
        some '"' :: some ':' :: (before ++ (written ++ [])))) :=
    .member nothing (Json.quoted_plain name plain) nothing (.item blanks derived nothing)
  have half : Json.Derives (.value .real) ((Json.numeral false 1 ['.', '5'] []).map some) :=
    .real (.point ⟨by decide, by decide⟩) .absent (.inl (by decide))
  have numbers := Json.Derives.array (.oneItem (.item nothing half nothing))
  have escaped : Json.Derives (.value (.text (some "A")))
      (['"', '\\', 'u', '0', '0', '4', '1', '"'].map some) := by
    have digit (value : Nat) (below : value < 16) : Json.HexDigit value (Nat.digitChar value) :=
      ⟨below, .inl rfl⟩
    have unit : Json.HexUnit 65 ['0', '0', '4', '1'] := .four (digit 0 (by decide))
      (digit 0 (by decide)) (digit 4 (by decide)) (digit 1 (by decide))
    have stands : Json.Decodes [.unit 65] "A".toList := by
      rw [show "A".toList = ['A'] by decide +kernel]
      exact .unit (c := 'A') .nil
    exact .text ⟨[.unit 65], .unit unit .nil, stands⟩
  have rendered : Entry.Rendered ⟨none, some "A", .other 0, none, none, none⟩
      (.object [(some "x", .array [.real]), (some "Name", .text (some "A")),
        (some "notes", .null)]) :=
    ⟨none, some (.text (some "A")), none, none, some .null, none, .omitted, .given rfl, .omitted,
      .omitted, .null, .omitted, _, _, [(some "x", .array [.real])], rfl,
      .omitted (.spelled (by decide +kernel) (.omitted (.omitted
        (.spelled (by decide +kernel) (.omitted .nil))))),
      by simpa using ⟨_, rfl, by decide +kernel⟩, @List.perm_append_comm _ [_] [_, _]⟩
  have proper : Entry.Proper ⟨none, some "A", .other 0, none, none, none⟩ := by
    refine ⟨?_, fun fields same => nomatch same⟩
    rintro code ⟨⟩
    exact ⟨⟨by decide, by decide⟩, by decide⟩
  have twice : Json.Repeats Shape.entry.keys [(some "name", .null), (some "Name", .null)] :=
    ⟨"name", by decide, [], _, [], _, [], rfl, ⟨"name", by decide +kernel, rfl⟩,
      ⟨"Name", by decide +kernel, rfl⟩⟩
  obtain ⟨decoded, -, refused⟩ := Entry.decoding_undoes_rendering
  constructor
  · refine decoded _ proper _ _ rendered ?_
    refine cast (congrArg (Json.Derives _) ?_) (Json.Derives.item nothing (.object
      (.moreMembers (member "x" (by decide +kernel) space numbers)
        (.moreMembers (member "Name" (by decide +kernel) nothing escaped)
          (.oneMember (member "notes" (by decide +kernel) nothing .null))))) nothing)
    decide +kernel
  · refine (refused _ _ ?_).1 (.here twice)
    refine cast (congrArg (Json.Derives _) ?_) (Json.Derives.item nothing (.object
      (.moreMembers (member "name" (by decide +kernel) nothing .null)
        (.oneMember (member "Name" (by decide +kernel) nothing .null)))) nothing)
    decide +kernel

end SecretBroker
