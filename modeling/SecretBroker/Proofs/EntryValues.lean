import Mathlib.Data.Option.Basic
import SecretBroker.Entry
import SecretBroker.Text.Fold

/-!
The value of an entry by the rule of the listing and by that of the client. Neither is ever empty,
and the client has one wherever the listing has. Where no part of an entry is read by one rule only
or before another part, the client's value is the listed one.
-/

namespace SecretBroker

def Filled (text : Option String) : Prop := ∃ content, text = some content ∧ content ≠ ""

theorem nonEmpty_eq_some {text : Option String} {content : String} :
    nonEmpty text = some content ↔ text = some content ∧ content ≠ "" := by
  rw [nonEmpty, Option.filter_eq_some_iff, decide_eq_true_eq]

theorem nonEmpty_eq_none {text : Option String} : nonEmpty text = none ↔ ¬ Filled text := by
  rw [Option.eq_none_iff_forall_ne_some]
  constructor
  · rintro empty ⟨content, given, filled⟩
    exact empty content (nonEmpty_eq_some.mpr ⟨given, filled⟩)
  · intro unfilled content found
    exact unfilled ⟨content, nonEmpty_eq_some.mp found⟩

theorem nonEmpty_ne_empty (text : Option String) : nonEmpty text ≠ some "" := by
  intro empty
  exact (nonEmpty_eq_some.mp empty).2 rfl

/-- The client takes the field's value for the value of its entry, if nothing goes before it. -/
def CustomField.Sought (field : CustomField) : Prop :=
  Filled field.value ∧
    ∃ name, field.name = some name ∧ Text.foldAscii name ∈ ["value", "secret", "api_key"]

namespace Entry

theorem isExactName_iff {name : String} :
    isExactName name = true ↔ name = "value" ∨ name = "secret" := by
  simp [isExactName]

theorem isFoldedName_iff {name : String} :
    isFoldedName name = true ↔ Text.foldAscii name ∈ ["value", "secret", "api_key"] := by
  simp [isFoldedName, Text.foldAscii, or_assoc]

theorem folded_of_exact {name : String} (exact : isExactName name = true) :
    isFoldedName name = true := by
  rcases isExactName_iff.mp exact with rfl | rfl <;> decide

theorem sought_iff {field : CustomField} :
    field.Sought ↔ Filled field.value ∧ field.name.any isFoldedName = true := by
  simp only [CustomField.Sought, Option.any_eq_true, isFoldedName_iff]

/-- The first non-empty value among the fields of a list whose name is wanted. -/
def firstValue (wanted : String → Bool) (fields : List CustomField) : Option String :=
  (fields.filter (·.name.any wanted)).findSome? (nonEmpty ·.value)

variable {wanted one other : String → Bool} {field : CustomField} {rest fields : List CustomField}

theorem firstValue_unfilled (unfilled : ¬ Filled field.value) :
    firstValue wanted (field :: rest) = firstValue wanted rest := by
  simp only [firstValue, List.filter_cons]
  split
  · rw [List.findSome?_cons, nonEmpty_eq_none.mpr unfilled]
  · rfl

theorem firstValue_passed (unwanted : field.name.any wanted = false) :
    firstValue wanted (field :: rest) = firstValue wanted rest := by
  simp [firstValue, unwanted]

theorem firstValue_taken {content : String} (named : field.name.any wanted = true)
    (filled : nonEmpty field.value = some content) :
    firstValue wanted (field :: rest) = some content := by
  simp [firstValue, named, filled]

theorem firstValue_eq_none : firstValue wanted fields = none ↔
    ∀ field ∈ fields, Filled field.value → field.name.any wanted = false := by
  simp only [firstValue, List.findSome?_eq_none_iff, List.mem_filter, nonEmpty_eq_none]
  constructor
  · intro unfilled field member filled
    apply Bool.eq_false_iff.mpr
    intro named
    exact unfilled field ⟨member, named⟩ filled
  · rintro unnamed field ⟨member, named⟩ filled
    rw [unnamed field member filled] at named
    cases named

theorem firstValue_ne_empty : firstValue wanted fields ≠ some "" := by
  intro empty
  obtain ⟨field, _, found⟩ := List.exists_of_findSome?_eq_some empty
  exact nonEmpty_ne_empty _ found

/-- Names matter only where there is a value. -/
theorem firstValue_congr (agree : ∀ field ∈ fields, Filled field.value →
      field.name.any one = field.name.any other) :
    firstValue one fields = firstValue other fields := by
  induction fields with
  | nil => rfl
  | cons field rest ih =>
      have later := ih fun field member => agree field (List.mem_cons_of_mem _ member)
      cases shown : nonEmpty field.value with
      | none =>
          have unfilled := nonEmpty_eq_none.mp shown
          rw [firstValue_unfilled unfilled, firstValue_unfilled unfilled, later]
      | some content =>
          have same := agree field List.mem_cons_self ⟨content, nonEmpty_eq_some.mp shown⟩
          cases named : field.name.any one with
          | false =>
              rw [firstValue_passed named, firstValue_passed (same ▸ named), later]
          | true =>
              rw [firstValue_taken named shown, firstValue_taken (same ▸ named) shown]

/-- A field that is wanted by its exact name is also wanted in any case. -/
theorem folded_found (found : firstValue isExactName fields ≠ none) :
    firstValue isFoldedName fields ≠ none := by
  intro absent
  apply found
  rw [firstValue_eq_none] at absent ⊢
  intro field member filled
  apply Bool.eq_false_iff.mpr
  intro named
  obtain ⟨name, given, exact⟩ := (Option.any_eq_true _ _).mp named
  have folded : field.name.any isFoldedName = true :=
    (Option.any_eq_true _ _).mpr ⟨name, given, folded_of_exact exact⟩
  rw [absent field member filled] at folded
  cases folded

variable {entry : Entry}

theorem password_eq_none :
    entry.password = none ↔ ∀ login, entry.login = some login → ¬ Filled login.password := by
  cases login : entry.login with
  | none => simp [password, login]
  | some data => simp [password, login, nonEmpty_eq_none]

theorem password_ne_empty : entry.password ≠ some "" := by
  intro empty
  obtain ⟨login, _, found⟩ := Option.bind_eq_some_iff.mp empty
  exact nonEmpty_ne_empty _ found

theorem firstFilled_ne_empty :
    entry.fieldList.head?.bind (nonEmpty ·.value) ≠ some "" := by
  intro empty
  obtain ⟨field, _, found⟩ := Option.bind_eq_some_iff.mp empty
  exact nonEmpty_ne_empty _ found

theorem listedValue_ne_empty : entry.listedValue ≠ some "" := by
  have passwords : entry.password ≠ some "" := password_ne_empty
  have notes : entry.noteText ≠ some "" := nonEmpty_ne_empty _
  have named : entry.namedValue isExactName ≠ some "" := firstValue_ne_empty
  simp only [listedValue, ne_eq, Option.orElse_eq_some]
  rintro (password | ⟨_, note | ⟨_, value | ⟨_, note⟩⟩⟩)
  · split at password
    · exact passwords password
    · cases password
  · split at note
    · exact notes note
    · cases note
  · exact named value
  · exact notes note

theorem clientValue_ne_empty : entry.clientValue ≠ some "" := by
  have notes : entry.noteText ≠ some "" := nonEmpty_ne_empty _
  have named : entry.namedValue isFoldedName ≠ some "" := firstValue_ne_empty
  simp only [clientValue, ne_eq, Option.orElse_eq_some]
  rintro (password | ⟨_, value | ⟨_, note | ⟨_, first⟩⟩⟩)
  · exact password_ne_empty password
  · exact named value
  · exact notes note
  · exact firstFilled_ne_empty first

/-- Whatever the listing takes its value from, the client looks there too. -/
theorem listed_of_client_none (absent : entry.clientValue = none) : entry.listedValue = none := by
  simp only [clientValue, Option.orElse_eq_none] at absent
  obtain ⟨passwordless, unnamed, noteless, _⟩ := absent
  have inexact : entry.namedValue isExactName = none := by
    by_contra found
    exact folded_found found unnamed
  simp [listedValue, passwordless, noteless, inexact]

/-- No part of the entry is read by one rule only, or before another part by one rule only. -/
structure Alike (entry : Entry) : Prop where
  password : entry.type = .login ∨ ∀ login, entry.login = some login → ¬ Filled login.password
  names : ∀ field ∈ entry.fieldList, field.Sought →
    field.name = some "value" ∨ field.name = some "secret"
  notes : ¬ (entry.type = .secureNote ∧ Filled entry.notes ∧ ∃ field ∈ entry.fieldList, field.Sought)

theorem Alike.named (alike : entry.Alike) :
    entry.namedValue isFoldedName = entry.namedValue isExactName := by
  apply firstValue_congr
  intro field member filled
  cases folded : field.name.any isFoldedName with
  | true =>
      rcases alike.names field member (sought_iff.mpr ⟨filled, folded⟩) with name | name <;>
        rw [name] <;> rfl
  | false =>
      symm
      apply Bool.eq_false_iff.mpr
      intro exact
      obtain ⟨name, given, exactName⟩ := (Option.any_eq_true _ _).mp exact
      rw [given, Option.any_some, folded_of_exact exactName] at folded
      cases folded

/-- A secure note's text goes first with the one and after the fields with the other, but then no
field is in question. -/
theorem Alike.note_first (alike : entry.Alike) :
    (if entry.type = .secureNote then entry.noteText else none).or
        ((entry.namedValue isExactName).or entry.noteText) =
      (entry.namedValue isExactName).or entry.noteText := by
  split
  · rename_i note
    cases text : entry.noteText with
    | none => rfl
    | some content =>
        have filled : Filled entry.notes := ⟨content, nonEmpty_eq_some.mp text⟩
        have unnamed : entry.namedValue isExactName = none := by
          rw [← alike.named]
          apply firstValue_eq_none.mpr
          intro field member value
          apply Bool.eq_false_iff.mpr
          intro folded
          exact alike.notes ⟨note, filled, field, member, sought_iff.mpr ⟨value, folded⟩⟩
        rw [unnamed]
        rfl
  · rfl

theorem Alike.password_read (alike : entry.Alike) :
    (if entry.type = .login then entry.password else none) = entry.password := by
  split
  · rfl
  · rename_i differs
    rcases alike.password with login | passwordless
    · exact absurd login differs
    · exact (password_eq_none.mpr passwordless).symm

/-- What the client adds is the value of the first field. -/
theorem Alike.clientValue_eq (alike : entry.Alike) : entry.clientValue =
    entry.listedValue.or (entry.fieldList.head?.bind (nonEmpty ·.value)) := by
  simp only [clientValue, listedValue, Option.orElse_eq_orElse, Option.orElse_eq_or,
    alike.named, alike.note_first, alike.password_read, Option.or_assoc]

/-- For every entry, no value is empty by either rule, the client has one wherever the listing has,
and unless the parts of the entry are read differently it is the same. Where only the client has one
it is then that of the first field. -/
theorem extraction_rules_agree (entry : Entry) :
    entry.listedValue ≠ some "" ∧ entry.clientValue ≠ some "" ∧
    (entry.listedValue.isSome = true → entry.clientValue.isSome = true) ∧
    (entry.Alike → ∀ listed client, entry.listedValue = some listed →
      entry.clientValue = some client → listed = client) ∧
    (entry.Alike → entry.listedValue = none →
      entry.clientValue = entry.fieldList.head?.bind (nonEmpty ·.value)) := by
  refine ⟨listedValue_ne_empty, clientValue_ne_empty, ?_, ?_, ?_⟩
  · intro listed
    by_contra absent
    rw [listed_of_client_none (Option.not_isSome_iff_eq_none.mp absent)] at listed
    cases listed
  · intro alike listed client there here
    rw [alike.clientValue_eq, there] at here
    exact Option.some.inj here
  · intro alike absent
    rw [alike.clientValue_eq, absent, Option.none_or]

/-- A card with notes, an empty password and an empty field before the one that counts. -/
theorem secret_field_serves_both :
    let entry : Entry := ⟨none, some "TOKEN", .card, some ⟨some "app", some "", none⟩, some "note",
      some [⟨some "other", some "o", none⟩, ⟨some "Value", some "", none⟩,
        ⟨some "secret", some "s", none⟩]⟩
    entry.Alike ∧ entry.listedValue = some "s" ∧ entry.clientValue = some "s" := by
  intro entry
  have alike : entry.Alike := by
    constructor
    · right
      rintro login given ⟨content, password, filled⟩
      cases given
      exact filled (Option.some.inj password).symm
    · intro field member sought
      have listed : field.name.any isFoldedName = true ∧ Filled field.value :=
        (sought_iff.mp sought).symm
      rcases List.mem_cons.mp member with rfl | member
      · exact absurd listed.1 (by decide)
      rcases List.mem_cons.mp member with rfl | member
      · obtain ⟨content, value, filled⟩ := listed.2
        exact absurd (Option.some.inj value).symm filled
      · rw [List.mem_singleton.mp member]
        exact Or.inr rfl
    · rintro ⟨note, _⟩
      cases note
  have listed : entry.listedValue = some "s" := by decide
  obtain ⟨_, _, present, same, _⟩ := extraction_rules_agree entry
  obtain ⟨client, found⟩ := Option.isSome_iff_exists.mp (present (by rw [listed]; rfl))
  refine ⟨alike, listed, ?_⟩
  rw [found, same alike "s" client listed found]

end Entry
end SecretBroker
