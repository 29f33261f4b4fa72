import Mathlib.Logic.Basic
import SecretBroker.Entry.Decode

/-!
Records with one key. Such a record is an object in which one member has the key's name, an array of
that one thing, or either of them without it.
-/

namespace SecretBroker.Json

/-- A member with another name. -/
def Other (key : String) (member : Option String × Json) : Prop :=
  ∃ name, member.1 = some name ∧ name ≠ key

/-- What a record gives for its only key, if anything. -/
inductive Sole (key : String) : Json → Option Json → Prop
  | member {before after : List (Option String × Json)} {json : Json} :
      (∀ other ∈ before, Other key other) → (∀ other ∈ after, Other key other) →
      Sole key (.object (before ++ (some key, json) :: after)) (some json)
  | noMember {members : List (Option String × Json)} : (∀ other ∈ members, Other key other) →
      Sole key (.object members) none
  | item (json : Json) : Sole key (.array [json]) (some json)
  | noItem : Sole key (.array []) none

/-- The member has the key's name. -/
def isNamed (key : String) (member : Option String × Json) : Bool := member.1.any [key].contains

theorem isNamed_iff (key : String) (member : Option String × Json) :
    isNamed key member = true ↔ member.1 = some key := by
  rw [isNamed]
  cases member.1 with
  | none => exact ⟨nofun, nofun⟩
  | some name => simp

theorem others_iff (key : String) (members : List (Option String × Json)) :
    (∀ member ∈ members, Other key member) ↔
      (∀ member ∈ members, member.1.isSome = true) ∧ members.filter (isNamed key) = [] := by
  rw [List.filter_eq_nil_iff, ← forall₂_and]
  refine forall₂_congr fun member _ => ?_
  rw [isNamed_iff, Option.isSome_iff_exists]
  constructor
  · rintro ⟨name, told, differs⟩
    exact ⟨⟨name, told⟩, fun same => differs (Option.some.inj (told.symm.trans same))⟩
  · rintro ⟨⟨name, told⟩, differs⟩
    exact ⟨name, told, fun same => differs (told.trans (congrArg some same))⟩

theorem memberNamed_sole_iff (key : String) (members : List (Option String × Json))
    (slot : Option Json) :
    memberNamed [key] members = some slot ↔
      (members.filter (isNamed key)).map (·.2) = slot.toList := by
  have filtered : members.filter (fun member => member.1.any [key].contains) =
      members.filter (isNamed key) := rfl
  rw [memberNamed, filtered]
  cases members.filter (isNamed key) with
  | nil => cases slot <;> simp
  | cons first rest => cases rest <;> cases slot <;> simp

theorem slots_object_iff (key : String) (members : List (Option String × Json))
    (slot : Option Json) :
    (object members).slots [[key]] = some [slot] ↔
      (∀ member ∈ members, member.1.isSome = true) ∧
        (members.filter (isNamed key)).map (·.2) = slot.toList := by
  rw [slots, ← memberNamed_sole_iff, ← List.all_eq_true]
  split
  · rename_i named
    simp [named, List.mapM_cons, List.mapM_nil, Option.bind_eq_some_iff]
  · rename_i unnamed
    simp [unnamed]

/-- What a record of one key is read as is what it gives for the key. -/
theorem slots_sole_iff (key : String) (json : Json) (slot : Option Json) :
    json.slots [[key]] = some [slot] ↔ Sole key json slot := by
  constructor
  · intro read
    cases json with
    | object members =>
        obtain ⟨named, found⟩ := (slots_object_iff key members slot).mp read
        cases slot with
        | none =>
            exact .noMember ((others_iff key members).mpr ⟨named, List.map_eq_nil_iff.mp found⟩)
        | some json =>
            obtain ⟨⟨name, _⟩, alone, rfl⟩ := List.map_eq_singleton_iff.mp found
            obtain ⟨before, after, rfl, first, isKey, rest⟩ := List.filter_eq_cons_iff.mp alone
            obtain rfl : name = some key := (isNamed_iff key _).mp isKey
            have differ := List.forall_mem_append.mp named
            refine .member ((others_iff key before).mpr ⟨differ.1, ?_⟩)
              ((others_iff key after).mpr ⟨(List.forall_mem_cons.mp differ.2).2, rest⟩)
            exact List.filter_eq_nil_iff.mpr first
    | array items =>
        match items with
        | [] =>
            cases read
            exact .noItem
        | [item] =>
            cases read
            exact .item item
        | first :: second :: rest => cases read
    | null | bool | integer | real | text => cases read
  · intro sole
    cases sole with
    | @member before after json first later =>
        obtain ⟨namedFirst, noneFirst⟩ := (others_iff key before).mp first
        obtain ⟨namedLater, noneLater⟩ := (others_iff key after).mp later
        have isKey : isNamed key (some key, json) = true := (isNamed_iff key _).mpr rfl
        refine (slots_object_iff key _ _).mpr ⟨?_, ?_⟩
        · exact List.forall_mem_append.mpr ⟨namedFirst, List.forall_mem_cons.mpr ⟨rfl, namedLater⟩⟩
        · rw [List.filter_append, noneFirst, List.filter_cons_of_pos isKey, noneLater]
          rfl
    | @noMember members others =>
        obtain ⟨named, nothing⟩ := (others_iff key members).mp others
        exact (slots_object_iff key _ _).mpr ⟨named, by rw [nothing]; rfl⟩
    | item => rfl
    | noItem => rfl

theorem string_iff (json : Json) (told : String) :
    string? json = some told ↔ json = .text (some told) := by
  cases json with
  | text value => simp [string?]
  | null | bool | integer | real | array | object => simp [string?]

theorem strings_iff (json : Json) (texts : List String) :
    list? string? json = some texts ↔ json = .array (texts.map fun told => .text (some told)) := by
  cases json with
  | array items =>
      rw [list?, array.injEq]
      induction items generalizing texts with
      | nil => cases texts <;> simp
      | cons item items ih =>
          cases texts with
          | nil => simp [List.mapM_cons, Option.bind_eq_some_iff]
          | cons told texts => simp [List.mapM_cons, Option.bind_eq_some_iff, string_iff, ih]
  | null | bool | integer | real | text | object => simp [list?]

end SecretBroker.Json
