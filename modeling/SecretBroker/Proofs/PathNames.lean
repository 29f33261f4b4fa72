import Mathlib.Computability.RegularExpressions
import SecretBroker.Cli.Command
import SecretBroker.Proofs.HeaderText

/-!
Names in request paths. Which of them are valid is said twice besides the check itself: by a
grammar, and by a pattern with a few conditions on the side. The check, the grammar and the pattern
agree on every text. A valid name is of ASCII characters only, so its bytes are as many as its
characters, and it is a good name to look up and a good argument.
-/

namespace SecretBroker

namespace Text

theorem char_le_iff {left right : Char} : left ≤ right ↔ left.toNat ≤ right.toNat :=
  UInt32.le_iff_toNat_le

theorem isEmpty_eq_false_iff (text : String) : text.isEmpty = false ↔ 1 ≤ text.utf8ByteSize := by
  rw [String.isEmpty, beq_eq_false_iff_ne]
  omega

theorem utf8_length (text : String) : (utf8 text).length = text.utf8ByteSize := by
  rw [utf8, bytes_toList]
  rfl

theorem length_le_utf8ByteSize (text : String) : text.length ≤ text.utf8ByteSize := by
  rw [← utf8_length, utf8_chars, ← String.length_toList]
  induction text.toList with
  | nil => exact Nat.le_refl _
  | cons c rest ih =>
      have one : 1 ≤ (String.utf8EncodeChar c).length := by
        rw [String.length_utf8EncodeChar]
        exact c.utf8Size_pos
      simp only [List.length_cons, List.flatMap_cons, List.length_append]
      omega

end Text

namespace PathName

/-- The grammar of names in paths. -/
structure Proper (name : String) : Prop where
  size : 1 ≤ name.utf8ByteSize ∧ name.utf8ByteSize ≤ 255
  inner : ∀ c ∈ name.toList, Text.isAsciiAlphanumeric c = true ∨ c ∈ ['_', '-', '.', '/']
  first : ∃ c, name.toList.head? = some c ∧ Text.isAsciiAlphanumeric c = true
  last : ∃ c, name.toList.getLast? = some c ∧ Text.isAsciiAlphanumeric c = true
  level : ¬ ['.', '.'] <:+: name.toList

theorem isInner_iff (c : Char) :
    isInner c = true ↔ Text.isAsciiAlphanumeric c = true ∨ c ∈ ['_', '-', '.', '/'] := by
  simp [isInner, or_assoc]

theorem hasDotDot_iff (chars : List Char) : hasDotDot chars = true ↔ ['.', '.'] <:+: chars := by
  induction chars using hasDotDot.induct with
  | case1 rest =>
      simp only [hasDotDot, true_iff]
      exact (List.prefix_append ['.', '.'] rest).isInfix
  | case2 c rest apart ih =>
      rw [hasDotDot, ih, List.infix_cons_iff]
      · constructor
        · exact Or.inr
        · rintro (⟨after, begins⟩ | inside)
          · obtain ⟨rfl, rfl⟩ := List.cons.inj begins
            exact absurd rfl (apart _ rfl)
          · exact inside
      · exact apart
  | case3 => simp [hasDotDot]

theorem isValidChars_iff (chars : List Char) : isValidChars chars = true ↔
    (∃ c, chars.head? = some c ∧ Text.isAsciiAlphanumeric c = true) ∧
      (∃ c, chars.getLast? = some c ∧ Text.isAsciiAlphanumeric c = true) ∧
      (∀ c ∈ chars, Text.isAsciiAlphanumeric c = true ∨ c ∈ ['_', '-', '.', '/']) ∧
      ¬ ['.', '.'] <:+: chars := by
  rw [← hasDotDot_iff]
  simp only [isValidChars, Bool.and_eq_true, Option.any_eq_true, List.all_eq_true, isInner_iff,
    Bool.not_eq_true', Bool.not_eq_true, and_assoc]

/-- The check accepts what the grammar has. -/
theorem isValid_iff (name : String) : isValid name = true ↔ Proper name := by
  simp only [isValid, Bool.and_eq_true, Bool.not_eq_true', Text.isEmpty_eq_false_iff,
    decide_eq_true_eq, isValidChars_iff]
  constructor
  · rintro ⟨⟨filled, short⟩, first, last, inner, level⟩
    exact ⟨⟨filled, short⟩, inner, first, last, level⟩
  · rintro ⟨size, inner, first, last, level⟩
    exact ⟨size, first, last, inner, level⟩

/-! The pattern. Its classes are given by spans of characters, as `a-z`. -/

section Pattern

open RegularExpression Computability

/-- The characters from the first to the last, both of them ASCII. -/
def charsBetween (first last : Char) : List Char :=
  (List.range' first.toNat (last.toNat + 1 - first.toNat)).map Char.ofNat

/-- One character out of a class. -/
def oneOf (chars : List Char) : RegularExpression Char :=
  chars.foldr (fun c others => .char c + others) 0

def endClass : List Char :=
  charsBetween 'a' 'z' ++ charsBetween 'A' 'Z' ++ charsBetween '0' '9'

def innerClass : List Char := endClass ++ ['_', '-', '.', '/']

/-- The pattern `[a-zA-Z0-9]([a-zA-Z0-9_\-./]*[a-zA-Z0-9])?`. -/
def pattern : RegularExpression Char :=
  oneOf endClass * (1 + .star (oneOf innerClass) * oneOf endClass)

theorem mem_charsBetween {first last : Char} (ascii : last.toNat < 0x80) (c : Char) :
    c ∈ charsBetween first last ↔ first ≤ c ∧ c ≤ last := by
  simp only [charsBetween, List.mem_map, List.mem_range'_1, Text.char_le_iff]
  constructor
  · rintro ⟨code, ⟨above, below⟩, rfl⟩
    have valid : code.isValidChar := Or.inl (by omega)
    have same : (Char.ofNat code).toNat = code := by
      rw [Char.ofNat, dif_pos valid]
      rfl
    omega
  · rintro ⟨above, below⟩
    exact ⟨c.toNat, ⟨above, by omega⟩, Char.ofNat_toNat c⟩

theorem mem_endClass (c : Char) : c ∈ endClass ↔ Text.isAsciiAlphanumeric c = true := by
  simp only [endClass, List.mem_append, Text.isAsciiAlphanumeric, Text.isAsciiDigit,
    Text.isAsciiLetter, Bool.or_eq_true, Bool.and_eq_true, decide_eq_true_eq]
  rw [mem_charsBetween (by decide), mem_charsBetween (by decide), mem_charsBetween (by decide)]
  exact or_comm

theorem mem_innerClass (c : Char) :
    c ∈ innerClass ↔ Text.isAsciiAlphanumeric c = true ∨ c ∈ ['_', '-', '.', '/'] := by
  rw [innerClass, List.mem_append, mem_endClass]

theorem oneOf_matches (chars text : List Char) :
    text ∈ (oneOf chars).matches' ↔ ∃ c ∈ chars, text = [c] := by
  induction chars with
  | nil =>
      constructor
      · intro matched
        cases matched
      · rintro ⟨c, member, _⟩
        cases member
  | cons first rest ih =>
      change text ∈ (char first + oneOf rest).matches' ↔ _
      rw [matches'_add, Language.mem_add, ih, matches'_char]
      simp only [List.mem_cons, exists_eq_or_imp]
      rfl

/-- Any number of characters out of a class. -/
theorem star_oneOf_matches (chars text : List Char) :
    text ∈ (star (oneOf chars)).matches' ↔ ∀ c ∈ text, c ∈ chars := by
  rw [matches'_star, Language.mem_kstar]
  constructor
  · rintro ⟨parts, rfl, singles⟩ c member
    obtain ⟨part, inside, member⟩ := List.mem_flatten.mp member
    obtain ⟨single, found, rfl⟩ := (oneOf_matches chars part).mp (singles part inside)
    rw [List.mem_singleton.mp member]
    exact found
  · intro found
    refine ⟨text.map fun c => [c], ?_, ?_⟩
    · rw [← List.flatMap_def, List.flatMap_singleton']
    · intro part inside
      obtain ⟨c, member, rfl⟩ := List.mem_map.mp inside
      exact (oneOf_matches chars [c]).mpr ⟨c, found c member, rfl⟩

/-- One character that can stand at an end, or two of them with inner ones between. -/
theorem pattern_matches (chars : List Char) : chars ∈ pattern.matches' ↔
    ∃ first ∈ endClass, chars = [first] ∨ ∃ last ∈ endClass, ∃ between : List Char,
      (∀ c ∈ between, c ∈ innerClass) ∧ chars = first :: between ++ [last] := by
  simp only [pattern, matches'_mul, matches'_add, matches'_epsilon, Language.mem_mul,
    Language.mem_add, Language.mem_one, oneOf_matches, star_oneOf_matches]
  constructor
  · rintro ⟨_, ⟨first, begins, rfl⟩, _, rfl | ⟨between, inner, _, ⟨last, ends, rfl⟩, rfl⟩, rfl⟩
    · exact ⟨first, begins, Or.inl rfl⟩
    · exact ⟨first, begins, Or.inr ⟨last, ends, between, inner, rfl⟩⟩
  · rintro ⟨first, begins, rfl | ⟨last, ends, between, inner, rfl⟩⟩
    · exact ⟨[first], ⟨first, begins, rfl⟩, [], Or.inl rfl, rfl⟩
    · exact ⟨[first], ⟨first, begins, rfl⟩, between ++ [last],
        Or.inr ⟨between, inner, [last], ⟨last, ends, rfl⟩, rfl⟩, rfl⟩

theorem pattern_matches_iff (chars : List Char) : chars ∈ pattern.matches' ↔
    (∃ c, chars.head? = some c ∧ Text.isAsciiAlphanumeric c = true) ∧
      (∃ c, chars.getLast? = some c ∧ Text.isAsciiAlphanumeric c = true) ∧
      ∀ c ∈ chars, Text.isAsciiAlphanumeric c = true ∨ c ∈ ['_', '-', '.', '/'] := by
  simp only [pattern_matches, mem_endClass, mem_innerClass]
  constructor
  · rintro ⟨first, begins, rfl | ⟨last, ends, between, inner, rfl⟩⟩
    · refine ⟨⟨first, rfl, begins⟩, ⟨first, rfl, begins⟩, ?_⟩
      intro c member
      rw [List.mem_singleton.mp member]
      exact Or.inl begins
    · refine ⟨⟨first, rfl, begins⟩, ⟨last, List.getLast?_concat, ends⟩, ?_⟩
      intro c member
      rw [List.mem_append, List.mem_cons, List.mem_singleton] at member
      rcases member with (rfl | inside) | rfl
      · exact Or.inl begins
      · exact inner c inside
      · exact Or.inl ends
  · rintro ⟨⟨first, isFirst, begins⟩, ⟨last, isLast, ends⟩, inner⟩
    obtain ⟨rest, rfl⟩ := List.head?_eq_some_iff.mp isFirst
    refine ⟨first, begins, ?_⟩
    -- The last character is the first one again, or it stands at the end of the rest.
    rcases List.eq_nil_or_concat rest with rfl | ⟨between, final, rfl⟩
    · exact Or.inl rfl
    · rw [List.concat_eq_append] at isLast inner ⊢
      rw [← List.cons_append, List.getLast?_concat] at isLast
      obtain rfl := Option.some.inj isLast
      exact Or.inr ⟨final, ends, between, fun c inside => inner c (by simp [inside]), rfl⟩

end Pattern

/-! Valid names are ASCII. -/

theorem inner_code {c : Char}
    (inner : Text.isAsciiAlphanumeric c = true ∨ c ∈ ['_', '-', '.', '/']) :
    0x2d ≤ c.toNat ∧ c.toNat ≤ 0x7a := by
  rcases inner with alphanumeric | mark
  · simp only [Text.isAsciiAlphanumeric, Text.isAsciiDigit, Text.isAsciiLetter, Bool.or_eq_true,
      Bool.and_eq_true, decide_eq_true_eq, Text.char_le_iff, Char.reduceToNat] at alphanumeric
    omega
  · simp only [List.mem_cons, List.not_mem_nil, or_false] at mark
    rcases mark with rfl | rfl | rfl | rfl <;> decide

/-- The check as a pattern with conditions on the side: the name is not empty and not long, has no
step upwards and no NUL, and all its bytes can be printed. -/
theorem isValid_iff_pattern (name : String) : isValid name = true ↔
    name ≠ "" ∧ name.utf8ByteSize ≤ 255 ∧ ¬ ['.', '.'] <:+: name.toList ∧
      '\x00' ∉ name.toList ∧ (∀ byte ∈ Text.utf8 name, 32 ≤ byte ∧ byte ≤ 126) ∧
      name.toList ∈ pattern.matches' := by
  rw [isValid_iff, pattern_matches_iff]
  constructor
  · rintro ⟨⟨filled, short⟩, inner, first, last, level⟩
    refine ⟨?_, short, level, ?_, ?_, first, last, inner⟩
    · rintro rfl
      exact absurd filled (by decide)
    · intro member
      exact absurd (inner_code (inner _ member)).1 (by decide)
    · intro byte member
      rw [Text.utf8_chars] at member
      obtain ⟨c, inside, member⟩ := List.mem_flatMap.mp member
      obtain ⟨low, high⟩ := inner_code (inner c inside)
      rw [Text.utf8_ascii c (by omega), List.mem_singleton] at member
      subst member
      simp only [UInt8.le_iff_toNat_le, UInt8.toNat_ofNat', UInt8.reduceToNat]
      omega
  · rintro ⟨filled, short, level, _, _, first, last, inner⟩
    refine ⟨⟨?_, short⟩, inner, first, last, level⟩
    by_contra empty
    exact filled (String.utf8ByteSize_eq_zero_iff.mp (by omega))

end PathName

/-! Valid names are good names everywhere. -/

theorem LookupName.fault_eq_none {name : String} : LookupName.fault? name = none ↔
    name.isEmpty = false ∧ name.length ≤ nameLimit ∧
      name.toList.any Text.isControl = false := by
  unfold LookupName.fault?
  constructor
  · intro good
    split at good
    · cases good
    split at good
    · cases good
    split at good
    · cases good
    · rename_i filled short plain
      exact ⟨Bool.eq_false_iff.mpr filled, Nat.le_of_not_lt short, Bool.eq_false_iff.mpr plain⟩
  · rintro ⟨filled, short, plain⟩
    rw [filled, plain, if_neg Bool.false_ne_true, if_neg (Nat.not_lt_of_le short),
      if_neg Bool.false_ne_true]

/-- A name to look up is a good argument unless it looks like a flag. -/
theorem Argument.fault_of_lookupName {name : String} (named : LookupName.fault? name = none)
    (plain : name.toList.head? ≠ some '-') : Argument.fault? name = none := by
  obtain ⟨filled, short, printable⟩ := LookupName.fault_eq_none.mp named
  rw [Argument.fault?, filled, printable, if_neg Bool.false_ne_true,
    if_neg (Nat.not_lt_of_le short), if_neg Bool.false_ne_true, if_neg plain]

namespace PathName

theorem Proper.lookupName {name : String} (proper : Proper name) :
    LookupName.fault? name = none := by
  refine LookupName.fault_eq_none.mpr ⟨?_, ?_, ?_⟩
  · exact (Text.isEmpty_eq_false_iff name).mpr proper.size.1
  · exact Nat.le_trans (Text.length_le_utf8ByteSize name) proper.size.2
  · rw [List.any_eq_false]
    intro c member
    obtain ⟨low, high⟩ := inner_code (proper.inner c member)
    simp only [Text.isControl, Bool.or_eq_true, Bool.and_eq_true, decide_eq_true_eq]
    omega

theorem Proper.argument {name : String} (proper : Proper name) :
    Argument.fault? name = none := by
  apply Argument.fault_of_lookupName proper.lookupName
  obtain ⟨c, isFirst, alphanumeric⟩ := proper.first
  rw [isFirst]
  rintro ⟨⟩
  exact absurd alphanumeric (by decide)

end PathName

namespace Cli

/-- The exact lookup of a good argument is an allowed command, and so is the search for it. -/
theorem Command.getItem_admitted {name : String} (good : Argument.fault? name = none)
    (session : Secret) : (Command.getItem name session).fault? = none := by
  simp [Command.fault?, Command.getItem, Form.allowed, formFault?, slotsFault?, good,
    allowedVariables, sessionVariable]

theorem Command.searchItems_admitted {name : String} (good : Argument.fault? name = none)
    (session : Secret) : (Command.searchItems name session).fault? = none := by
  simp [Command.fault?, Command.searchItems, Form.allowed, formFault?, slotsFault?, good,
    allowedVariables, sessionVariable]

end Cli
end SecretBroker
