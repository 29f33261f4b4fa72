import SecretBroker.Json.Reader

/-!
Texts inside JSON as the standard has them written: characters for themselves, escapes of one
letter, and units of sixteen bits in hexadecimal digits. A unit that is no surrogate stands for its
character, a high and a low surrogate together stand for one character beyond the first 65536, and
other surrogates for none, as do bytes that encode no character. The reader finds the parts that
were written, and no others, and joins them likewise.
-/

namespace SecretBroker.Json

open SecretBroker.Text

/-- A hexadecimal digit of either case. -/
def HexDigit (value : Nat) (c : Char) : Prop :=
  value < 16 ∧ (c = Nat.digitChar value ∨ c = (Nat.digitChar value).toUpper)

inductive HexUnit : Nat → List Char → Prop
  | four {a b c d : Nat} {first second third fourth : Char} : HexDigit a first →
      HexDigit b second → HexDigit c third → HexDigit d fourth →
      HexUnit (((a * 16 + b) * 16 + c) * 16 + d) [first, second, third, fourth]

/-- The letters of escapes and what they stand for. -/
def letterEscapes : List (Char × Char) :=
  [('"', '"'), ('\\', '\\'), ('/', '/'), ('b', '\x08'), ('f', '\x0c'), ('n', '\n'), ('r', '\r'),
    ('t', '\t')]

/-- A character that may stand for itself: no control, no quote and no backslash. -/
def isPlain (c : Char) : Bool := 0x20 ≤ c.toNat && c != '"' && c != '\\'

/-- The parts of a text and how they stand between the quotes. -/
inductive Parts : List Piece → List Symbol → Prop
  | nil : Parts [] []
  | plain {c : Char} {parts : List Piece} {written : List Symbol} : isPlain c = true →
      Parts parts written → Parts (.char c :: parts) (some c :: written)
  | letter {letter c : Char} {parts : List Piece} {written : List Symbol} :
      (letter, c) ∈ letterEscapes → Parts parts written →
      Parts (.char c :: parts) (some '\\' :: some letter :: written)
  | unit {code : Nat} {digits : List Char} {parts : List Piece} {written : List Symbol} :
      HexUnit code digits → Parts parts written →
      Parts (.unit code :: parts) (some '\\' :: some 'u' :: (digits.map some ++ written))
  | broken {parts : List Piece} {written : List Symbol} : Parts parts written →
      Parts (.broken :: parts) (none :: written)

/-- The characters that parts stand for. -/
inductive Decodes : List Piece → List Char → Prop
  | nil : Decodes [] []
  | char {c : Char} {parts : List Piece} {text : List Char} : Decodes parts text →
      Decodes (.char c :: parts) (c :: text)
  | unit {c : Char} {parts : List Piece} {text : List Char} : Decodes parts text →
      Decodes (.unit c.toNat :: parts) (c :: text)
  | pair {c : Char} {parts : List Piece} {text : List Char} : 0x10000 ≤ c.toNat →
      Decodes parts text →
      Decodes (.unit (0xd800 + (c.toNat - 0x10000) / 0x400) ::
        .unit (0xdc00 + (c.toNat - 0x10000) % 0x400) :: parts) (c :: text)

/-- A text with what stands for it between the quotes; `none` where the parts that are written
stand for no characters. -/
def Quoted (value : Option String) (written : List Symbol) : Prop :=
  ∃ parts, Parts parts written ∧
    match value with
    | some value => Decodes parts value.toList
    | none => ∀ text, ¬ Decodes parts text

theorem hexValue_digit {value : Nat} {c : Char} (digit : HexDigit value c) :
    hexValue? c = some value := by
  obtain ⟨below, written⟩ := digit
  have table : ∀ value < 16, hexValue? (Nat.digitChar value) = some value ∧
      hexValue? (Nat.digitChar value).toUpper = some value := by decide
  rcases written with rfl | rfl
  · exact (table value below).1
  · exact (table value below).2

theorem unit_lt {code : Nat} {digits : List Char} (unit : HexUnit code digits) :
    code < 0x10000 := by
  obtain ⟨⟨a, -⟩, ⟨b, -⟩, ⟨c, -⟩, d, -⟩ := unit
  omega

theorem escaped_letter {letter c : Char} (escape : (letter, c) ∈ letterEscapes) :
    escaped? letter = some c ∧ letter ≠ 'u' := by
  have table : ∀ entry ∈ letterEscapes, escaped? entry.1 = some entry.2 ∧ entry.1 ≠ 'u' := by
    decide
  exact table _ escape

theorem pieces_plain {c : Char} (plain : isPlain c = true) (rest : List Symbol) :
    pieces (some c :: rest) =
      (pieces rest).map fun (tail, after) => (.char c :: tail, after) := by
  simp only [isPlain, Bool.and_eq_true, decide_eq_true_eq, bne_iff_ne] at plain
  obtain ⟨⟨visible, unquoted⟩, unescaped⟩ := plain
  have raw : ¬ (decide (c.toNat < 0x20) || decide (c = '\\')) = true := by
    simp only [Bool.or_eq_true, decide_eq_true_eq]
    exact fun refused => refused.elim (Nat.not_lt.mpr visible) unescaped
  rw [pieces, if_neg raw]
  · cases pieces rest <;> rfl
  all_goals simp_all

theorem pieces_letter {letter c : Char} (escape : (letter, c) ∈ letterEscapes)
    (rest : List Symbol) :
    pieces (some '\\' :: some letter :: rest) =
      (pieces rest).map fun (tail, after) => (.char c :: tail, after) := by
  obtain ⟨stands, other⟩ := escaped_letter escape
  rw [pieces, stands]
  · cases pieces rest <;> rfl
  · simp_all

theorem pieces_unit {code : Nat} {digits : List Char} (unit : HexUnit code digits)
    (rest : List Symbol) :
    pieces (some '\\' :: some 'u' :: (digits.map some ++ rest)) =
      (pieces rest).map fun (tail, after) => (.unit code :: tail, after) := by
  obtain ⟨a, b, c, d⟩ := unit
  simp only [List.map_cons, List.map_nil, List.cons_append, List.nil_append, pieces, hex4?,
    hexValue_digit a, hexValue_digit b, hexValue_digit c, hexValue_digit d]
  cases pieces rest <;> rfl

/-- The reader finds the parts as they were written. -/
theorem pieces_parts {parts : List Piece} {written : List Symbol} (wrote : Parts parts written)
    (rest : List Symbol) : pieces (written ++ some '"' :: rest) = some (parts, rest) := by
  induction wrote with
  | nil => rfl
  | plain plain _ ih =>
      rw [List.cons_append, pieces_plain plain, ih]
      rfl
  | letter escape _ ih =>
      rw [List.cons_append, List.cons_append, pieces_letter escape, ih]
      rfl
  | unit unit _ ih =>
      rw [List.cons_append, List.cons_append, List.append_assoc, pieces_unit unit, ih]
      rfl
  | broken _ ih =>
      rw [List.cons_append, pieces, ih]
      rfl

theorem parts_bounded {parts : List Piece} {written : List Symbol} (wrote : Parts parts written) :
    ∀ code, .unit code ∈ parts → code < 0x10000 := by
  induction wrote with
  | nil => exact fun code member => nomatch member
  | plain _ _ ih | letter _ _ ih | broken _ ih =>
      intro code member
      rcases List.mem_cons.mp member with same | later
      · cases same
      · exact ih code later
  | unit unit _ ih =>
      intro code member
      rcases List.mem_cons.mp member with same | later
      · cases same
        exact unit_lt unit
      · exact ih code later

theorem isHighUnit_char (c : Char) : isHighUnit c.toNat = false := by
  have valid : c.toNat.isValidChar := c.valid
  rw [isHighUnit, Bool.and_eq_false_iff, decide_eq_false_iff_not, decide_eq_false_iff_not]
  rcases valid with low | high <;> omega

theorem isLowUnit_char (c : Char) : isLowUnit c.toNat = false := by
  have valid : c.toNat.isValidChar := c.valid
  rw [isLowUnit, Bool.and_eq_false_iff, decide_eq_false_iff_not, decide_eq_false_iff_not]
  rcases valid with low | high <;> omega

theorem toNat_unit {code : Nat} (bounded : code < 0x10000) (notHigh : isHighUnit code = false)
    (notLow : isLowUnit code = false) : (Char.ofNat code).toNat = code := by
  have valid : code.isValidChar := by
    simp only [isHighUnit, isLowUnit, Bool.and_eq_false_iff, decide_eq_false_iff_not] at *
    unfold Nat.isValidChar
    omega
  rw [Char.ofNat, dif_pos valid]
  rfl

theorem surrogate_bounds {high low : Nat} (isHigh : isHighUnit high = true)
    (isLow : isLowUnit low = true) :
    0xd800 ≤ high ∧ high < 0xdc00 ∧ 0xdc00 ≤ low ∧ low < 0xe000 := by
  simp only [isHighUnit, isLowUnit, Bool.and_eq_true, decide_eq_true_eq] at isHigh isLow
  exact ⟨isHigh.1, isHigh.2, isLow.1, isLow.2⟩

theorem toNat_pair {high low : Nat} (isHigh : isHighUnit high = true)
    (isLow : isLowUnit low = true) :
    (Char.ofNat (0x10000 + (high - 0xd800) * 0x400 + (low - 0xdc00))).toNat =
      0x10000 + (high - 0xd800) * 0x400 + (low - 0xdc00) := by
  obtain ⟨_, _, _, _⟩ := surrogate_bounds isHigh isLow
  have valid : (0x10000 + (high - 0xd800) * 0x400 + (low - 0xdc00)).isValidChar := by
    unfold Nat.isValidChar
    omega
  rw [Char.ofNat, dif_pos valid]
  rfl

theorem joinPieces_unit {code : Nat} (notHigh : isHighUnit code = false)
    (notLow : isLowUnit code = false) (rest : List Piece) :
    joinPieces (.unit code :: rest) = (joinPieces rest).map (Char.ofNat code :: ·) := by
  cases rest with
  | nil => simp [joinPieces, notHigh, notLow]
  | cons next rest => cases next <;> simp [joinPieces, notHigh, notLow]

theorem decodes_unit_iff {code : Nat} (notHigh : isHighUnit code = false) (rest : List Piece)
    (text : List Char) :
    Decodes (.unit code :: rest) text ↔
      ∃ c later, c.toNat = code ∧ Decodes rest later ∧ text = c :: later := by
  constructor
  · intro decodes
    cases decodes with
    | unit later => exact ⟨_, _, rfl, later, rfl⟩
    | @pair c _ _ beyond _ =>
        -- The first unit of a pair is a high surrogate.
        have valid : c.toNat.isValidChar := c.valid
        simp only [isHighUnit, Bool.and_eq_false_iff, decide_eq_false_iff_not] at notHigh
        unfold Nat.isValidChar at valid
        omega
  · rintro ⟨c, later, rfl, decodes, rfl⟩
    exact .unit decodes

theorem decodes_pair_iff {high low : Nat} (isHigh : isHighUnit high = true)
    (isLow : isLowUnit low = true) (rest : List Piece) (text : List Char) :
    Decodes (.unit high :: .unit low :: rest) text ↔
      ∃ later, Decodes rest later ∧
        text = Char.ofNat (0x10000 + (high - 0xd800) * 0x400 + (low - 0xdc00)) :: later := by
  obtain ⟨_, _, _, _⟩ := surrogate_bounds isHigh isLow
  have value := toNat_pair isHigh isLow
  generalize Char.ofNat _ = joined at value ⊢
  constructor
  · intro decodes
    generalize written : Piece.unit high :: .unit low :: rest = parts at decodes
    cases decodes with
    | nil => cases written
    | char later => cases written
    | @unit c =>
        cases written
        exact absurd isHigh (by simp [isHighUnit_char c])
    | @pair c _ later beyond decodes =>
        simp only [List.cons.injEq, Piece.unit.injEq] at written
        obtain ⟨first, second, rfl⟩ := written
        have same : joined = c := Char.toNat_inj.mp (by omega)
        exact ⟨later, decodes, by rw [same]⟩
  · rintro ⟨later, decodes, rfl⟩
    have first : high = 0xd800 + (joined.toNat - 0x10000) / 0x400 := by omega
    have second : low = 0xdc00 + (joined.toNat - 0x10000) % 0x400 := by omega
    rw [first, second]
    exact .pair (by omega) decodes

theorem stray_high {high : Nat} {rest : List Piece} {text : List Char}
    (isHigh : isHighUnit high = true)
    (stray : ∀ low later, rest = .unit low :: later → isLowUnit low = false) :
    ¬ Decodes (.unit high :: rest) text := by
  intro decodes
  cases decodes with
  | @unit c => exact absurd isHigh (by simp [isHighUnit_char c])
  | @pair c =>
      have low := stray _ _ rfl
      simp only [isLowUnit, Bool.and_eq_false_iff, decide_eq_false_iff_not] at low
      omega

theorem stray_low {low : Nat} {rest : List Piece} {text : List Char}
    (isLow : isLowUnit low = true) (notHigh : isHighUnit low = false) :
    ¬ Decodes (.unit low :: rest) text := by
  rw [decodes_unit_iff notHigh]
  rintro ⟨c, later, rfl, -, -⟩
  cases (isLowUnit_char c).symm.trans isLow

theorem joinPieces_unit_iff {code : Nat} {rest : List Piece} (small : code < 0x10000)
    (notHigh : isHighUnit code = false) (notLow : isLowUnit code = false)
    (later : ∀ text, joinPieces rest = some text ↔ Decodes rest text) (text : List Char) :
    joinPieces (.unit code :: rest) = some text ↔ Decodes (.unit code :: rest) text := by
  rw [joinPieces_unit notHigh notLow, decodes_unit_iff notHigh, Option.map_eq_some_iff]
  constructor
  · rintro ⟨tail, joined, rfl⟩
    exact ⟨_, tail, toNat_unit small notHigh notLow, (later tail).mp joined, rfl⟩
  · rintro ⟨c, tail, rfl, decodes, rfl⟩
    exact ⟨tail, (later tail).mpr decodes, congrArg (· :: tail) (Char.ofNat_toNat c)⟩

/-- Joining parts gives the characters that they stand for, if there are such. -/
theorem joinPieces_iff (parts : List Piece) (bounded : ∀ code, .unit code ∈ parts → code < 0x10000)
    (text : List Char) : joinPieces parts = some text ↔ Decodes parts text := by
  induction parts using joinPieces.induct generalizing text with
  | case1 =>
      constructor
      · rintro ⟨⟩
        exact .nil
      · rintro ⟨⟩
        rfl
  | case2 c rest ih =>
      have later := ih fun code member => bounded code (List.mem_cons_of_mem _ member)
      rw [joinPieces, Option.map_eq_some_iff]
      constructor
      · rintro ⟨tail, joined, rfl⟩
        exact .char ((later tail).mp joined)
      · rintro ⟨⟩
        exact ⟨_, (later _).mpr ‹_›, rfl⟩
  | case3 high low rest isHigh isLow ih =>
      have later := ih fun code member =>
        bounded code (List.mem_cons_of_mem _ (List.mem_cons_of_mem _ member))
      rw [joinPieces, if_pos isHigh, if_pos isLow, decodes_pair_iff isHigh isLow,
        Option.map_eq_some_iff]
      constructor
      · rintro ⟨tail, joined, rfl⟩
        exact ⟨tail, (later tail).mp joined, rfl⟩
      · rintro ⟨tail, decodes, rfl⟩
        exact ⟨tail, (later tail).mpr decodes, rfl⟩
  | case4 high low rest isHigh notLow =>
      rw [joinPieces, if_pos isHigh, if_neg notLow]
      refine iff_of_false nofun (stray_high isHigh ?_)
      rintro _ _ ⟨⟩
      exact Bool.eq_false_iff.mpr notLow
  | case5 low next rest notHigh isLow =>
      rw [joinPieces, if_neg notHigh, if_pos isLow]
      exact iff_of_false nofun (stray_low isLow (Bool.eq_false_iff.mpr notHigh))
  | case6 code low rest notHigh notLow ih =>
      -- The second unit has only been looked at; it begins what is joined next.
      exact joinPieces_unit_iff (bounded code List.mem_cons_self) (Bool.eq_false_iff.mpr notHigh)
        (Bool.eq_false_iff.mpr notLow)
        (ih fun code member => bounded code (List.mem_cons_of_mem _ member)) text
  | case7 code rest alone surrogate =>
      have none : joinPieces (.unit code :: rest) = none := by
        rw [joinPieces, if_pos surrogate]
        exact alone
      rw [none]
      refine iff_of_false nofun ?_
      cases isHigh : isHighUnit code with
      | true => exact stray_high isHigh fun low later same => (alone low later same).elim
      | false =>
          rw [isHigh, Bool.false_or] at surrogate
          exact stray_low surrogate isHigh
  | case8 code rest alone ordinary ih =>
      rw [Bool.not_eq_true, Bool.or_eq_false_iff] at ordinary
      exact joinPieces_unit_iff (bounded code List.mem_cons_self) ordinary.1 ordinary.2
        (ih fun code member => bounded code (List.mem_cons_of_mem _ member)) text
  | case9 rest => exact iff_of_false nofun nofun

/-- What parts are read as is the text that they stand for, and is none if they stand for none. -/
theorem textOf_iff {parts : List Piece} (bounded : ∀ code, .unit code ∈ parts → code < 0x10000)
    (value : Option String) :
    textOf parts = value ↔
      match value with
      | some value => Decodes parts value.toList
      | none => ∀ text, ¬ Decodes parts text := by
  have joins := joinPieces_iff parts bounded
  cases value with
  | some text =>
      simp only [textOf, Option.map_eq_some_iff, joins]
      constructor
      · rintro ⟨found, decodes, rfl⟩
        rwa [String.toList_ofList]
      · exact fun decodes => ⟨text.toList, decodes, String.ofList_toList⟩
  | none =>
      rw [textOf, Option.map_eq_none_iff, Option.eq_none_iff_forall_ne_some]
      exact forall_congr' fun text => not_congr (joins text)

/-- What stands between quotes is read as the text that it stands for. -/
theorem quoted_read {value : Option String} {written : List Symbol} (quoted : Quoted value written)
    (rest : List Symbol) :
    ∃ found, pieces (written ++ some '"' :: rest) = some (found, rest) ∧ textOf found = value := by
  obtain ⟨parts, wrote, stands⟩ := quoted
  exact ⟨parts, pieces_parts wrote rest, (textOf_iff (parts_bounded wrote) value).mpr stands⟩

/-- A text of plain characters may stand for itself. -/
theorem quoted_plain (value : String) (plain : value.toList.all isPlain = true) :
    Quoted (some value) (value.toList.map some) := by
  refine ⟨value.toList.map .char, ?_, ?_⟩
  · generalize value.toList = text at plain
    induction text with
    | nil => exact .nil
    | cons c text ih =>
        obtain ⟨first, later⟩ := Bool.and_eq_true_iff.mp plain
        exact .plain first (ih later)
  · show Decodes (value.toList.map .char) value.toList
    induction value.toList with
    | nil => exact .nil
    | cons c text ih => exact .char ih

/-! The reader takes nothing for a text that is not written like one. -/

theorem hexValue_bounds {c : Char} {value : Nat} (found : hexValue? c = some value) :
    c.toNat < 128 ∧ value < 16 := by
  change c.val.toNat < 128 ∧ value < 16
  simp only [hexValue?, isAsciiDigit, Char.le_def, UInt32.le_iff_toNat_le, Bool.and_eq_true,
    decide_eq_true_eq, Char.reduceVal, UInt32.reduceToNat, Char.reduceToNat] at found
  change (if _ then some (c.val.toNat - 48) else if _ then some (c.val.toNat - 97 + 10)
    else if _ then some (c.val.toNat - 65 + 10) else none) = some value at found
  repeat' split at found
  all_goals
    cases found
    try omega

theorem digit_of_hexValue {c : Char} {value : Nat} (found : hexValue? c = some value) :
    HexDigit value c := by
  have table : ∀ code < 128, ∀ value < 16, hexValue? (Char.ofNat code) = some value →
      Char.ofNat code = Nat.digitChar value ∨
        Char.ofNat code = (Nat.digitChar value).toUpper := by decide +kernel
  obtain ⟨ascii, small⟩ := hexValue_bounds found
  have same := table c.toNat ascii value small
  rw [Char.ofNat_toNat] at same
  exact ⟨small, same found⟩

theorem escape_of_letter {letter c : Char} (stands : escaped? letter = some c) :
    (letter, c) ∈ letterEscapes := by
  unfold escaped? at stands
  split at stands <;> cases stands <;> decide

theorem unit_of_hex {a b c d : Symbol} {code : Nat} (found : hex4? a b c d = some code) :
    ∃ digits : List Char, HexUnit code digits ∧ [a, b, c, d] = digits.map some := by
  unfold hex4? at found
  split at found
  · rename_i first second third fourth
    simp only [Option.bind_eq_bind, Option.bind_eq_some_iff, Option.some.injEq] at found
    obtain ⟨_, one, _, two, _, three, _, four, rfl⟩ := found
    exact ⟨[first, second, third, fourth], .four (digit_of_hexValue one) (digit_of_hexValue two)
      (digit_of_hexValue three) (digit_of_hexValue four), rfl⟩
  · cases found

/-- The parts that are found were written, up to a quote. -/
theorem parts_of_pieces {input rest : List Symbol} {found : List Piece}
    (read : pieces input = some (found, rest)) :
    ∃ written, Parts found written ∧ input = written ++ some '"' :: rest := by
  induction input using pieces.induct generalizing found with
  | case1 later =>
      cases read
      exact ⟨[], .nil, rfl⟩
  | case2 a b c d later ih =>
      rw [pieces] at read
      simp only [Option.bind_eq_bind, Option.bind_eq_some_iff, Option.some.injEq] at read
      obtain ⟨code, hex, ⟨tail, after⟩, inner, same⟩ := read
      cases same
      obtain ⟨written, wrote, rfl⟩ := ih inner
      obtain ⟨digits, unit, same⟩ := unit_of_hex hex
      refine ⟨some '\\' :: some 'u' :: (digits.map some ++ written), .unit unit wrote, ?_⟩
      rw [← same]
      rfl
  | case3 letter later other ih =>
      simp only [pieces.eq_3 letter later other, Option.bind_eq_bind, Option.bind_eq_some_iff,
        Option.some.injEq] at read
      obtain ⟨c, stands, ⟨tail, after⟩, inner, same⟩ := read
      cases same
      obtain ⟨written, wrote, rfl⟩ := ih inner
      exact ⟨_, .letter (escape_of_letter stands) wrote, rfl⟩
  | case4 c later unquoted noUnit noEscape raw =>
      rw [pieces.eq_4 c later unquoted noUnit noEscape, if_pos raw] at read
      cases read
  | case5 c later unquoted noUnit noEscape raw ih =>
      rw [pieces.eq_4 c later unquoted noUnit noEscape, if_neg raw] at read
      simp only [Option.bind_eq_bind, Option.bind_eq_some_iff, Option.some.injEq] at read
      obtain ⟨⟨tail, after⟩, inner, same⟩ := read
      cases same
      obtain ⟨written, wrote, rfl⟩ := ih inner
      simp only [Bool.or_eq_true, decide_eq_true_eq, not_or, Nat.not_lt] at raw
      have plain : isPlain c = true := by
        simp only [isPlain, Bool.and_eq_true, decide_eq_true_eq, bne_iff_ne]
        exact ⟨⟨raw.1, unquoted⟩, raw.2⟩
      exact ⟨_, .plain plain wrote, rfl⟩
  | case6 later ih =>
      rw [pieces] at read
      simp only [Option.bind_eq_bind, Option.bind_eq_some_iff, Option.some.injEq] at read
      obtain ⟨⟨tail, after⟩, inner, same⟩ := read
      cases same
      obtain ⟨written, wrote, rfl⟩ := ih inner
      exact ⟨_, .broken wrote, rfl⟩
  | case7 => cases read

/-- What is read as a text stands between quotes as the standard has it. -/
theorem quoted_of_pieces {input rest : List Symbol} {found : List Piece}
    (read : pieces input = some (found, rest)) :
    ∃ written, Quoted (textOf found) written ∧ input = written ++ some '"' :: rest := by
  obtain ⟨written, wrote, rfl⟩ := parts_of_pieces read
  exact ⟨written, ⟨found, wrote, (textOf_iff (parts_bounded wrote) _).mp rfl⟩, rfl⟩

end SecretBroker.Json
