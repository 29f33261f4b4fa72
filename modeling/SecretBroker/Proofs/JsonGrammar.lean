import Mathlib.Order.Nat
import SecretBroker.Proofs.JsonTexts

/-!
The grammar of JSON, and that the reader accepts all of it. Every text that the grammar derives for
a value is read as that value, whatever blanks stand in it and however its texts are escaped. The
steps that the reader is allowed are enough for any depth: a text needs no more of them than it has
characters. The grammar is one of symbols, since bytes that encode no character may stand inside a
text.
-/

namespace SecretBroker.Json

open SecretBroker.Text

def Blanks (gap : List Symbol) : Prop := ∀ s ∈ gap, s ∈ [some ' ', some '\n', some '\t', some '\r']

def Digits (text : List Char) : Prop := text ≠ [] ∧ text.all isAsciiDigit = true

inductive Fraction : List Char → Prop
  | absent : Fraction []
  | point {digits : List Char} : Digits digits → Fraction ('.' :: digits)

inductive Exponent : List Char → Prop
  | absent : Exponent []
  | power {mark : Char} {sign digits : List Char} : mark ∈ ['e', 'E'] → sign ∈ [[], ['+'], ['-']] →
      Digits digits → Exponent (mark :: (sign ++ digits))

/-- The sign, the decimal digits before the point, and what may follow them. -/
def numeral (negative : Bool) (whole : Nat) (fraction exponent : List Char) : List Char :=
  (if negative then ['-'] else []) ++ (Nat.toDigits 10 whole ++ (fraction ++ exponent))

/-- A syntactic form of the grammar with what it stands for: a value, a value between blanks, the
items of an array, a member of an object, or its members. -/
inductive Phrase
  | value (json : Json)
  | item (json : Json)
  | items (found : List Json)
  | member (key : Option String) (json : Json)
  | members (found : List (Option String × Json))

/-- The writings of a phrase. A fraction, an exponent and the minus sign of zero make a number that
is no integer. -/
inductive Derives : Phrase → List Symbol → Prop
  | null : Derives (.value .null) [some 'n', some 'u', some 'l', some 'l']
  | truth : Derives (.value (.bool true)) [some 't', some 'r', some 'u', some 'e']
  | falsity : Derives (.value (.bool false)) [some 'f', some 'a', some 'l', some 's', some 'e']
  | integer (number : Int) :
      Derives (.value (.integer number)) ((numeral (number < 0) number.natAbs [] []).map some)
  | real {negative : Bool} {whole : Nat} {fraction exponent : List Char} : Fraction fraction →
      Exponent exponent → fraction ≠ [] ∨ exponent ≠ [] ∨ negative = true ∧ whole = 0 →
      Derives (.value .real) ((numeral negative whole fraction exponent).map some)
  | text {value : Option String} {written : List Symbol} : Quoted value written →
      Derives (.value (.text value)) (some '"' :: (written ++ [some '"']))
  | emptyArray {gap : List Symbol} : Blanks gap →
      Derives (.value (.array [])) (some '[' :: (gap ++ [some ']']))
  | array {found : List Json} {written : List Symbol} : Derives (.items found) written →
      Derives (.value (.array found)) (some '[' :: (written ++ [some ']']))
  | emptyObject {gap : List Symbol} : Blanks gap →
      Derives (.value (.object [])) (some '{' :: (gap ++ [some '}']))
  | object {found : List (Option String × Json)} {written : List Symbol} :
      Derives (.members found) written →
      Derives (.value (.object found)) (some '{' :: (written ++ [some '}']))
  | item {json : Json} {before written after : List Symbol} : Blanks before →
      Derives (.value json) written → Blanks after →
      Derives (.item json) (before ++ (written ++ after))
  | oneItem {json : Json} {written : List Symbol} : Derives (.item json) written →
      Derives (.items [json]) written
  | moreItems {json : Json} {found : List Json} {written later : List Symbol} :
      Derives (.item json) written → Derives (.items found) later →
      Derives (.items (json :: found)) (written ++ some ',' :: later)
  | member {key : Option String} {json : Json} {before name between written : List Symbol} :
      Blanks before → Quoted key name → Blanks between → Derives (.item json) written →
      Derives (.member key json)
        (before ++ some '"' :: (name ++ some '"' :: (between ++ some ':' :: written)))
  | oneMember {key : Option String} {json : Json} {written : List Symbol} :
      Derives (.member key json) written → Derives (.members [(key, json)]) written
  | moreMembers {key : Option String} {json : Json} {found : List (Option String × Json)}
      {written later : List Symbol} : Derives (.member key json) written →
      Derives (.members found) later →
      Derives (.members ((key, json) :: found)) (written ++ some ',' :: later)

/-- The writings that are texts. -/
def Writes (phrase : Phrase) (text : List Char) : Prop := Derives phrase (text.map some)

theorem Derives.unspaced {json : Json} {written : List Symbol}
    (derived : Derives (.value json) written) : Derives (.item json) written := by
  have spaced : Derives (.item json) ([] ++ (written ++ [])) := .item nofun derived nofun
  rwa [List.nil_append, List.append_nil] at spaced

/-- An object of one member without blanks. -/
theorem Derives.single {name : String} {json : Json} {written : List Symbol}
    (plain : name.toList.all isPlain = true) (derived : Derives (.value json) written) :
    Derives (.item (.object [(some name, json)])) (some '{' :: (some '"' :: (name.toList.map some ++
      some '"' :: some ':' :: written) ++ [some '}'])) := by
  have member : Derives (.member (some name) json)
      ([] ++ some '"' :: (name.toList.map some ++ some '"' :: ([] ++ some ':' :: written))) :=
    .member nofun (quoted_plain name plain) nofun derived.unspaced
  exact (Derives.object (.oneMember member)).unspaced

/-! Blanks -/

theorem isSpace_iff (s : Symbol) :
    isSpace s = true ↔ s ∈ [some ' ', some '\n', some '\t', some '\r'] := by
  simp only [isSpace, Bool.or_eq_true, beq_iff_eq, List.mem_cons, List.not_mem_nil, or_false,
    or_assoc]

theorem skipSpace_blanks {gap : List Symbol} (blanks : Blanks gap) (rest : List Symbol) :
    skipSpace (gap ++ rest) = skipSpace rest := by
  induction gap with
  | nil => rfl
  | cons s gap ih =>
      have blank : isSpace s = true := (isSpace_iff s).mpr (blanks s List.mem_cons_self)
      rw [List.cons_append, skipSpace, List.dropWhile_cons_of_pos blank]
      exact ih fun other later => blanks other (List.mem_cons_of_mem s later)

theorem skipSpace_skipSpace (input : List Symbol) :
    skipSpace (skipSpace input) = skipSpace input := by
  induction input with
  | nil => rfl
  | cons symbol rest ih =>
      by_cases blank : isSpace symbol = true
      · rw [skipSpace, skipSpace, List.dropWhile_cons_of_pos blank]
        exact ih
      · rw [skipSpace, skipSpace, List.dropWhile_cons_of_neg blank,
          List.dropWhile_cons_of_neg blank]

theorem value_skipSpace (fuel : Nat) (input : List Symbol) :
    value fuel (skipSpace input) = value fuel input := by
  cases fuel with
  | zero => rfl
  | succ fuel => rw [value, value, skipSpace_skipSpace]

theorem items_skipSpace (fuel : Nat) (input : List Symbol) :
    items fuel (skipSpace input) = items fuel input := by
  cases fuel with
  | zero => rfl
  | succ fuel => rw [items, items, value_skipSpace]

theorem members_skipSpace (fuel : Nat) (input : List Symbol) :
    members fuel (skipSpace input) = members fuel input := by
  cases fuel with
  | zero => rfl
  | succ fuel => rw [members, members, skipSpace_skipSpace]

/-! Numbers -/

/-- No digit stands at the front. -/
def Undigited (rest : List Symbol) : Prop :=
  ∀ c later, rest = some c :: later → isAsciiDigit c = false

/-- Nothing stands at the front that a number could go on with. -/
def Settled (rest : List Symbol) : Prop :=
  Undigited rest ∧ ∀ c later, rest = some c :: later → c ∉ ['.', 'e', 'E']

theorem takeDigits_digits {digits : List Char} (numeric : digits.all isAsciiDigit = true)
    {rest : List Symbol} (ends : Undigited rest) :
    takeDigits (digits.map some ++ rest) = (digits, rest) := by
  induction digits with
  | nil =>
      unfold takeDigits
      split
      · rename_i c later same
        rw [if_neg (by simp [ends c later same])]
        exact congrArg (Prod.mk []) same.symm
      · rfl
  | cons c digits ih =>
      obtain ⟨first, later⟩ := Bool.and_eq_true_iff.mp numeric
      rw [List.map_cons, List.cons_append, takeDigits, if_pos first, ih later]

theorem fraction_read {fraction : List Char} (fractional : Fraction fraction) {rest : List Symbol}
    (ends : Undigited rest) (unpointed : ∀ later, rest ≠ some '.' :: later) :
    fraction? (fraction.map some ++ rest) = some (!fraction.isEmpty, rest) := by
  cases fractional with
  | absent =>
      unfold fraction?
      split
      · rename_i later same
        exact (unpointed later same).elim
      · rfl
  | @point digits numeric =>
      have taken := takeDigits_digits numeric.2 ends
      cases digits with
      | nil => exact (numeric.1 rfl).elim
      | cons c digits =>
          rw [List.map_cons, List.cons_append, fraction?, taken]
          rfl

theorem dropSign_sign {sign digits : List Char} (signed : sign ∈ [[], ['+'], ['-']])
    (numeric : Digits digits) (rest : List Symbol) :
    dropSign ((sign ++ digits).map some ++ rest) = digits.map some ++ rest := by
  cases digits with
  | nil => exact (numeric.1 rfl).elim
  | cons c digits =>
      have digit := List.all_eq_true.mp numeric.2 c List.mem_cons_self
      simp only [List.mem_cons, List.not_mem_nil, or_false] at signed
      rcases signed with rfl | rfl | rfl
      · rw [List.nil_append, List.map_cons, List.cons_append]
        unfold dropSign
        split
        · rename_i same
          cases same
          cases digit
        · rename_i same
          cases same
          cases digit
        · rfl
      · rfl
      · rfl

theorem exponent_read {exponent : List Char} (raised : Exponent exponent) {rest : List Symbol}
    (ends : Settled rest) :
    exponent? (exponent.map some ++ rest) = some (!exponent.isEmpty, rest) := by
  cases raised with
  | absent =>
      unfold exponent?
      split
      · exact (ends.2 _ _ ‹_› (by decide)).elim
      · exact (ends.2 _ _ ‹_› (by decide)).elim
      · rfl
  | @power mark sign digits marked signed numeric =>
      have taken := takeDigits_digits numeric.2 ends.1
      have dropped := dropSign_sign signed numeric rest
      cases digits with
      | nil => exact (numeric.1 rfl).elim
      | cons c digits =>
          simp only [List.mem_cons, List.not_mem_nil, or_false] at marked
          rcases marked with rfl | rfl
          · rw [List.map_cons, List.cons_append, exponent?, dropped, taken]
            rfl
          · rw [List.map_cons, List.cons_append, exponent?, dropped, taken]
            rfl

theorem Fraction.undigited {fraction : List Char} (fractional : Fraction fraction)
    {rest : List Symbol} (ends : Undigited rest) : Undigited (fraction.map some ++ rest) := by
  cases fractional with
  | absent => exact ends
  | point => rintro _ _ ⟨⟩; rfl

theorem Exponent.undigited {exponent : List Char} (raised : Exponent exponent)
    {rest : List Symbol} (ends : Undigited rest) : Undigited (exponent.map some ++ rest) := by
  cases raised with
  | absent => exact ends
  | @power mark _ _ marked =>
      rintro _ _ ⟨⟩
      have table : ['e', 'E'].all (isAsciiDigit · == false) = true := by decide
      exact beq_iff_eq.mp (List.all_eq_true.mp table mark marked)

theorem Exponent.unpointed {exponent : List Char} (raised : Exponent exponent)
    {rest : List Symbol} (ends : Settled rest) (later : List Symbol) :
    exponent.map some ++ rest ≠ some '.' :: later := by
  intro pointed
  cases raised with
  | absent => exact ends.2 _ _ pointed (by decide)
  | power marked =>
      cases pointed
      exact absurd marked (by decide)

theorem natOf_toDigits (number : Nat) : natOf (Nat.toDigits 10 number) = number := by
  have folded :
      natOf (Nat.toDigits 10 number) = Nat.ofDigitChars 10 (Nat.toDigits 10 number) 0 := by
    simp only [natOf, Nat.ofDigitChars_eq_foldl, Nat.mul_comm]
  exact folded.trans Nat.ofDigitChars_ten_toDigits

/-- Only zero begins with a zero. -/
theorem toDigits_leading_zero (number : Nat) {tail : List Char}
    (written : Nat.toDigits 10 number = '0' :: tail) : tail = [] := by
  induction number using Nat.strongRecOn generalizing tail with
  | ind number ih =>
      by_cases single : number < 10
      · rw [Nat.toDigits_of_lt_base single] at written
        exact (List.cons.inj written).2.symm
      · have whole : 10 ≤ number := Nat.le_of_not_lt single
        rw [Nat.toDigits_of_base_le (by decide) whole] at written
        cases front : Nat.toDigits 10 (number / 10) with
        | nil => exact (Nat.toDigits_ne_nil front).elim
        | cons c digits =>
            rw [front] at written
            obtain ⟨rfl, -⟩ := List.cons.inj written
            -- The front would be a single zero, and the number below ten.
            obtain rfl := ih (number / 10) (by omega) front
            have value := natOf_toDigits (number / 10)
            rw [front] at value
            have zero : number / 10 = 0 := value.symm
            omega

theorem number_read (negative : Bool) (whole : Nat) {fraction exponent : List Char}
    (fractional : Fraction fraction) (raised : Exponent exponent) {rest : List Symbol}
    (ends : Settled rest) :
    number negative ((Nat.toDigits 10 whole ++ (fraction ++ exponent)).map some ++ rest) =
      if !fraction.isEmpty || !exponent.isEmpty || (negative && whole = 0) then some (.real, rest)
      else some (.integer (if negative then -(whole : Int) else whole), rest) := by
  have after := raised.undigited ends.1
  have numeric : (Nat.toDigits 10 whole).all isAsciiDigit = true :=
    List.all_eq_true.mpr fun _ => isAsciiDigit_of_mem_toDigits
  have taken := takeDigits_digits numeric (fractional.undigited after)
  have pointed := fraction_read fractional after (raised.unpointed ends)
  rw [List.map_append, List.map_append, List.append_assoc, List.append_assoc]
  unfold number
  rw [taken]
  split
  · rename_i none
    exact (Nat.toDigits_ne_nil (congrArg Prod.fst none)).elim
  · rename_i zero
    cases toDigits_leading_zero whole (congrArg Prod.fst zero)
  · rename_i same
    obtain ⟨rfl, rfl⟩ := Prod.mk.inj same
    simp only [pointed, exponent_read raised ends, Option.bind_eq_bind, Option.bind_some,
      natOf_toDigits]

theorem value_digit {c : Char} (digit : isAsciiDigit c = true) (fuel : Nat)
    (rest : List Symbol) : value (fuel + 1) (some c :: rest) = number false (some c :: rest) := by
  have unspaced : skipSpace (some c :: rest) = some c :: rest := by
    refine List.dropWhile_cons_of_neg ?_
    intro blank
    simp only [isSpace, Bool.or_eq_true, beq_iff_eq, Option.some.injEq] at blank
    rcases blank with ((rfl | rfl) | rfl) | rfl <;> cases digit
  rw [value, unspaced]
  split <;> first
    | rfl
    | (rename_i same; cases same; cases digit)

/-- A number is read wherever nothing follows that it could go on with. -/
theorem value_numeral (negative : Bool) (whole : Nat) {fraction exponent : List Char}
    (fractional : Fraction fraction) (raised : Exponent exponent) {rest : List Symbol}
    (ends : Settled rest) (fuel : Nat) :
    value (fuel + 1) ((numeral negative whole fraction exponent).map some ++ rest) =
      if !fraction.isEmpty || !exponent.isEmpty || (negative && whole = 0) then some (.real, rest)
      else some (.integer (if negative then -(whole : Int) else whole), rest) := by
  rw [← number_read negative whole fractional raised ends]
  cases negative with
  | true => rfl
  | false =>
      cases digits : Nat.toDigits 10 whole with
      | nil => exact (Nat.toDigits_ne_nil digits).elim
      | cons c tail =>
          have member : c ∈ Nat.toDigits 10 whole := digits ▸ List.mem_cons_self
          rw [numeral, digits]
          exact value_digit (isAsciiDigit_of_mem_toDigits member) fuel _

/-! Values -/

/-- The end of the input, or a mark that follows a value in an array or an object. -/
def Closed (rest : List Symbol) : Prop :=
  rest = [] ∨ ∃ c ∈ [',', ']', '}'], ∃ later, rest = some c :: later

theorem Closed.skipSpace {rest : List Symbol} (closed : Closed rest) : skipSpace rest = rest := by
  rcases closed with rfl | ⟨c, mark, later, rfl⟩
  · rfl
  · have table : [',', ']', '}'].all (fun c => isSpace (some c) == false) = true := by decide
    have unspaced := beq_iff_eq.mp (List.all_eq_true.mp table c mark)
    exact List.dropWhile_cons_of_neg (Bool.eq_false_iff.mp unspaced)

theorem Closed.settled {rest : List Symbol} (closed : Closed rest) {after : List Symbol}
    (blanks : Blanks after) : Settled (after ++ rest) := by
  have table : [' ', '\n', '\t', '\r', ',', ']', '}'].all
      (fun c => isAsciiDigit c == false && ['.', 'e', 'E'].contains c == false) = true := by decide
  have front : ∀ c later, after ++ rest = some c :: later →
      c ∈ [' ', '\n', '\t', '\r', ',', ']', '}'] := by
    intro c later same
    cases after with
    | nil =>
        rcases closed with rfl | ⟨d, mark, tail, rfl⟩
        · cases same
        · cases same
          exact List.mem_append_right [' ', '\n', '\t', '\r'] mark
    | cons s after =>
        cases same
        have blank : some c ∈ [' ', '\n', '\t', '\r'].map some := blanks _ List.mem_cons_self
        obtain ⟨_, listed, ⟨⟩⟩ := List.mem_map.mp blank
        exact List.mem_append_left [',', ']', '}'] listed
  have ends (c : Char) (later : List Symbol) (same : after ++ rest = some c :: later) :
      isAsciiDigit c = false ∧ c ∉ ['.', 'e', 'E'] := by
    have told := List.all_eq_true.mp table c (front c later same)
    simpa only [Bool.and_eq_true, beq_iff_eq, List.contains_eq_mem, decide_eq_false_iff_not]
      using told
  exact ⟨fun c later same => (ends c later same).1, fun c later same => (ends c later same).2⟩

theorem items_close (fuel : Nat) (rest : List Symbol) : items fuel (some ']' :: rest) = none := by
  cases fuel with
  | zero => rfl
  | succ fuel =>
      have refused : value fuel (some ']' :: rest) = none := by
        cases fuel <;> rfl
      rw [items, refused]

theorem value_quote {fuel : Nat} {input rest : List Symbol} {found : List Piece}
    (read : pieces input = some (found, rest)) :
    value (fuel + 1) (some '"' :: input) = some (.text (textOf found), rest) := by
  show (pieces input).map _ = _
  rw [read]
  rfl

theorem value_bracket (fuel : Nat) (input : List Symbol) :
    value (fuel + 1) (some '[' :: input) =
      match skipSpace input with
      | some ']' :: rest => some (.array [], rest)
      | rest => (items fuel rest).map fun (found, rest) => (.array found, rest) := rfl

theorem value_brace (fuel : Nat) (input : List Symbol) :
    value (fuel + 1) (some '{' :: input) =
      match skipSpace input with
      | some '}' :: rest => some (.object [], rest)
      | rest => (members fuel rest).map fun (found, rest) => (.object found, rest) := rfl

theorem value_array {fuel : Nat} {input rest : List Symbol} {found : List Json}
    (read : items fuel input = some (found, rest)) :
    value (fuel + 1) (some '[' :: input) = some (.array found, rest) := by
  rw [← items_skipSpace] at read
  rw [value_bracket]
  split
  · -- Had a bracket closed the array at once, there would be no items to read.
    rename_i same
    rw [same, items_close] at read
    cases read
  · rw [read]
    rfl

theorem value_object {fuel : Nat} {input rest : List Symbol}
    {found : List (Option String × Json)} (read : members fuel input = some (found, rest)) :
    value (fuel + 1) (some '{' :: input) = some (.object found, rest) := by
  rw [← members_skipSpace] at read
  rw [value_brace]
  split
  · rename_i same
    rw [same] at read
    cases fuel <;> cases read
  · rw [read]
    rfl

theorem items_last {fuel : Nat} {input left rest : List Symbol} {json : Json}
    (first : value fuel input = some (json, left)) (closes : skipSpace left = some ']' :: rest) :
    items (fuel + 1) input = some ([json], rest) := by
  simp only [items, first, closes]

theorem items_next {fuel : Nat} {input left rest behind : List Symbol} {json : Json}
    {found : List Json} (first : value fuel input = some (json, left))
    (goesOn : skipSpace left = some ',' :: rest) (others : items fuel rest = some (found, behind)) :
    items (fuel + 1) input = some (json :: found, behind) := by
  simp only [items, first, goesOn, others, Option.map_some]

/-- A member stands at the front of the input, and `rest` behind it. -/
def Leads (fuel : Nat) (input : List Symbol) (key : Option String) (json : Json)
    (rest : List Symbol) : Prop :=
  ∃ inner found behind start left, skipSpace input = some '"' :: inner ∧
    pieces inner = some (found, behind) ∧ textOf found = key ∧
    skipSpace behind = some ':' :: start ∧ value fuel start = some (json, left) ∧
    skipSpace left = rest

theorem members_last {fuel : Nat} {input rest : List Symbol} {key : Option String} {json : Json}
    (leads : Leads fuel input key json (some '}' :: rest)) :
    members (fuel + 1) input = some ([(key, json)], rest) := by
  obtain ⟨inner, found, behind, start, left, quoted, named, rfl, colon, read, closes⟩ := leads
  simp only [members, quoted, named, colon, read, closes]

theorem members_next {fuel : Nat} {input rest behind : List Symbol} {key : Option String}
    {json : Json} {others : List (Option String × Json)}
    (leads : Leads fuel input key json (some ',' :: rest))
    (read : members fuel rest = some (others, behind)) :
    members (fuel + 1) input = some ((key, json) :: others, behind) := by
  obtain ⟨inner, found, after, start, left, quoted, named, rfl, colon, first, goesOn⟩ := leads
  simp only [members, quoted, named, colon, first, goesOn, read, Option.map_some]

/-- The reader finds what the phrase stands for. An array's items and an object's members take one
step more than they have symbols, and the brackets around them make up for it. -/
def Reads : Phrase → List Symbol → Prop
  | .value json, written => ∀ fuel rest, written.length ≤ fuel → Settled rest →
      value fuel (written ++ rest) = some (json, rest)
  | .item json, written => ∀ fuel rest, written.length ≤ fuel → Closed rest →
      ∃ left, value fuel (written ++ rest) = some (json, left) ∧ skipSpace left = rest
  | .items found, written => ∀ fuel rest, written.length + 1 ≤ fuel →
      items fuel (written ++ some ']' :: rest) = some (found, rest)
  | .member key json, written => ∀ fuel rest, written.length ≤ fuel → Closed rest →
      Leads fuel (written ++ rest) key json rest
  | .members found, written => ∀ fuel rest, written.length + 1 ≤ fuel →
      members fuel (written ++ some '}' :: rest) = some (found, rest)

theorem reads_numeral {negative : Bool} {whole : Nat} {fraction exponent : List Char} {json : Json}
    (fractional : Fraction fraction) (raised : Exponent exponent)
    (stands : (if !fraction.isEmpty || !exponent.isEmpty || (negative && whole = 0) then Json.real
      else .integer (if negative then -(whole : Int) else whole)) = json) :
    Reads (.value json) ((numeral negative whole fraction exponent).map some) := by
  intro fuel rest enough ends
  rw [List.length_map] at enough
  have nonempty : 0 < (numeral negative whole fraction exponent).length := by
    have digits := Nat.length_toDigits_pos (b := 10) (n := whole)
    simp only [numeral, List.length_append]
    omega
  obtain ⟨fuel, rfl⟩ := Nat.exists_eq_add_one_of_ne_zero (n := fuel) (by omega)
  rw [value_numeral negative whole fractional raised ends, ← stands]
  split <;> rfl

theorem reads_item {json : Json} {before written after : List Symbol} (blanks : Blanks before)
    (read : Reads (.value json) written) (behind : Blanks after) :
    Reads (.item json) (before ++ (written ++ after)) := by
  intro fuel rest enough closed
  simp only [List.length_append] at enough
  -- The reader skips the blanks in front itself and leaves those behind to whoever called it.
  refine ⟨after ++ rest, ?_, (skipSpace_blanks behind rest).trans closed.skipSpace⟩
  rw [List.append_assoc, List.append_assoc, ← value_skipSpace, skipSpace_blanks blanks,
    value_skipSpace]
  exact read fuel _ (by omega) (closed.settled behind)

theorem reads_member {key : Option String} {json : Json} {before name between written : List Symbol}
    (blanks : Blanks before) (quoted : Quoted key name) (gap : Blanks between)
    (read : Reads (.item json) written) :
    Reads (.member key json)
      (before ++ some '"' :: (name ++ some '"' :: (between ++ some ':' :: written))) := by
  intro fuel rest enough closed
  simp only [List.length_append, List.length_cons] at enough
  obtain ⟨left, found, ends⟩ := read fuel rest (by omega) closed
  obtain ⟨parts, named, stands⟩ := quoted_read quoted (between ++ some ':' :: (written ++ rest))
  refine ⟨_, parts, _, _, left, ?_, named, stands, ?_, found, ends⟩
  · simp only [List.append_assoc, List.cons_append]
    exact skipSpace_blanks blanks _
  · exact skipSpace_blanks gap _

theorem enclosed_append (opening closing : Symbol) (written rest : List Symbol) :
    (opening :: (written ++ [closing])) ++ rest = opening :: (written ++ closing :: rest) := by
  rw [List.cons_append, List.append_assoc, List.singleton_append]

theorem reads_text {value : Option String} {written : List Symbol} (quoted : Quoted value written) :
    Reads (.value (.text value)) (some '"' :: (written ++ [some '"'])) := by
  intro fuel rest enough _
  obtain ⟨fuel, rfl⟩ := Nat.exists_eq_add_one_of_ne_zero (n := fuel) (by rintro rfl; cases enough)
  obtain ⟨parts, read, stands⟩ := quoted_read quoted rest
  rw [enclosed_append, value_quote read, stands]

theorem reads_array {found : List Json} {written : List Symbol}
    (read : Reads (.items found) written) :
    Reads (.value (.array found)) (some '[' :: (written ++ [some ']'])) := by
  intro fuel rest enough _
  simp only [List.length_cons, List.length_append, List.length_nil] at enough
  obtain ⟨fuel, rfl⟩ := Nat.exists_eq_add_one_of_ne_zero (n := fuel) (by omega)
  rw [enclosed_append]
  exact value_array (read fuel rest (by omega))

theorem reads_object {found : List (Option String × Json)} {written : List Symbol}
    (read : Reads (.members found) written) :
    Reads (.value (.object found)) (some '{' :: (written ++ [some '}'])) := by
  intro fuel rest enough _
  simp only [List.length_cons, List.length_append, List.length_nil] at enough
  obtain ⟨fuel, rfl⟩ := Nat.exists_eq_add_one_of_ne_zero (n := fuel) (by omega)
  rw [enclosed_append]
  exact value_object (read fuel rest (by omega))

theorem reads_emptyArray {gap : List Symbol} (blanks : Blanks gap) :
    Reads (.value (.array [])) (some '[' :: (gap ++ [some ']'])) := by
  intro fuel rest enough _
  obtain ⟨fuel, rfl⟩ := Nat.exists_eq_add_one_of_ne_zero (n := fuel) (by rintro rfl; cases enough)
  have closes : skipSpace (gap ++ some ']' :: rest) = some ']' :: rest := skipSpace_blanks blanks _
  rw [enclosed_append, value_bracket, closes]
  rfl

theorem reads_emptyObject {gap : List Symbol} (blanks : Blanks gap) :
    Reads (.value (.object [])) (some '{' :: (gap ++ [some '}'])) := by
  intro fuel rest enough _
  obtain ⟨fuel, rfl⟩ := Nat.exists_eq_add_one_of_ne_zero (n := fuel) (by rintro rfl; cases enough)
  have closes : skipSpace (gap ++ some '}' :: rest) = some '}' :: rest := skipSpace_blanks blanks _
  rw [enclosed_append, value_brace, closes]
  rfl

/-- The reader accepts whatever the grammar derives. -/
theorem derives_reads {phrase : Phrase} {written : List Symbol} (derives : Derives phrase written) :
    Reads phrase written := by
  induction derives with
  | null | truth | falsity =>
      intro fuel rest enough ends
      obtain ⟨fuel, rfl⟩ :=
        Nat.exists_eq_add_one_of_ne_zero (n := fuel) (by rintro rfl; cases enough)
      rfl
  | integer number =>
      refine reads_numeral .absent .absent ?_
      have whole : ¬ (!([] : List Char).isEmpty || !([] : List Char).isEmpty ||
          (decide (number < 0) && number.natAbs = 0)) = true := by
        simp only [List.isEmpty_nil, Bool.not_true, Bool.false_or, Bool.and_eq_true,
          decide_eq_true_eq]
        omega
      have signed : (if decide (number < 0) = true then -(number.natAbs : Int) else number.natAbs) =
          number := by
        simp only [decide_eq_true_eq]
        split <;> omega
      rw [if_neg whole, signed]
  | real fractional raised other =>
      refine reads_numeral fractional raised (if_pos ?_)
      simpa [or_assoc] using other
  | text quoted => exact reads_text quoted
  | emptyArray blanks => exact reads_emptyArray blanks
  | emptyObject blanks => exact reads_emptyObject blanks
  | array _ read => exact reads_array read
  | object _ read => exact reads_object read
  | item blanks _ behind read => exact reads_item blanks read behind
  | oneItem _ read =>
      intro fuel rest enough
      obtain ⟨fuel, rfl⟩ := Nat.exists_eq_add_one_of_ne_zero (n := fuel) (by omega)
      obtain ⟨left, first, closes⟩ :=
        read fuel (some ']' :: rest) (by omega) (.inr ⟨']', by decide, rest, rfl⟩)
      exact items_last first closes
  | @moreItems json found written later _ _ first others =>
      intro fuel rest enough
      -- The comma pays for the step, and either side of it is shorter than the whole.
      simp only [List.length_append, List.length_cons] at enough
      obtain ⟨fuel, rfl⟩ := Nat.exists_eq_add_one_of_ne_zero (n := fuel) (by omega)
      obtain ⟨left, read, goesOn⟩ := first fuel (some ',' :: (later ++ some ']' :: rest))
        (by omega) (.inr ⟨',', by decide, _, rfl⟩)
      rw [List.append_assoc]
      exact items_next read goesOn (others fuel rest (by omega))
  | member blanks quoted gap _ read => exact reads_member blanks quoted gap read
  | oneMember _ read =>
      intro fuel rest enough
      obtain ⟨fuel, rfl⟩ := Nat.exists_eq_add_one_of_ne_zero (n := fuel) (by omega)
      exact members_last
        (read fuel (some '}' :: rest) (by omega) (.inr ⟨'}', by decide, rest, rfl⟩))
  | @moreMembers key json found written later _ _ first others =>
      intro fuel rest enough
      simp only [List.length_append, List.length_cons] at enough
      obtain ⟨fuel, rfl⟩ := Nat.exists_eq_add_one_of_ne_zero (n := fuel) (by omega)
      rw [List.append_assoc]
      exact members_next (first fuel _ (by omega) (.inr ⟨',', by decide, _, rfl⟩))
        (others fuel rest (by omega))

/-- A document is a value between blanks, and what it is read as is the value. -/
theorem readSymbols_of_derives {json : Json} {document : List Symbol}
    (derives : Derives (.item json) document) : readSymbols document = some json := by
  obtain ⟨left, read, ended⟩ := derives_reads derives (3 * document.length + 3) [] (by omega)
    (.inl rfl)
  rw [List.append_nil] at read
  rw [readSymbols, read]
  exact if_pos (by rw [ended]; rfl)

end SecretBroker.Json
