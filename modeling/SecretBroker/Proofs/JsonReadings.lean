import Mathlib.Data.List.TakeWhile
import SecretBroker.Proofs.JsonGrammar

/-!
The reader accepts nothing but what the grammar of JSON derives. What it takes from its input for a
phrase is a writing of that phrase, so a document is read as a value just if it is one of the
value's writings.
-/

namespace SecretBroker.Json

open SecretBroker.Text

theorem skipSpace_split (input : List Symbol) :
    ∃ gap, Blanks gap ∧ input = gap ++ skipSpace input := by
  refine ⟨input.takeWhile isSpace, fun s listed => ?_, List.takeWhile_append_dropWhile.symm⟩
  exact (isSpace_iff s).mp (List.mem_takeWhile_imp listed)

/-! Numbers -/

theorem takeDigits_split (input : List Symbol) :
    input = (takeDigits input).1.map some ++ (takeDigits input).2 ∧
      (takeDigits input).1.all isAsciiDigit = true := by
  fun_induction takeDigits input with
  | case1 c rest digit digits later taken ih =>
      rw [taken] at ih
      refine ⟨congrArg (some c :: ·) ih.1, ?_⟩
      rw [List.all_cons, digit, ih.2, Bool.and_self]
  | case2 c rest other => exact ⟨rfl, rfl⟩
  | case3 rest other => exact ⟨rfl, rfl⟩

theorem takeDigits_some {input rest : List Symbol} {digits : List Char} (nonempty : digits ≠ [])
    (taken : takeDigits input = (digits, rest)) :
    Digits digits ∧ input = digits.map some ++ rest := by
  obtain ⟨split, numeric⟩ := takeDigits_split input
  rw [taken] at split numeric
  exact ⟨⟨nonempty, numeric⟩, split⟩

theorem fraction_of_read {input rest : List Symbol} {pointed : Bool}
    (read : fraction? input = some (pointed, rest)) :
    ∃ fraction, Fraction fraction ∧ pointed = !fraction.isEmpty ∧
      input = fraction.map some ++ rest := by
  unfold fraction? at read
  split at read
  · split at read
    · cases read
    · rename_i c digits after taken
      cases read
      obtain ⟨numeric, rfl⟩ := takeDigits_some (List.cons_ne_nil c digits) taken
      exact ⟨'.' :: c :: digits, .point numeric, rfl, rfl⟩
  · cases read
    exact ⟨[], .absent, rfl, rfl⟩

theorem dropSign_split (input : List Symbol) :
    ∃ sign ∈ [[], ['+'], ['-']], input = sign.map some ++ dropSign input := by
  unfold dropSign
  split
  · exact ⟨['+'], by decide, rfl⟩
  · exact ⟨['-'], by decide, rfl⟩
  · exact ⟨[], by decide, rfl⟩

theorem exponent_of_read {input rest : List Symbol} {raised : Bool}
    (read : exponent? input = some (raised, rest)) :
    ∃ exponent, Exponent exponent ∧ raised = !exponent.isEmpty ∧
      input = exponent.map some ++ rest := by
  have marked : ∀ mark ∈ ['e', 'E'], ∀ behind c digits,
      takeDigits (dropSign behind) = (c :: digits, rest) →
      ∃ exponent, Exponent exponent ∧ true = !exponent.isEmpty ∧
        some mark :: behind = exponent.map some ++ rest := by
    intro mark known behind c digits taken
    obtain ⟨numeric, unsigned⟩ := takeDigits_some (List.cons_ne_nil c digits) taken
    obtain ⟨sign, signed, whole⟩ := dropSign_split behind
    refine ⟨mark :: (sign ++ c :: digits), .power known signed numeric, rfl, ?_⟩
    rw [List.map_cons, List.map_append, List.cons_append, List.append_assoc, ← unsigned, ← whole]
  unfold exponent? at read
  split at read
  · split at read
    · cases read
    · rename_i c digits after taken
      cases read
      exact marked 'e' (by decide) _ c digits taken
  · split at read
    · cases read
    · rename_i c digits after taken
      cases read
      exact marked 'E' (by decide) _ c digits taken
  · cases read
    exact ⟨[], .absent, rfl, rfl⟩

theorem digit_value {c : Char} (digit : isAsciiDigit c = true) :
    c.toNat - '0'.toNat < 10 ∧ Nat.toDigits 10 (c.toNat - '0'.toNat) = [c] := by
  have range : 48 ≤ c.toNat ∧ c.toNat ≤ 57 := by
    simpa [isAsciiDigit, Char.le_def, UInt32.le_iff_toNat_le] using digit
  change c.toNat - 48 < 10 ∧ Nat.toDigits 10 (c.toNat - 48) = [c]
  have small : c.toNat - 48 < 10 := by omega
  refine ⟨small, ?_⟩
  have shown : (c.toNat - 48).digitChar = c := by
    apply Char.toNat_inj.mp
    rw [Nat.toNat_digitChar_of_lt_ten small]
    omega
  rw [Nat.toDigits_of_lt_base small, shown]

/-- Digits behind a number that is not zero are the last digits of the number that they make. -/
theorem toDigits_foldl {digits : List Char} (numeric : digits.all isAsciiDigit = true) {front : Nat}
    (positive : 0 < front) :
    Nat.toDigits 10 (digits.foldl (fun n c => n * 10 + (c.toNat - '0'.toNat)) front) =
      Nat.toDigits 10 front ++ digits := by
  induction digits generalizing front with
  | nil => exact (List.append_nil _).symm
  | cons c later ih =>
      obtain ⟨first, others⟩ := Bool.and_eq_true_iff.mp numeric
      obtain ⟨small, shown⟩ := digit_value first
      rw [List.foldl_cons, ih others (by omega), Nat.mul_comm,
        ← Nat.toDigits_append_toDigits (by decide) positive small, shown, List.append_assoc,
        List.singleton_append]

/-- Decimal digits without a superfluous zero at the front are those of their number. -/
theorem toDigits_natOf {digits : List Char} (numeric : Digits digits)
    (proper : ∀ c later, digits ≠ '0' :: c :: later) : Nat.toDigits 10 (natOf digits) = digits := by
  cases digits with
  | nil => exact absurd rfl numeric.1
  | cons c later =>
      obtain ⟨first, others⟩ := Bool.and_eq_true_iff.mp numeric.2
      obtain ⟨small, shown⟩ := digit_value first
      have start : natOf (c :: later) =
          later.foldl (fun n c => n * 10 + (c.toNat - '0'.toNat)) (c.toNat - '0'.toNat) := by
        rw [natOf, List.foldl_cons, Nat.zero_mul, Nat.zero_add]
      rw [start]
      rcases Nat.eq_zero_or_pos (c.toNat - '0'.toNat) with zero | positive
      · -- A zero at the front is alone.
        rw [zero] at shown ⊢
        cases later with
        | nil => exact shown
        | cons next rest =>
            obtain rfl : '0' = c := List.singleton_inj.mp shown
            exact absurd rfl (proper next rest)
      · rw [toDigits_foldl others positive, shown, List.singleton_append]

/-- A numeral is derived from the number that it is read as. -/
theorem derives_numeral (negative : Bool) (whole : Nat) {fraction exponent : List Char}
    (fractional : Fraction fraction) (raised : Exponent exponent) :
    Derives (.value (if !fraction.isEmpty || !exponent.isEmpty || (negative && whole = 0) then .real
      else .integer (if negative then -(whole : Int) else whole)))
      ((numeral negative whole fraction exponent).map some) := by
  split
  · rename_i other
    refine .real fractional raised ?_
    simpa [or_assoc] using other
  · rename_i integral
    simp only [Bool.or_eq_true, Bool.not_eq_true', Bool.and_eq_true, decide_eq_true_eq, not_or,
      Bool.not_eq_false, List.isEmpty_iff] at integral
    obtain ⟨⟨rfl, rfl⟩, signed⟩ := integral
    have derived := Derives.integer (if negative then -(whole : Int) else whole)
    cases negative with
    | false =>
        have positive : decide ((whole : Int) < 0) = false := by simp
        rwa [if_neg Bool.false_ne_true, positive, Int.natAbs_natCast] at derived
    | true =>
        have below : decide (-(whole : Int) < 0) = true := by
          have : whole ≠ 0 := fun zero => signed ⟨rfl, zero⟩
          simp only [decide_eq_true_eq]
          omega
        rwa [if_pos rfl, below, Int.natAbs_neg, Int.natAbs_natCast] at derived

/-- A number that is read is a numeral; its sign has been read before. -/
theorem numeral_of_number {negative : Bool} {input rest : List Symbol} {json : Json}
    (read : number negative input = some (json, rest)) :
    ∃ unsigned : List Char, input = unsigned.map some ++ rest ∧
      Derives (.value json) (((if negative then ['-'] else []) ++ unsigned).map some) := by
  unfold number at read
  split at read
  · cases read
  · cases read
  · rename_i digits after nonempty proper taken
    obtain ⟨numeric, rfl⟩ := takeDigits_some nonempty taken
    simp only [Option.bind_eq_bind, Option.bind_eq_some_iff] at read
    obtain ⟨⟨pointed, behind⟩, fractional, ⟨raised, left⟩, exponential, told⟩ := read
    obtain ⟨fraction, isFraction, rfl, rfl⟩ := fraction_of_read fractional
    obtain ⟨exponent, isExponent, rfl, rfl⟩ := exponent_of_read exponential
    have derived := derives_numeral negative (natOf digits) isFraction isExponent
    rw [numeral, toDigits_natOf numeric proper] at derived
    refine ⟨digits ++ (fraction ++ exponent), ?_, ?_⟩
    · have ends : left = rest := by
        split at told <;> cases told <;> rfl
      rw [ends, List.map_append, List.map_append, List.append_assoc, List.append_assoc]
    · have found : (if !fraction.isEmpty || !exponent.isEmpty || (negative && natOf digits = 0)
          then Json.real
          else .integer (if negative then -(natOf digits : Int) else natOf digits)) = json := by
        split at told <;> cases told
        · exact if_pos ‹_›
        · exact if_neg ‹_›
      rwa [found] at derived

/-! Values -/

theorem word_split {letters : List Char} {found json : Json} {input rest : List Symbol}
    (read : word letters found input = some (json, rest)) :
    json = found ∧ input = letters.map some ++ rest := by
  unfold word at read
  split at read
  · rename_i begins
    cases read
    obtain ⟨behind, rfl⟩ := List.isPrefixOf_iff_prefix.mp begins
    refine ⟨rfl, ?_⟩
    rw [← List.length_map (f := some), List.drop_left]
  · cases read

def ValueDerives (fuel : Nat) : Prop :=
  ∀ input json rest, value fuel input = some (json, rest) →
    ∃ gap written, Blanks gap ∧ Derives (.value json) written ∧ input = gap ++ (written ++ rest)

def ItemsDerive (fuel : Nat) : Prop :=
  ∀ input found rest, items fuel input = some (found, rest) →
    ∃ written, Derives (.items found) written ∧ input = written ++ some ']' :: rest

def MembersDerive (fuel : Nat) : Prop :=
  ∀ input found rest, members fuel input = some (found, rest) →
    ∃ written, Derives (.members found) written ∧ input = written ++ some '}' :: rest

/-- A value with the blanks around it is an item, whatever follows these. -/
theorem item_of_value {fuel : Nat} (derives : ValueDerives fuel) {input left : List Symbol}
    {json : Json} (read : value fuel input = some (json, left)) :
    ∃ written, Derives (.item json) written ∧ input = written ++ skipSpace left := by
  obtain ⟨before, written, blanks, derived, rfl⟩ := derives input json left read
  obtain ⟨after, behind, same⟩ := skipSpace_split left
  refine ⟨before ++ (written ++ after), .item blanks derived behind, ?_⟩
  rw [List.append_assoc, List.append_assoc, ← same]

theorem value_derives {fuel : Nat} (itemsDerive : ItemsDerive fuel)
    (membersDerive : MembersDerive fuel) : ValueDerives (fuel + 1) := by
  intro input json rest read
  obtain ⟨gap, blanks, same⟩ := skipSpace_split input
  suffices derived : ∃ written, Derives (.value json) written ∧ skipSpace input = written ++ rest by
    obtain ⟨written, derived, split⟩ := derived
    exact ⟨gap, written, blanks, derived, split ▸ same⟩
  rw [value] at read
  split at read
  · rename_i quoted front
    obtain ⟨⟨found, after⟩, parts, told⟩ := Option.map_eq_some_iff.mp read
    cases told
    obtain ⟨written, quotes, rfl⟩ := quoted_of_pieces parts
    exact ⟨_, .text quotes, by rw [front, enclosed_append]⟩
  · rename_i inner front
    obtain ⟨gap, blanks, inside⟩ := skipSpace_split inner
    split at read
    · rename_i closes
      cases read
      exact ⟨_, .emptyArray blanks, by rw [front, enclosed_append, ← closes, ← inside]⟩
    · obtain ⟨⟨found, after⟩, listed, told⟩ := Option.map_eq_some_iff.mp read
      cases told
      rw [items_skipSpace] at listed
      obtain ⟨written, derived, rfl⟩ := itemsDerive _ _ _ listed
      exact ⟨_, .array derived, by rw [front, enclosed_append]⟩
  · rename_i inner front
    obtain ⟨gap, blanks, inside⟩ := skipSpace_split inner
    split at read
    · rename_i closes
      cases read
      exact ⟨_, .emptyObject blanks, by rw [front, enclosed_append, ← closes, ← inside]⟩
    · obtain ⟨⟨found, after⟩, listed, told⟩ := Option.map_eq_some_iff.mp read
      cases told
      rw [members_skipSpace] at listed
      obtain ⟨written, derived, rfl⟩ := membersDerive _ _ _ listed
      exact ⟨_, .object derived, by rw [front, enclosed_append]⟩
  · rename_i letters front
    obtain ⟨rfl, rfl⟩ := word_split read
    exact ⟨_, .null, front⟩
  · rename_i letters front
    obtain ⟨rfl, rfl⟩ := word_split read
    exact ⟨_, .truth, front⟩
  · rename_i letters front
    obtain ⟨rfl, rfl⟩ := word_split read
    exact ⟨_, .falsity, front⟩
  · rename_i digits front
    obtain ⟨unsigned, rfl, derived⟩ := numeral_of_number read
    exact ⟨_, derived, front⟩
  · obtain ⟨unsigned, split, derived⟩ := numeral_of_number read
    exact ⟨_, derived, split⟩

theorem items_derive {fuel : Nat} (valueDerives : ValueDerives fuel)
    (itemsDerive : ItemsDerive fuel) : ItemsDerive (fuel + 1) := by
  intro input found rest read
  rw [items] at read
  split at read
  · cases read
  · rename_i json left first
    obtain ⟨written, derived, rfl⟩ := item_of_value valueDerives first
    split at read
    · rename_i closes
      cases read
      exact ⟨written, .oneItem derived, by rw [closes]⟩
    · rename_i goesOn
      obtain ⟨⟨others, after⟩, listed, told⟩ := Option.map_eq_some_iff.mp read
      cases told
      obtain ⟨later, derivedLater, rfl⟩ := itemsDerive _ _ _ listed
      exact ⟨_, .moreItems derived derivedLater, by
        rw [goesOn, List.append_assoc, List.cons_append]⟩
    · cases read

/-- A key, a colon and a value after it are a member, with the blanks around all three. -/
theorem member_of_value {fuel : Nat} (derives : ValueDerives fuel)
    {input inner behind start left : List Symbol} {key : List Piece} {json : Json}
    (front : skipSpace input = some '"' :: inner) (named : pieces inner = some (key, behind))
    (colon : skipSpace behind = some ':' :: start) (read : value fuel start = some (json, left)) :
    ∃ written, Derives (.member (textOf key) json) written ∧ input = written ++ skipSpace left := by
  obtain ⟨before, blanks, same⟩ := skipSpace_split input
  obtain ⟨name, quoted, rfl⟩ := quoted_of_pieces named
  obtain ⟨between, gap, inside⟩ := skipSpace_split behind
  obtain ⟨written, derived, rfl⟩ := item_of_value derives read
  refine ⟨_, .member blanks quoted gap derived, ?_⟩
  rw [same, front, inside, colon]
  simp only [List.append_assoc, List.cons_append]

theorem members_derive {fuel : Nat} (valueDerives : ValueDerives fuel)
    (membersDerive : MembersDerive fuel) : MembersDerive (fuel + 1) := by
  intro input found rest read
  rw [members] at read
  split at read
  · rename_i inner front
    split at read
    · cases read
    · rename_i key behind named
      split at read
      · rename_i start colon
        split at read
        · cases read
        · rename_i json left first
          obtain ⟨written, derived, rfl⟩ := member_of_value valueDerives front named colon first
          split at read
          · rename_i closes
            cases read
            exact ⟨written, .oneMember derived, by rw [closes]⟩
          · rename_i goesOn
            obtain ⟨⟨others, after⟩, listed, told⟩ := Option.map_eq_some_iff.mp read
            cases told
            obtain ⟨later, derivedLater, rfl⟩ := membersDerive _ _ _ listed
            exact ⟨_, .moreMembers derived derivedLater, by
              rw [goesOn, List.append_assoc, List.cons_append]⟩
          · cases read
      · cases read
  · cases read

/-- Whatever is taken from the front of the input is a writing of what it is taken for. The reader
goes one step deeper from a value to its items or members and from each of these to its value. -/
theorem readings_derive (fuel : Nat) :
    ValueDerives fuel ∧ ItemsDerive fuel ∧ MembersDerive fuel := by
  induction fuel with
  | zero => exact ⟨nofun, nofun, nofun⟩
  | succ fuel ih =>
      obtain ⟨values, items, members⟩ := ih
      exact ⟨value_derives items members, items_derive values items, members_derive values members⟩

/-! Documents -/

/-- A document is read as a value just if it is a writing of the value between blanks. -/
theorem readSymbols_iff (document : List Symbol) (json : Json) :
    readSymbols document = some json ↔ Derives (.item json) document := by
  constructor
  · intro read
    unfold readSymbols at read
    split at read
    · rename_i found rest first
      split at read
      · rename_i ended
        cases read
        obtain ⟨written, derived, same⟩ := item_of_value (readings_derive _).1 first
        rw [List.isEmpty_iff.mp ended, List.append_nil] at same
        exact same ▸ derived
      · cases read
    · cases read
  · exact readSymbols_of_derives

theorem readText_iff (text : String) (json : Json) :
    readText text = some json ↔ Writes (.item json) text.toList :=
  readSymbols_iff _ json

end SecretBroker.Json
