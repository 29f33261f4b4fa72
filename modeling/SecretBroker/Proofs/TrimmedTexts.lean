import Mathlib.Data.List.TakeWhile
import SecretBroker.Text.Blank

/-!
Text without its blank ends. A text is its trimmed part between blanks, the trimmed part neither
begins nor ends with a blank, and there is only one such part.
-/

namespace SecretBroker.Text

/-- The characters of the property White_Space. -/
def whiteSpace : List Char :=
  ['\t', '\n', '\x0b', '\x0c', '\r', ' ', '\u0085', '\u00a0', '\u1680', '\u2000', '\u2001', '\u2002',
    '\u2003', '\u2004', '\u2005', '\u2006', '\u2007', '\u2008', '\u2009', '\u200a', '\u2028',
    '\u2029', '\u202f', '\u205f', '\u3000']

/-- A text is another one with blanks around it that is blank at neither end. -/
def Trimmed (text inner : String) : Prop :=
  ∃ before after : List Char, text.toList = before ++ (inner.toList ++ after) ∧
    (∀ c ∈ before, c ∈ whiteSpace) ∧ (∀ c ∈ after, c ∈ whiteSpace) ∧
    (∀ c, inner.toList.head? = some c → c ∉ whiteSpace) ∧
    ∀ c, inner.toList.getLast? = some c → c ∉ whiteSpace

theorem isBlank_iff (c : Char) : isBlank c = true ↔ c ∈ whiteSpace := by
  constructor
  · intro blank
    have codes : c.toNat ∈ whiteSpace.map Char.toNat := by
      simp only [isBlank, Bool.or_eq_true, Bool.and_eq_true, decide_eq_true_eq, beq_iff_eq] at blank
      simp only [whiteSpace, List.map_cons, List.map_nil, Char.reduceToNat, List.mem_cons,
        List.not_mem_nil, or_false]
      omega
    obtain ⟨other, listed, same⟩ := List.mem_map.mp codes
    exact Char.toNat_inj.mp same ▸ listed
  · have table : whiteSpace.all isBlank = true := by decide
    exact List.all_eq_true.mp table c

theorem not_blank {c : Char} (shown : isBlank c = false) : c ∉ whiteSpace := by
  rw [← isBlank_iff, shown]
  exact Bool.false_ne_true

theorem dropBlanks_split (text : List Char) :
    ∃ front, (∀ c ∈ front, c ∈ whiteSpace) ∧ text = front ++ text.dropWhile isBlank := by
  refine ⟨text.takeWhile isBlank, fun c listed => ?_, List.takeWhile_append_dropWhile.symm⟩
  exact (isBlank_iff c).mp (List.mem_takeWhile_imp listed)

theorem dropBlanks_head (text : List Char) {c : Char}
    (first : (text.dropWhile isBlank).head? = some c) : c ∉ whiteSpace := by
  have shown := List.head?_dropWhile_not isBlank text
  rw [first] at shown
  exact not_blank shown

theorem dropBlanks_append {before rest : List Char} (blanks : ∀ c ∈ before, c ∈ whiteSpace)
    (shown : ∀ c, rest.head? = some c → c ∉ whiteSpace) :
    (before ++ rest).dropWhile isBlank = rest := by
  rw [List.dropWhile_append_of_pos fun c listed => (isBlank_iff c).mpr (blanks c listed)]
  cases rest with
  | nil => rfl
  | cons c rest => exact List.dropWhile_cons_of_neg (mt (isBlank_iff c).mp (shown c rfl))

theorem trimChars_split (text : List Char) :
    ∃ after, text.dropWhile isBlank = trimChars text ++ after ∧ ∀ c ∈ after, c ∈ whiteSpace := by
  obtain ⟨behind, blanks, split⟩ := dropBlanks_split (text.dropWhile isBlank).reverse
  refine ⟨behind.reverse, ?_, fun c listed => blanks c (List.mem_reverse.mp listed)⟩
  have ends := congrArg List.reverse split
  rwa [List.reverse_reverse, List.reverse_append] at ends

theorem trimChars_append {before inner after : List Char} (blanks : ∀ c ∈ before, c ∈ whiteSpace)
    (blanksBehind : ∀ c ∈ after, c ∈ whiteSpace)
    (first : ∀ c, inner.head? = some c → c ∉ whiteSpace)
    (last : ∀ c, inner.getLast? = some c → c ∉ whiteSpace) :
    trimChars (before ++ (inner ++ after)) = inner := by
  cases inner with
  | nil =>
      have nothing : (before ++ ([] ++ after)).dropWhile isBlank = [] := by
        refine List.dropWhile_eq_nil_iff.mpr fun c listed => (isBlank_iff c).mpr ?_
        exact (List.mem_append.mp listed).elim (blanks c) (blanksBehind c)
      rw [trimChars, nothing]
      rfl
  | cons c inner =>
      have front : (before ++ (c :: inner ++ after)).dropWhile isBlank = c :: inner ++ after :=
        dropBlanks_append blanks fun d found => first d found
      rw [trimChars, front, List.reverse_append, dropBlanks_append, List.reverse_reverse]
      · exact fun c listed => blanksBehind c (List.mem_reverse.mp listed)
      · rw [List.head?_reverse]
        exact last

/-- A text is trimmed to the one part of it that is blank at neither end and has blanks around it. -/
theorem trim_eq_iff (text inner : String) : trim text = inner ↔ Trimmed text inner := by
  constructor
  · rintro rfl
    obtain ⟨before, blanks, split⟩ := dropBlanks_split text.toList
    obtain ⟨after, inside, blanksBehind⟩ := trimChars_split text.toList
    unfold Trimmed
    rw [trim, String.toList_ofList]
    refine ⟨before, after, inside ▸ split, blanks, blanksBehind, ?_, ?_⟩
    · intro c found
      apply dropBlanks_head text.toList
      rw [inside, List.head?_append, found]
      rfl
    · intro c found
      rw [trimChars, List.getLast?_reverse] at found
      exact dropBlanks_head _ found
  · rintro ⟨before, after, split, blanks, blanksBehind, first, last⟩
    rw [trim, split, trimChars_append blanks blanksBehind first last, String.ofList_toList]

end SecretBroker.Text
