import SecretBroker.Proofs.HeaderText

/-!
The header that shows the key. It is read as a text and cut at the first space; of its bytes this
comes to one form, a scheme word, a space and the bytes of the key.
-/

namespace SecretBroker.Http

/-- A header that shows the key: all of it can be read, and it is a scheme word, one space and
the key. -/
def HeaderValue.Shows (value : HeaderValue) (key : Secret) : Prop :=
  value.all HeaderValue.isVisible = true ∧ ∃ scheme,
    Text.eqIgnoringCase scheme authorizationScheme = true ∧
      value = Text.utf8 scheme ++ 0x20 :: Text.utf8 key.reveal

theorem utf8_space (before after : String) :
    Text.utf8 (before ++ " " ++ after) = Text.utf8 before ++ 0x20 :: Text.utf8 after := by
  have space : Text.utf8 " " = [0x20] := by
    rw [Text.utf8_chars]
    rfl
  rw [Text.utf8_append, Text.utf8_append, space]
  simp

/-- What follows the first space, that space included. -/
theorem drop_before_space (chars : List Char) :
    chars.drop (chars.takeWhile (· ≠ ' ')).length = chars.dropWhile (· ≠ ' ') := by
  calc chars.drop (chars.takeWhile (· ≠ ' ')).length
      = (chars.takeWhile (· ≠ ' ') ++ chars.dropWhile (· ≠ ' ')).drop
          (chars.takeWhile (· ≠ ' ')).length := by rw [List.takeWhile_append_dropWhile]
    _ = chars.dropWhile (· ≠ ' ') := List.drop_left

theorem split_at_space {text before after : String}
    (split : splitAtSpace? text = some (before, after)) : text = before ++ " " ++ after := by
  simp only [splitAtSpace?, drop_before_space] at split
  have parts := List.takeWhile_append_dropWhile (p := (· ≠ ' ')) (l := text.toList)
  have isSpace := List.head?_dropWhile_not (· ≠ ' ') text.toList
  split at split
  · rename_i space rest found
    obtain ⟨rfl, rfl⟩ := Prod.mk.inj (Option.some.inj split)
    rw [found] at parts isSpace
    obtain rfl : space = ' ' := by simpa using isSpace
    apply String.toList_inj.mp
    refine parts.symm.trans ?_
    simp
  · cases split

theorem split_scheme (scheme after : String) (plain : ' ' ∉ scheme.toList) :
    splitAtSpace? (scheme ++ " " ++ after) = some (scheme, after) := by
  have passed : ∀ c ∈ scheme.toList, decide (c ≠ ' ') = true := by
    intro c member
    exact decide_eq_true fun isSpace => plain (isSpace ▸ member)
  have chars : (scheme ++ " " ++ after).toList = scheme.toList ++ ' ' :: after.toList := by simp
  simp only [splitAtSpace?, chars, List.takeWhile_append_of_pos passed]
  simp

/-- Folding changes no space, and the scheme word has none. -/
theorem scheme_has_no_space (scheme : String)
    (same : Text.eqIgnoringCase scheme authorizationScheme = true) : ' ' ∉ scheme.toList := by
  intro member
  have folded : Text.foldAscii scheme = Text.foldAscii authorizationScheme := beq_iff_eq.mp same
  have inside : ' ' ∈ (Text.foldAscii scheme).toList := by
    rw [Text.foldAscii, String.toList_ofList]
    exact List.mem_map.mpr ⟨' ', member, rfl⟩
  rw [folded] at inside
  exact absurd inside (by decide)

/-- A request shows the key just if its authorization header has the one form that does. -/
theorem key_shown (key : Secret) (header : Option HeaderValue) :
    keyFault? key header = none ↔ ∃ value, header = some value ∧ value.Shows key := by
  constructor
  · intro shown
    match header with
    | none => cases shown
    | some [] => cases shown
    | some (first :: rest) =>
      simp only [keyFault?] at shown
      split at shown
      · cases shown
      · rename_i scheme after found
        obtain ⟨text, isText, split⟩ := Option.bind_eq_some_iff.mp found
        obtain ⟨visible, bytes⟩ := HeaderValue.text_eq_some.mp isText
        by_cases same : Text.eqIgnoringCase scheme authorizationScheme = true
        · by_cases equal : Text.utf8 after = Text.utf8 key.reveal
          · refine ⟨_, rfl, visible, scheme, same, ?_⟩
            rw [← bytes, split_at_space split, utf8_space, equal]
          · simp [same, equal] at shown
        · simp [same] at shown
  · -- No other text has the bytes, and it is cut before the key because the scheme has no space.
    rintro ⟨value, rfl, visible, scheme, same, bytes⟩
    have isText : value.text? = some (scheme ++ " " ++ key.reveal) :=
      HeaderValue.text_eq_some.mpr ⟨visible, (utf8_space _ _).trans bytes.symm⟩
    have split := split_scheme scheme key.reveal (scheme_has_no_space scheme same)
    match value, bytes with
    | [], bytes => simp at bytes
    | first :: rest, bytes => simp [keyFault?, isText, split, same]

example : keyFault? ⟨"k"⟩ (some (Text.utf8 "BEARER k")) = none := by decide +kernel

end SecretBroker.Http
