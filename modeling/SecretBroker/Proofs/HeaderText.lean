import SecretBroker.Http.Access
import SecretBroker.Http.Client

/-!
Header values and the texts that they stand for. A value can be read as text just if its bytes
are visible, and that text has those bytes; so what is said of the text, where it is cut and what
its parts are, can be said of the bytes.
-/

namespace SecretBroker

namespace Text

theorem bytes_toList (bytes : ByteArray) : bytes.toList = bytes.data.toList := by
  -- The loop keeps in reverse what it has read.
  have loop : ∀ (rest start : Nat) (read : List UInt8), rest = bytes.size - start →
      ByteArray.toList.loop bytes start read = read.reverse ++ bytes.data.toList.drop start := by
    intro rest
    induction rest with
    | zero =>
        intro start read done
        have past : bytes.data.toList.length ≤ start := by
          change bytes.data.size ≤ start
          change 0 = bytes.data.size - start at done
          omega
        rw [ByteArray.toList.loop, if_neg (by omega), List.drop_eq_nil_of_le past, List.append_nil]
    | succ rest ih =>
        intro start read left
        have inside : start < bytes.data.toList.length := by
          change start < bytes.data.size
          change rest + 1 = bytes.data.size - start at left
          omega
        have first : bytes.get! start = bytes.data.toList[start] := by
          change bytes.data[start]! = _
          rw [getElem!_pos bytes.data start inside]
          rfl
        rw [ByteArray.toList.loop, if_pos (by omega), ih (start + 1) _ (by omega), first,
          List.drop_eq_getElem_cons inside]
        simp
  exact loop _ 0 [] rfl

theorem utf8_chars (text : String) : utf8 text = text.toList.flatMap String.utf8EncodeChar := by
  rw [utf8, bytes_toList]
  change text.toByteArray.data.toList = _
  rw [← String.utf8Encode_toList, List.utf8Encode, List.toList_data_toByteArray]

theorem utf8_append (left right : String) : utf8 (left ++ right) = utf8 left ++ utf8 right := by
  simp [utf8_chars]

theorem utf8_injective {left right : String} (same : utf8 left = utf8 right) : left = right := by
  rw [utf8, utf8, bytes_toList, bytes_toList] at same
  exact String.toByteArray_inj.mp (ByteArray.ext (Array.toList_inj.mp same))

theorem utf8_ascii (c : Char) (ascii : c.toNat < 0x80) :
    String.utf8EncodeChar c = [UInt8.ofNat c.toNat] := by
  have size : c.utf8Size = 1 := by
    have small : c.val ≤ 0x7f := by
      rw [UInt32.le_iff_toNat_le]
      change c.toNat ≤ 0x7f
      omega
    simp [Char.utf8Size, small]
  rw [String.utf8EncodeChar_eq_singleton size]
  rfl

end Text

namespace Http.HeaderValue

/-- The character of a byte; that of an ASCII byte has just this byte. -/
def character (byte : UInt8) : Char := Char.ofNat byte.toNat

theorem character_toNat (byte : UInt8) : (character byte).toNat = byte.toNat := by
  have small := byte.toNat_lt
  have valid : byte.toNat.isValidChar := Or.inl (by omega)
  rw [character, Char.ofNat, dif_pos valid]
  rfl

theorem character_injective {left right : UInt8} (same : character left = character right) :
    left = right := by
  have codes := congrArg Char.toNat same
  rw [character_toNat, character_toNat] at codes
  exact UInt8.toNat_inj.mp codes

theorem visible_ascii {byte : UInt8} (visible : isVisible byte = true) : byte.toNat < 0x80 := by
  simp only [isVisible, Bool.or_eq_true, beq_iff_eq, Bool.and_eq_true, decide_eq_true_eq] at visible
  rcases visible with rfl | ⟨_, below⟩
  · decide
  · rw [UInt8.lt_iff_toNat_lt] at below
    exact Nat.lt_trans below (by decide)

/-- The text of visible bytes has these bytes. -/
theorem utf8_characters (value : HeaderValue) (visible : value.all isVisible = true) :
    Text.utf8 (String.ofList (value.map character)) = value := by
  rw [Text.utf8_chars, String.toList_ofList]
  induction value with
  | nil => rfl
  | cons byte rest ih =>
      rw [List.all_cons, Bool.and_eq_true] at visible
      have first := Text.utf8_ascii (character byte)
        (character_toNat byte ▸ visible_ascii visible.1)
      rw [List.map_cons, List.flatMap_cons, ih visible.2, first, character_toNat,
        UInt8.ofNat_toNat]
      rfl

theorem text_visible (value : HeaderValue) (visible : value.all isVisible = true) :
    value.text? = some (String.ofList (value.map character)) := by
  rw [text?, if_pos visible]
  rfl

theorem text_hidden (value : HeaderValue) (hidden : value.all isVisible = false) :
    value.text? = none := by
  simp [text?, hidden]

theorem text_eq_some {value : HeaderValue} {text : String} :
    value.text? = some text ↔ value.all isVisible = true ∧ Text.utf8 text = value := by
  constructor
  · intro read
    by_cases visible : value.all isVisible = true
    · rw [text_visible value visible] at read
      obtain rfl := Option.some.inj read
      exact ⟨visible, utf8_characters value visible⟩
    · simp [text?, visible] at read
  · intro ⟨visible, bytes⟩
    rw [text_visible value visible]
    exact congrArg some (Text.utf8_injective ((utf8_characters value visible).trans bytes.symm))

end Http.HeaderValue
end SecretBroker
