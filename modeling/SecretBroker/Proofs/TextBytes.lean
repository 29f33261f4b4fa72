import SecretBroker.Proofs.HeaderText
import SecretBroker.Json.Reader

/-!
The bytes of a text are decoded to its characters, so a document is read from the bytes of its text
as from the text.
-/

namespace SecretBroker

namespace Text

theorem takeContinuations_cons {low high : UInt8} {ranges : List (UInt8 × UInt8)} {byte : Nat}
    {taken rest : List UInt8} (small : byte < 256) (least : low.toNat ≤ byte)
    (most : byte ≤ high.toNat)
    (fit : takeContinuations ranges (taken ++ rest) = (true, taken, rest)) :
    takeContinuations ((low, high) :: ranges) (UInt8.ofNat byte :: taken ++ rest) =
      (true, UInt8.ofNat byte :: taken, rest) := by
  have value : (UInt8.ofNat byte).toNat = byte := UInt8.toNat_ofNat_of_lt' small
  have inside : (decide (low ≤ UInt8.ofNat byte) && decide (UInt8.ofNat byte ≤ high)) = true := by
    rw [Bool.and_eq_true, decide_eq_true_eq, decide_eq_true_eq, UInt8.le_iff_toNat_le,
      UInt8.le_iff_toNat_le, value]
    exact ⟨least, most⟩
  rw [List.cons_append, takeContinuations, if_pos inside, fit]

/-! A byte after the first holds six bits of the character, and may be any with the mark 0x80. -/

theorem takeContinuations_six {ranges : List (UInt8 × UInt8)} (bits : Nat) {taken rest : List UInt8}
    (fit : takeContinuations ranges (taken ++ rest) = (true, taken, rest)) :
    takeContinuations ((0x80, 0xbf) :: ranges) (UInt8.ofNat (bits % 64 + 128) :: taken ++ rest) =
      (true, UInt8.ofNat (bits % 64 + 128) :: taken, rest) := by
  have bound := Nat.mod_lt bits (show 0 < 64 by decide)
  exact takeContinuations_cons (by omega) (by simp) (by simp; omega) fit

theorem six_value (bits : Nat) : (UInt8.ofNat (bits % 64 + 128)).toNat - 0x80 = bits % 64 := by
  have bound := Nat.mod_lt bits (show 0 < 64 by decide)
  rw [UInt8.toNat_ofNat_of_lt' (by show _ < 256; omega)]
  omega

/-! What the first byte asks for and the bits that it holds, by the number of bytes. -/

theorem lead_one : ∀ byte < 0x80, continuations (UInt8.ofNat byte) = some [] ∧
    leadBits (UInt8.ofNat byte) = byte := by
  decide +kernel

theorem lead_two : ∀ bits < 0x20, 2 ≤ bits →
    continuations (UInt8.ofNat (bits + 192)) = some [(0x80, 0xbf)] ∧
      leadBits (UInt8.ofNat (bits + 192)) = bits := by
  decide +kernel

theorem lead_three : ∀ bits < 0x10, continuations (UInt8.ofNat (bits + 224)) =
      some [(if bits = 0 then 0xa0 else 0x80, if bits = 0xd then 0x9f else 0xbf), (0x80, 0xbf)] ∧
    leadBits (UInt8.ofNat (bits + 224)) = bits := by
  decide +kernel

theorem lead_four : ∀ bits < 5, continuations (UInt8.ofNat (bits + 240)) =
      some [(if bits = 0 then 0x90 else 0x80, if bits = 4 then 0x8f else 0xbf), (0x80, 0xbf),
        (0x80, 0xbf)] ∧
    leadBits (UInt8.ofNat (bits + 240)) = bits := by
  decide +kernel

theorem decodeChars_sequence {lead : UInt8} {ranges : List (UInt8 × UInt8)}
    {taken rest : List UInt8} {c : Char} (asks : continuations lead = some ranges)
    (fit : takeContinuations ranges (taken ++ rest) = (true, taken, rest))
    (value : taken.foldl (fun n b => n * 64 + (b.toNat - 0x80)) (leadBits lead) = c.toNat) :
    decodeChars (lead :: taken ++ rest) = some c :: decodeChars rest := by
  have read : charOf lead taken = c := by rw [charOf, value, Char.ofNat_toNat]
  rw [List.cons_append, decodeChars, nextChar, asks]
  simp only [fit, if_true, read]

/-- The bytes of a character are decoded to it, whatever follows them. -/
theorem decodeChars_character (c : Char) (rest : List UInt8) :
    decodeChars (String.utf8EncodeChar c ++ rest) = some c :: decodeChars rest := by
  have valid : c.toNat.isValidChar := c.valid
  unfold Nat.isValidChar at valid
  have scalar : c.val.toNat = c.toNat := rfl
  simp only [String.utf8EncodeChar, scalar]
  have last := takeContinuations_six c.toNat (show takeContinuations [] ([] ++ rest) = _ from rfl)
  split
  next one =>
    obtain ⟨asks, bits⟩ := lead_one c.toNat (by omega)
    exact decodeChars_sequence asks rfl bits
  split
  next more two =>
    obtain ⟨asks, bits⟩ := lead_two (c.toNat / 64 % 32) (by omega) (by omega)
    refine decodeChars_sequence asks last ?_
    simp only [List.foldl_cons, List.foldl_nil, bits, six_value]
    omega
  split
  next more more three =>
    obtain ⟨asks, bits⟩ := lead_three (c.toNat / 4096 % 16) (by omega)
    -- The second byte's range leaves out what a shorter sequence holds, and the surrogates.
    have least : (if c.toNat / 4096 % 16 = 0 then 0xa0 else 0x80 : UInt8).toNat ≤
        c.toNat / 64 % 64 + 128 := by
      split
      · simp only [UInt8.reduceToNat]
        omega
      · exact Nat.le_add_left _ _
    have most : c.toNat / 64 % 64 + 128 ≤
        (if c.toNat / 4096 % 16 = 0xd then 0x9f else 0xbf : UInt8).toNat := by
      split <;> simp only [UInt8.reduceToNat] <;> omega
    refine decodeChars_sequence asks (takeContinuations_cons (by omega) least most last) ?_
    simp only [List.foldl_cons, List.foldl_nil, bits, six_value]
    omega
  next more more more =>
    obtain ⟨asks, bits⟩ := lead_four (c.toNat / 262144 % 8) (by omega)
    have least : (if c.toNat / 262144 % 8 = 0 then 0x90 else 0x80 : UInt8).toNat ≤
        c.toNat / 4096 % 64 + 128 := by
      split
      · simp only [UInt8.reduceToNat]
        omega
      · exact Nat.le_add_left _ _
    have most : c.toNat / 4096 % 64 + 128 ≤
        (if c.toNat / 262144 % 8 = 4 then 0x8f else 0xbf : UInt8).toNat := by
      split <;> simp only [UInt8.reduceToNat] <;> omega
    refine decodeChars_sequence asks
      (takeContinuations_cons (by omega) least most (takeContinuations_six _ last)) ?_
    simp only [List.foldl_cons, List.foldl_nil, bits, six_value]
    omega

theorem decodeChars_utf8 (text : String) : decodeChars (utf8 text) = text.toList.map some := by
  rw [utf8_chars]
  induction text.toList with
  | nil => rw [List.flatMap_nil, decodeChars, List.map_nil]
  | cons c rest ih => rw [List.flatMap_cons, decodeChars_character, ih, List.map_cons]

end Text

namespace Json

theorem readBytes_utf8 (text : String) : readBytes (Text.utf8 text) = readText text := by
  rw [readBytes, Text.decodeChars_utf8, readText]

end Json
end SecretBroker
