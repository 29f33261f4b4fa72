import Mathlib.Algebra.Group.Nat.Defs
import Mathlib.Data.List.Basic
import Mathlib.Data.List.TakeWhile
import SecretBroker.Proofs.ListedAddresses

/-!
The canonical text of an address names that address alone. Its bytes or groups stand between the
separators; where a double colon stands for zero groups, their number follows from that of the
others. The texts of IPv4 addresses have points and no colons, those of IPv6 addresses have points
only where they carry an IPv4 address.
-/

namespace SecretBroker.Net

open SecretBroker.Text

theorem mem_intercalate {c separator : Char} {pieces : List (List Char)}
    (member : c ∈ [separator].intercalate pieces) : c = separator ∨ ∃ piece ∈ pieces, c ∈ piece := by
  induction pieces with
  | nil => cases member
  | cons piece rest ih =>
      cases rest with
      | nil =>
          rw [List.intercalate_singleton] at member
          exact .inr ⟨piece, List.mem_cons_self, member⟩
      | cons next later =>
          rw [List.intercalate_cons_cons, List.append_assoc, List.mem_append,
            List.singleton_append, List.mem_cons] at member
          rcases member with inPiece | same | behind
          · exact .inr ⟨piece, List.mem_cons_self, inPiece⟩
          · exact .inl same
          · refine (ih behind).imp_right ?_
            rintro ⟨other, listed, inside⟩
            exact ⟨other, List.mem_cons_of_mem _ listed, inside⟩

/-! Decimal bytes between points. -/

def bytesOf (n : Nat) : List Nat := [24, 16, 8, 0].map fun shift => (n >>> shift) % 256

theorem v4Text_chars (n : Nat) :
    (v4Text n).toList = ['.'].intercalate ((bytesOf n).map (Nat.toDigits 10)) := by
  simp [v4Text, bytesOf, String.toList_append, Nat.toList_repr, List.intercalate_cons_cons]

theorem v4Text_split (n : Nat) :
    (v4Text n).toList.splitOn '.' = (bytesOf n).map (Nat.toDigits 10) := by
  rw [v4Text_chars, List.splitOn_intercalate]
  · intro piece member
    obtain ⟨byte, -, rfl⟩ := List.mem_map.mp member
    exact not_mem_toDigits rfl byte
  · exact List.cons_ne_nil _ _

theorem decimal_injective : Function.Injective (Nat.toDigits 10) := fun one other same => by
  rw [← Nat.ofDigitChars_ten_toDigits (n := one), same, Nat.ofDigitChars_ten_toDigits]

/-- The text gives the last 32 bits. -/
theorem v4Text_low {one other : Nat} (same : v4Text one = v4Text other) :
    one % 2 ^ 32 = other % 2 ^ 32 := by
  have split := congrArg (fun text => text.toList.splitOn '.') same
  simp only [v4Text_split] at split
  have bytes := decimal_injective.list_map split
  simp only [bytesOf, List.map_cons, List.map_nil, List.cons.injEq,
    Nat.shiftRight_eq_div_pow] at bytes
  omega

theorem v4Text_point (n : Nat) : '.' ∈ (v4Text n).toList := by
  simp [v4Text, String.toList_append]

theorem not_mem_v4Text {c : Char} (noDigit : isAsciiDigit c = false) (noPoint : c ≠ '.') (n : Nat) :
    c ∉ (v4Text n).toList := by
  intro member
  rw [v4Text_chars] at member
  rcases mem_intercalate member with same | ⟨piece, listed, inside⟩
  · exact noPoint same
  · obtain ⟨byte, -, rfl⟩ := List.mem_map.mp listed
    exact not_mem_toDigits noDigit byte inside

/-! Hexadecimal groups between colons. -/

theorem digitChar_injective :
    ∀ one < 16, ∀ other < 16, Nat.digitChar one = Nat.digitChar other → one = other := by
  decide

theorem hexValue_digitChar : ∀ digit < 16, hexValue? (Nat.digitChar digit) = some digit := by
  decide

theorem hexChars_ne_nil (n : Nat) : hexChars n ≠ [] := Nat.toDigits_ne_nil

theorem hexChars_injective : Function.Injective hexChars := by
  intro one
  induction one using Nat.strong_induction_on with
  | _ one ih =>
      intro other same
      unfold hexChars at same
      rcases Nat.lt_or_ge one 16 with short | long <;>
        rcases Nat.lt_or_ge other 16 with otherShort | otherLong
      · rw [Nat.toDigits_of_lt_base short, Nat.toDigits_of_lt_base otherShort,
          List.singleton_inj] at same
        exact digitChar_injective one short other otherShort same
      · rw [Nat.toDigits_of_lt_base short, Nat.toDigits_of_base_le (by decide) otherLong,
          ← List.nil_append [one.digitChar]] at same
        cases Nat.toDigits_ne_nil (List.append_inj' same rfl).1.symm
      · rw [Nat.toDigits_of_lt_base otherShort, Nat.toDigits_of_base_le (by decide) long,
          ← List.nil_append [other.digitChar]] at same
        cases Nat.toDigits_ne_nil (List.append_inj' same rfl).1
      · rw [Nat.toDigits_of_base_le (by decide) long,
          Nat.toDigits_of_base_le (by decide) otherLong] at same
        obtain ⟨front, last⟩ := List.append_inj' same rfl
        have high := ih (one / 16) (Nat.div_lt_self (by omega) (by decide)) front
        have low := digitChar_injective _ (Nat.mod_lt _ (by decide)) _ (Nat.mod_lt _ (by decide))
          (List.singleton_inj.mp last)
        omega

theorem hexValue_of_mem {c : Char} {n : Nat} (member : c ∈ hexChars n) :
    (hexValue? c).isSome = true := by
  induction n using Nat.strong_induction_on with
  | _ n ih =>
      unfold hexChars at member ih
      rcases Nat.lt_or_ge n 16 with short | long
      · rw [Nat.toDigits_of_lt_base short, List.mem_singleton] at member
        rw [member, hexValue_digitChar n short]
        rfl
      · rw [Nat.toDigits_of_base_le (by decide) long, List.mem_append, List.mem_singleton] at member
        rcases member with front | last
        · exact ih (n / 16) (Nat.div_lt_self (by omega) (by decide)) front
        · rw [last, hexValue_digitChar _ (Nat.mod_lt n (by decide))]
          rfl

theorem not_mem_hexChars {c : Char} (other : hexValue? c = none) (n : Nat) : c ∉ hexChars n := by
  intro member
  have digit := hexValue_of_mem member
  rw [other] at digit
  cases digit

theorem groupsText_chars (groups : List Nat) :
    (groupsText groups).toList = [':'].intercalate (groups.map hexChars) := by
  rw [groupsText, String.toList_intercalate, List.map_map]
  simp [Function.comp_def]

/-- What stands between colons; no groups leave one empty piece. -/
def piecesOf (groups : List Nat) : List (List Char) :=
  if groups = [] then [[]] else groups.map hexChars

theorem groupsText_split (groups : List Nat) :
    (groupsText groups).toList.splitOn ':' = piecesOf groups := by
  rw [groupsText_chars, piecesOf]
  split
  · rename_i none
    subst none
    rfl
  · rename_i some
    refine List.splitOn_intercalate ':' ?_ (by simpa using some)
    intro piece member
    obtain ⟨group, -, rfl⟩ := List.mem_map.mp member
    exact not_mem_hexChars rfl group

theorem split_double_colon (front back : String) :
    (front ++ "::" ++ back).toList.splitOn ':' =
      front.toList.splitOn ':' ++ [] :: back.toList.splitOn ':' := by
  have chars : (front ++ "::" ++ back).toList = front.toList ++ ':' :: ([] ++ ':' :: back.toList) := by
    simp [String.toList_append]
  unfold List.splitOn
  rw [chars, List.splitOnP_append_cons _ _ rfl, List.splitOnP_append_cons _ _ rfl]
  rfl

/-- The pieces up to the first empty one are those of the groups before it. -/
theorem takeWhile_pieces (groups : List Nat) (rest : List (List Char)) :
    (piecesOf groups ++ [] :: rest).takeWhile (!·.isEmpty) = groups.map hexChars := by
  unfold piecesOf
  split
  · rename_i none
    subst none
    rfl
  · rw [List.takeWhile_append_of_pos]
    · simp
    · intro piece member
      obtain ⟨group, -, rfl⟩ := List.mem_map.mp member
      simpa using hexChars_ne_nil group

theorem pieces_reverse (groups : List Nat) : (piecesOf groups).reverse = piecesOf groups.reverse := by
  unfold piecesOf
  rw [apply_ite List.reverse]
  simp only [List.reverse_eq_nil_iff, List.map_reverse]
  rfl

theorem groups_before {front back front' back' : List Nat}
    (same : piecesOf front ++ [] :: piecesOf back = piecesOf front' ++ [] :: piecesOf back') :
    front = front' := by
  have taken := congrArg (List.takeWhile (!·.isEmpty)) same
  rw [takeWhile_pieces, takeWhile_pieces] at taken
  exact hexChars_injective.list_map taken

theorem groups_around {front back front' back' : List Nat}
    (same : piecesOf front ++ [] :: piecesOf back = piecesOf front' ++ [] :: piecesOf back') :
    front = front' ∧ back = back' := by
  have mirrored : piecesOf back.reverse ++ [] :: piecesOf front.reverse =
      piecesOf back'.reverse ++ [] :: piecesOf front'.reverse := by
    have turned := congrArg List.reverse same
    simpa [pieces_reverse] using turned
  exact ⟨groups_before same, List.reverse_injective (groups_before mirrored)⟩

/-- A longest run that is not empty lies between the groups before it and those behind it. -/
theorem longestZeros_run (groups : List Nat) (start : Nat)
    (found : 0 < (longestZeros start groups).2) :
    ∃ front back, groups = front ++ List.replicate (longestZeros start groups).2 0 ++ back ∧
      (longestZeros start groups).1 = start + front.length := by
  induction groups generalizing start with
  | nil => cases found
  | cons group rest ih =>
      unfold longestZeros at found ⊢
      dsimp only at found ⊢
      split
      · refine ⟨[], (group :: rest).dropWhile (· = 0), ?_, rfl⟩
        have zeros : (group :: rest).takeWhile (· = 0) =
            List.replicate ((group :: rest).takeWhile (· = 0)).length 0 :=
          List.eq_replicate_of_mem fun number member => by
            simpa using List.mem_takeWhile_imp member
        rw [List.nil_append, ← zeros, List.takeWhile_append_dropWhile]
      · rename_i longer
        rw [if_neg longer] at found
        obtain ⟨front, back, parts, begins⟩ := ih (start + 1) found
        refine ⟨group :: front, back, congrArg (group :: ·) parts, ?_⟩
        rw [begins, List.length_cons]
        omega

/-- The text of an IPv6 address that carries no IPv4 address, cut at its colons. -/
inductive Cut (groups : List Nat) : List (List Char) → Prop where
  | whole : Cut groups (groups.map hexChars)
  | shortened (front back : List Nat) (zeros : Nat) :
    groups = front ++ List.replicate zeros 0 ++ back →
    Cut groups (piecesOf front ++ [] :: piecesOf back)

theorem v6Text_cut {n : Nat} (plain : n >>> 32 ≠ 0xffff) :
    Cut (groupsOf n) ((v6Text n).toList.splitOn ':') := by
  unfold v6Text
  rw [if_neg plain]
  dsimp only
  split
  · rename_i long
    obtain ⟨front, back, parts, begins⟩ := longestZeros_run (groupsOf n) 0 (by omega)
    rw [Nat.zero_add] at begins
    have before : (groupsOf n).take (longestZeros 0 (groupsOf n)).1 = front := by
      rw [begins]
      conv => lhs; rw [parts]
      simp
    have behind : (groupsOf n).drop
        ((longestZeros 0 (groupsOf n)).1 + (longestZeros 0 (groupsOf n)).2) = back := by
      rw [begins]
      generalize (longestZeros 0 (groupsOf n)).2 = zeros at parts ⊢
      rw [parts, List.drop_left' (by simp)]
    rw [split_double_colon, groupsText_split, groupsText_split, before, behind]
    exact .shortened front back _ parts
  · rw [groupsText_split]
    exact .whole

theorem cut_unique {one other : List Nat} {pieces : List (List Char)} (cut : Cut one pieces)
    (otherCut : Cut other pieces) (alike : one.length = other.length) : one = other := by
  -- A piece is empty just where groups have been left out.
  have filled : ∀ groups : List Nat, [] ∉ groups.map hexChars := by
    intro groups member
    obtain ⟨group, -, empty⟩ := List.mem_map.mp member
    exact hexChars_ne_nil group empty
  generalize same : pieces = others at otherCut
  cases cut with
  | whole =>
      cases otherCut with
      | whole => exact hexChars_injective.list_map same
      | shortened front back zeros parts =>
          exact absurd (same ▸ List.mem_append_right _ List.mem_cons_self) (filled one)
  | shortened front back zeros parts =>
      cases otherCut with
      | whole =>
          exact absurd (same ▸ List.mem_append_right _ List.mem_cons_self) (filled other)
      | shortened front' back' zeros' parts' =>
          obtain ⟨rfl, rfl⟩ := groups_around same
          rw [parts, parts'] at alike ⊢
          simp only [List.length_append, List.length_replicate] at alike
          have count : zeros = zeros' := by omega
          rw [count]

theorem groupsOf_length (n : Nat) : (groupsOf n).length = 8 := by
  rw [groupsOf, List.length_map]
  rfl

theorem shifted_eq (shift : Nat) {one other : Nat}
    (high : one >>> (shift + 16) = other >>> (shift + 16))
    (low : (one >>> shift) % 65536 = (other >>> shift) % 65536) :
    one >>> shift = other >>> shift := by
  rw [Nat.shiftRight_add, Nat.shiftRight_add, Nat.shiftRight_eq_div_pow _ 16,
    Nat.shiftRight_eq_div_pow _ 16] at high
  omega

theorem groupsOf_injective {one other : Nat} (bounded : one < 2 ^ 128) (otherBounded : other < 2 ^ 128)
    (same : groupsOf one = groupsOf other) : one = other := by
  simp only [groupsOf, List.map_cons, List.map_nil, List.cons.injEq] at same
  obtain ⟨first, second, third, fourth, fifth, sixth, seventh, eighth, -⟩ := same
  -- Nothing is left above all groups, and each group adds its bits to those above it.
  have none : one >>> (112 + 16) = other >>> (112 + 16) := by
    rw [Nat.shiftRight_eq_zero _ _ bounded, Nat.shiftRight_eq_zero _ _ otherBounded]
  have half : one >>> 64 = other >>> 64 :=
    shifted_eq 64 (shifted_eq 80 (shifted_eq 96 (shifted_eq 112 none first) second) third) fourth
  exact shifted_eq 0 (shifted_eq 16 (shifted_eq 32 (shifted_eq 48 half fifth) sixth) seventh) eighth

theorem hexValue_of_cut {groups : List Nat} {pieces : List (List Char)} (cut : Cut groups pieces)
    {piece : List Char} (listed : piece ∈ pieces) {c : Char} (inside : c ∈ piece) :
    (hexValue? c).isSome = true := by
  have digits : ∀ groups : List Nat, piece ∈ groups.map hexChars → (hexValue? c).isSome = true := by
    intro groups member
    obtain ⟨group, -, rfl⟩ := List.mem_map.mp member
    exact hexValue_of_mem inside
  have side : ∀ groups : List Nat, piece ∈ piecesOf groups → (hexValue? c).isSome = true := by
    intro groups member
    unfold piecesOf at member
    split at member
    · rw [List.mem_singleton.mp member] at inside
      cases inside
    · exact digits groups member
  cases cut with
  | whole => exact digits groups listed
  | shortened front back zeros parts =>
      rcases List.mem_append.mp listed with before | between
      · exact side front before
      · rcases List.mem_cons.mp between with rfl | behind
        · cases inside
        · exact side back behind

theorem v6Text_digits {n : Nat} (plain : n >>> 32 ≠ 0xffff) {c : Char}
    (member : c ∈ (v6Text n).toList) : c = ':' ∨ (hexValue? c).isSome = true := by
  have whole : [':'].intercalate ((v6Text n).toList.splitOn ':') = (v6Text n).toList :=
    List.intercalate_splitOn ':'
  rw [← whole] at member
  refine (mem_intercalate member).imp_right ?_
  rintro ⟨piece, listed, inside⟩
  exact hexValue_of_cut (v6Text_cut plain) listed inside

theorem v6Text_no_point {n : Nat} (plain : n >>> 32 ≠ 0xffff) : '.' ∉ (v6Text n).toList := by
  intro member
  rcases v6Text_digits plain member with same | digit
  · cases same
  · cases digit

theorem v6Text_carrying {n : Nat} (carries : n >>> 32 = 0xffff) :
    v6Text n = "::ffff:" ++ v4Text n := if_pos carries

theorem v6Text_injective {one other : Nat} (bounded : one < 2 ^ 128)
    (otherBounded : other < 2 ^ 128) (same : v6Text one = v6Text other) : one = other := by
  have pointed : ∀ n, n >>> 32 = 0xffff → '.' ∈ (v6Text n).toList := by
    intro n carries
    rw [v6Text_carrying carries, String.toList_append]
    exact List.mem_append_right _ (v4Text_point n)
  by_cases carries : one >>> 32 = 0xffff <;> by_cases otherCarries : other >>> 32 = 0xffff
  · rw [v6Text_carrying carries, v6Text_carrying otherCarries] at same
    have low := v4Text_low (String.append_right_inj _ |>.mp same)
    rw [Nat.shiftRight_eq_div_pow] at carries otherCarries
    omega
  · exact absurd (same ▸ pointed one carries) (v6Text_no_point otherCarries)
  · exact absurd (same ▸ pointed other otherCarries) (v6Text_no_point carries)
  · have cut := v6Text_cut carries
    rw [same] at cut
    have groups := cut_unique cut (v6Text_cut otherCarries)
      ((groupsOf_length one).trans (groupsOf_length other).symm)
    exact groupsOf_injective bounded otherBounded groups

namespace Address

theorem v4_text_ne_v6 (bits : BitVec 32) (other : BitVec 128) :
    (Address.v4 bits).text ≠ (Address.v6 other).text := by
  change v4Text bits.toNat ≠ v6Text other.toNat
  intro same
  by_cases carries : other.toNat >>> 32 = 0xffff
  · have colon : ':' ∈ (v6Text other.toNat).toList := by
      simp [v6Text_carrying carries, String.toList_append]
    rw [← same] at colon
    exact not_mem_v4Text rfl (by decide) bits.toNat colon
  · have point := v4Text_point bits.toNat
    rw [same] at point
    exact v6Text_no_point carries point

/-- Addresses with the same text are the same. -/
theorem text_injective : Function.Injective text := by
  intro one other same
  cases one with
  | v4 bits =>
      cases other with
      | v4 bits' =>
          have low := v4Text_low same
          rw [Nat.mod_eq_of_lt bits.isLt, Nat.mod_eq_of_lt bits'.isLt] at low
          exact congrArg v4 (BitVec.eq_of_toNat_eq low)
      | v6 bits' => exact absurd same (v4_text_ne_v6 bits bits')
  | v6 bits =>
      cases other with
      | v4 bits' => exact absurd same.symm (v4_text_ne_v6 bits' bits)
      | v6 bits' =>
          exact congrArg v6 (BitVec.eq_of_toNat_eq (v6Text_injective bits.isLt bits'.isLt same))

/-- What stands for clients without an address is the text of none. -/
theorem text_ne_unknown (address : Address) : address.text ≠ "unknown" := by
  intro same
  have letter : 'k' ∈ address.text.toList := by
    rw [same]
    decide
  cases address with
  | v4 bits => exact not_mem_v4Text rfl (by decide) bits.toNat letter
  | v6 bits =>
      by_cases carries : bits.toNat >>> 32 = 0xffff
      · rw [text, v6Text_carrying carries, String.toList_append, List.mem_append] at letter
        exact letter.elim (by decide) (not_mem_v4Text rfl (by decide) bits.toNat)
      · rcases v6Text_digits carries letter with same | digit
        · cases same
        · cases digit

end Address

end SecretBroker.Net
