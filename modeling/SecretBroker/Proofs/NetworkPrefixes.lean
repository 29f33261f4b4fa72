import SecretBroker.Net.Network

/-!
Which addresses are in a network: those of its family that begin with the same bits, as many as the
network's length says, whatever its base has behind them. An IPv4 address carried in IPv6 is, in
canonical form, that IPv4 address.
-/

namespace SecretBroker.Net

/-- Two words begin with the same bits. -/
def BeginAlike {width : Nat} (length : Nat) (one other : BitVec width) : Prop :=
  ∀ place < length, one.getMsbD place = other.getMsbD place

theorem shifted_iff {width : Nat} (length : Nat) (one other : BitVec width) :
    one >>> (width - length) = other >>> (width - length) ↔ BeginAlike length one other := by
  constructor
  · intro same place inside
    by_cases fits : place < width
    · -- The bit has moved to the right by as much as was shifted out.
      have moved := congrArg (fun word => word.getMsbD (place + (width - length))) same
      have reached : place + (width - length) < width := by omega
      have behind : ¬ place + (width - length) < width - length := by omega
      simpa [BitVec.getMsbD_ushiftRight, reached, behind] using moved
    · rw [BitVec.getMsbD_of_ge _ _ (Nat.le_of_not_lt fits),
        BitVec.getMsbD_of_ge _ _ (Nat.le_of_not_lt fits)]
  · intro alike
    apply BitVec.eq_of_getMsbD_eq
    intro place fits
    rw [BitVec.getMsbD_ushiftRight, BitVec.getMsbD_ushiftRight]
    by_cases vacant : place < width - length
    · simp [vacant]
    · rw [alike (place - (width - length)) (by omega)]

namespace Network

/-- An address is of the network's family and begins with the same bits. -/
def Spans : Network → Address → Prop
  | .v4 base length, .v4 bits => BeginAlike length base bits
  | .v6 base length, .v6 bits => BeginAlike length base bits
  | .v4 _ _, .v6 _ => False
  | .v6 _ _, .v4 _ => False

theorem contains_iff (network : Network) (address : Address) :
    network.contains address = true ↔ network.Spans address := by
  cases network with
  | v4 base length =>
      cases address with
      | v4 bits => exact beq_iff_eq.trans (shifted_iff length base bits)
      | v6 bits => exact Bool.false_eq_true.to_iff
  | v6 base length =>
      cases address with
      | v4 bits => exact Bool.false_eq_true.to_iff
      | v6 bits => exact beq_iff_eq.trans (shifted_iff length base bits)

theorem any_contains_iff (networks : List Network) (address : Address) :
    networks.any (·.contains address) = true ↔ ∃ network ∈ networks, network.Spans address := by
  simp only [List.any_eq_true, contains_iff]

theorem mem_readSome (texts : List String) (network : Network) :
    network ∈ readSome texts ↔ ∃ text ∈ texts, read text = some network :=
  List.mem_filterMap

end Network

namespace Address

/-- The IPv6 address that carries an IPv4 address. -/
def carrying (bits : BitVec 32) : Address := .v6 (0xffff#96 ++ bits)

theorem carrying_shifted (bits : BitVec 32) : (0xffff#96 ++ bits : BitVec 128) >>> 32 = 0xffff := by
  apply BitVec.eq_of_toNat_eq
  rw [BitVec.toNat_ushiftRight, BitVec.toNat_append, Nat.shiftRight_or_distrib,
    Nat.shiftLeft_shiftRight, Nat.shiftRight_eq_div_pow, Nat.div_eq_of_lt bits.isLt]
  rfl

theorem canonical_carrying (bits : BitVec 32) : (carrying bits).canonical = .v4 bits := by
  have low : (0xffff#96 ++ bits : BitVec 128).setWidth 32 = bits := by
    rw [BitVec.setWidth_append]
    simp
  rw [carrying, canonical, if_pos (carrying_shifted bits), low]

end Address
end SecretBroker.Net
