import Mathlib.Order.Nat
import SecretBroker.Proofs.AllowlistRefreshes

/-!
Whom a list of networks lets in. An address that stands in the list by itself is a network of its
own, and an address inside a listed network gets in. Clients are known by the canonical form of
their address: an IPv4 address carried in IPv6 gets in by the IPv4 networks and by no other.
-/

namespace SecretBroker.Net

open SecretBroker.Text

/-- The rest is what is left of the input when a front without a slash is passed over. -/
def Passes (input rest : List Char) : Prop := ∃ front, '/' ∉ front ∧ input = front ++ rest

namespace Passes

variable {input between rest : List Char}

theorem none (input : List Char) : Passes input input := ⟨[], nofun, rfl⟩

theorem one {c : Char} (differs : '/' ≠ c) (rest : List Char) : Passes (c :: rest) rest :=
  ⟨[c], fun slash => differs (List.mem_singleton.mp slash), rfl⟩

theorem trans (first : Passes input between) (second : Passes between rest) :
    Passes input rest := by
  obtain ⟨front, clear, rfl⟩ := first
  obtain ⟨middle, empty, rfl⟩ := second
  refine ⟨front ++ middle, fun slash => ?_, (List.append_assoc ..).symm⟩
  exact (List.mem_append.mp slash).elim clear empty

theorem whole (passes : Passes input []) : '/' ∉ input := by
  obtain ⟨front, clear, rfl⟩ := passes
  rwa [List.append_nil]

theorem subset (passes : Passes input rest) : rest ⊆ input := by
  obtain ⟨front, -, rfl⟩ := passes
  exact List.subset_append_right front rest

end Passes

/-! The readers of addresses pass over no slash. -/

section Readers

variable {input rest : List Char} {number : Nat}

theorem takeBase_passes (base : Nat) (input : List Char) :
    Passes input (takeBase base input).2 := by
  induction input with
  | nil => exact .none []
  | cons c tail ih =>
      unfold takeBase
      split
      · rename_i digit valued
        have differs : '/' ≠ c := by
          rintro rfl
          cases valued
        split
        · exact (Passes.one differs tail).trans ih
        · exact .none _
      · exact .none _

theorem octet_passes (read : octet? input = some (number, rest)) : Passes input rest := by
  have passes := takeBase_passes 10 input
  unfold octet? at read
  split at read
  · cases read
  · cases read
  · rename_i digits after taken
    rw [taken] at passes
    split at read
    · cases read
      exact passes
    · cases read

theorem group_passes (read : group? input = some (number, rest)) : Passes input rest := by
  have passes := takeBase_passes 16 input
  unfold group? at read
  split at read
  · cases read
  · rename_i digits after taken
    rw [taken] at passes
    split at read
    · cases read
      exact passes
    · cases read

theorem char_read {c : Char} (read : char? c input = some rest) : input = c :: rest := by
  cases input with
  | nil => cases read
  | cons d tail =>
      rw [char?] at read
      split at read
      · rename_i same
        cases read
        rw [same]
      · cases read

theorem char_passes {c : Char} (differs : '/' ≠ c) (read : char? c input = some rest) :
    Passes input rest :=
  char_read read ▸ .one differs rest

theorem v4Prefix_passes (read : v4Prefix? input = some (number, rest)) : Passes input rest := by
  simp only [v4Prefix?, Option.bind_eq_bind, Option.bind_eq_some_iff, Option.some.injEq,
    Prod.mk.injEq, Prod.exists] at read
  obtain ⟨a, one, first, _, pointed, b, two, second, _, pointedAgain, c, three, third, _,
    pointedLast, d, four, fourth, _, rfl⟩ := read
  have point : '/' ≠ '.' := by decide
  exact (octet_passes first).trans <| (char_passes point pointed).trans <|
    (octet_passes second).trans <| (char_passes point pointedAgain).trans <|
    (octet_passes third).trans <| (char_passes point pointedLast).trans (octet_passes fourth)

theorem groups_passes (first : Bool) (limit : Nat) (input : List Char) :
    Passes input (groups first limit input).2.2 := by
  -- The induction is on the number of groups that may still come.
  induction limit generalizing first input with
  | zero => exact .none input
  | succ limit ih =>
      unfold groups
      split
      · exact .none input
      · rename_i start begun
        have colon : Passes input start := by
          split at begun
          · exact Option.some.inj begun ▸ .none input
          · exact char_passes (by decide) begun
        split
        · rename_i number rest embedded
          split at embedded
          · exact colon.trans (v4Prefix_passes embedded)
          · cases embedded
        · split
          · exact .none input
          · rename_i number rest grouped
            exact colon.trans ((group_passes grouped).trans (ih false rest))

theorem v4_passes {bits : BitVec 32} (read : v4? input = some bits) : Passes input [] := by
  unfold v4? at read
  split at read
  · rename_i number ended
    exact v4Prefix_passes ended
  · cases read

theorem v6_passes {bits : BitVec 128} (read : v6? input = some bits) : Passes input [] := by
  have passes := groups_passes true 8 input
  unfold v6? at read
  split at read
  rename_i head mapped rest found
  rw [found] at passes
  split at read
  · split at read
    · rename_i ended
      exact List.isEmpty_iff.mp ended ▸ passes
    · cases read
  · split at read
    · cases read
    · split at read
      · rename_i behind
        have colons : Passes (':' :: ':' :: behind) behind :=
          (Passes.one (by decide) _).trans (.one (by decide) behind)
        have last := groups_passes true (7 - head.length) behind
        split at read
        rename_i tail _ remainder followed
        rw [followed] at last
        split at read
        · rename_i ended
          exact List.isEmpty_iff.mp ended ▸ (passes.trans (colons.trans last))
        · cases read
      · cases read

theorem read_slash {text : String} {address : Address} (read : Address.read text = some address) :
    '/' ∉ text.toList := by
  unfold Address.read Address.ofChars? at read
  split at read
  · rename_i bits isFour
    exact (v4_passes isFour).whole
  · obtain ⟨bits, isSix, -⟩ := Option.map_eq_some_iff.mp read
    exact (v6_passes isSix).whole

/-- An IPv4 address has a point. -/
theorem v4_point {bits : BitVec 32} (read : v4? input = some bits) : '.' ∈ input := by
  unfold v4? at read
  split at read
  · rename_i number ended
    simp only [v4Prefix?, Option.bind_eq_bind, Option.bind_eq_some_iff, Prod.exists] at ended
    obtain ⟨a, behind, first, _, pointed, -⟩ := ended
    exact (octet_passes first).subset (char_read pointed ▸ List.mem_cons_self)
  · cases read

end Readers

theorem splitChars_whole {separator : Char} (text : List Char) (apart : separator ∉ text) :
    splitChars separator text = [text] := by
  induction text with
  | nil => rfl
  | cons c rest ih =>
      rw [splitChars, ih (mt (List.mem_cons_of_mem c) apart)]
      exact if_neg fun same => apart (List.mem_cons.mpr (.inl same.symm))

theorem splitChars_append {separator : Char} {front : List Char} (apart : separator ∉ front)
    (rest : List Char) :
    splitChars separator (front ++ separator :: rest) = front :: splitChars separator rest := by
  induction front with
  | nil =>
      rw [List.nil_append, splitChars]
      cases behind : splitChars separator rest with
      | nil => cases splitChars_ne_nil separator rest behind
      | cons piece pieces => exact if_pos rfl
  | cons c front ih =>
      rw [List.cons_append, splitChars, ih (mt (List.mem_cons_of_mem c) apart)]
      exact if_neg fun same => apart (List.mem_cons.mpr (.inl same.symm))

/-! A length behind a slash is a decimal number, and no mask, since a mask has points. -/

theorem digitsUpTo_digits {bound : Nat} {digits : List Char} {start : Nat}
    (numeric : ∀ c ∈ digits, isAsciiDigit c = true)
    (fits : Nat.ofDigitChars 10 digits start ≤ bound) :
    digitsUpTo bound digits start = .ok (Nat.ofDigitChars 10 digits start) := by
  induction digits generalizing start with
  | nil => rfl
  | cons c digits ih =>
      rw [Nat.ofDigitChars_cons, Nat.mul_comm] at fits ⊢
      have grown : start * 10 + (c.toNat - '0'.toNat) ≤ bound := by
        rw [Nat.ofDigitChars_eq_ofDigitChars_zero] at fits
        exact (Nat.le_mul_of_pos_left _ (Nat.pow_pos (by decide))).trans
          ((Nat.le_add_right _ _).trans fits)
      rw [digitsUpTo, if_pos (numeric c List.mem_cons_self)]
      exact (if_pos grown).trans (ih (fun d later => numeric d (List.mem_cons_of_mem c later)) fits)

theorem not_mem_toDigits {c : Char} (other : isAsciiDigit c = false) (number : Nat) :
    c ∉ Nat.toDigits 10 number := by
  intro member
  cases other.symm.trans (isAsciiDigit_of_mem_toDigits member)

theorem unsignedChars_toDigits {bound number : Nat} (fits : number ≤ bound) :
    unsignedChars bound (Nat.toDigits 10 number) = .ok number := by
  have value : Nat.ofDigitChars 10 (Nat.toDigits 10 number) 0 = number :=
    Nat.ofDigitChars_ten_toDigits
  have read : digitsUpTo bound (Nat.toDigits 10 number) 0 = .ok number :=
    (digitsUpTo_digits (fun _ => isAsciiDigit_of_mem_toDigits) (value.le.trans fits)).trans
      (congrArg _ value)
  have unsigned := not_mem_toDigits (c := '+') rfl number
  unfold unsignedChars
  split
  · rename_i nothing
    cases Nat.toDigits_ne_nil nothing
  · rename_i signed
    exact (unsigned (signed ▸ List.mem_cons_self)).elim
  · rename_i digits signed
    exact (unsigned (signed ▸ List.mem_cons_self)).elim
  · exact read

namespace Network

/-- The network of the addresses that begin with the same bits as one. -/
def around (length : Nat) : Address → Network
  | .v4 bits => .v4 bits length
  | .v6 bits => .v6 bits length

def width : Address → Nat
  | .v4 _ => 32
  | .v6 _ => 128

/-- The network of one address. -/
def host (address : Address) : Network := around (width address) address

theorem around_spans (length : Nat) (address : Address) :
    (around length address).Spans address := by
  cases address with
  | v4 bits => exact fun _ _ => rfl
  | v6 bits => exact fun _ _ => rfl

theorem lengthUpTo_toDigits {bound number : Nat} (fits : number ≤ bound) (small : bound ≤ 255) :
    lengthUpTo? bound (Nat.toDigits 10 number) = some number := by
  rw [lengthUpTo?, unsignedChars_toDigits (fits.trans small)]
  exact if_pos fits

/-- An address with a slash and a length behind it is read as the network of that length. -/
theorem read_around {source : String} {address : Address} {length : Nat}
    (bare : Address.read source = some address) (fits : length ≤ width address) :
    read (source ++ "/" ++ Nat.repr length) = some (around length address) := by
  have apart := read_slash bare
  have divided : sides? (source ++ "/" ++ Nat.repr length).toList =
      some (source.toList, some (Nat.toDigits 10 length)) := by
    have chars : (source ++ "/" ++ Nat.repr length).toList =
        source.toList ++ '/' :: Nat.toDigits 10 length := by
      simp [String.toList_append, Nat.toList_repr]
    rw [sides?, chars, splitChars_append apart,
      splitChars_whole _ (not_mem_toDigits rfl length)]
  have unmasked : v4? (Nat.toDigits 10 length) = none := by
    rw [Option.eq_none_iff_forall_ne_some]
    intro mask masked
    exact not_mem_toDigits rfl length (v4_point masked)
  unfold Address.read Address.ofChars? at bare
  rw [read, ofChars?, divided]
  cases isFour : v4? source.toList with
  | some bits =>
      rw [isFour] at bare
      cases bare
      simp only [Option.bind_eq_bind, Option.bind_some, isFour, unmasked,
        lengthUpTo_toDigits (show length ≤ 32 from fits) (by decide)]
      rfl
  | none =>
      rw [isFour] at bare
      obtain ⟨bits, isSix, rfl⟩ := Option.map_eq_some_iff.mp bare
      simp only [Option.bind_eq_bind, Option.bind_some, isFour, isSix,
        lengthUpTo_toDigits (show length ≤ 128 from fits) (by decide)]
      rfl

/-- An address by itself is read as the network that has no other. -/
theorem read_address {text : String} {address : Address} (bare : Address.read text = some address) :
    read text = some (host address) := by
  have undivided : sides? text.toList = some (text.toList, none) := by
    rw [sides?, splitChars_whole _ (read_slash bare)]
  unfold Address.read Address.ofChars? at bare
  rw [read, ofChars?, undivided]
  cases isFour : v4? text.toList with
  | some bits =>
      rw [isFour] at bare
      cases bare
      simp only [Option.bind_eq_bind, Option.bind_some, isFour]
      rfl
  | none =>
      rw [isFour] at bare
      obtain ⟨bits, isSix, rfl⟩ := Option.map_eq_some_iff.mp bare
      simp only [Option.bind_eq_bind, Option.bind_some, isFour, isSix]
      rfl

theorem mem_of_mapM {α β fault : Type} {f : α → Except fault β} {items : List α}
    {results : List β} (accepted : items.mapM f = .ok results) {item : α} (listed : item ∈ items) :
    ∃ result ∈ results, f item = .ok result := by
  induction items generalizing results with
  | nil => cases listed
  | cons head tail ih =>
      rw [List.mapM_cons] at accepted
      cases first : f head with
      | error fault =>
          rw [first] at accepted
          cases accepted
      | ok result =>
          cases others : tail.mapM f with
          | error fault =>
              rw [first, others] at accepted
              cases accepted
          | ok later =>
              rw [first, others] at accepted
              cases accepted
              rcases List.mem_cons.mp listed with rfl | behind
              · exact ⟨result, List.mem_cons_self, first⟩
              · obtain ⟨found, member, told⟩ := ih others behind
                exact ⟨found, List.mem_cons_of_mem _ member, told⟩

/-- An accepted text has no item that gives no network. -/
theorem mem_of_readList {text item : String} {networks : List Network}
    (accepted : readList text = .ok networks) (listed : item ∈ commaList text) :
    ∃ network ∈ networks, read item = some network := by
  obtain ⟨network, member, told⟩ := mem_of_mapM accepted listed
  cases found : read item with
  | none =>
      rw [found] at told
      cases told
  | some first =>
      rw [found] at told
      cases told
      exact ⟨network, member, rfl⟩

end Network

/-- The address is an IPv6 address that carries an IPv4 address. -/
def Address.Carried (address : Address) : Prop := ∃ bits, address = .carrying bits

theorem Address.canonical_of_uncarried {address : Address} (uncarried : ¬ address.Carried) :
    address.canonical = address := by
  cases address with
  | v4 bits => rfl
  | v6 bits =>
      refine if_neg fun mapped => uncarried ⟨bits.setWidth 32, congrArg Address.v6 ?_⟩
      apply BitVec.eq_of_toNat_eq
      have high := congrArg BitVec.toNat mapped
      rw [BitVec.toNat_ushiftRight, Nat.shiftRight_eq_div_pow] at high
      rw [BitVec.toNat_append, BitVec.toNat_setWidth,
        ← Nat.shiftLeft_add_eq_or_of_lt (Nat.mod_lt _ (Nat.two_pow_pos 32)), Nat.shiftLeft_eq,
        Nat.mul_comm, show (65535#96).toNat = bits.toNat / 2 ^ 32 from high.symm,
        Nat.div_add_mod]

end SecretBroker.Net

namespace SecretBroker.Allowlist

open SecretBroker.Net SecretBroker.Text

/-- Whoever is, in canonical form, inside a listed network gets in: IPv4 addresses by the IPv4
networks, also where IPv6 carries them, and the other IPv6 addresses by the IPv6 networks. The
networks are those that the items of the text write out, each of its address and its length. -/
theorem listed_addresses_admitted (text : String) (networks : List Network)
    (accepted : Network.readList text = .ok networks) (enabled : Bool) (ranges : List Network) :
    let list := (Allowlist.new networks enabled).replacePublished ranges
    (∀ network ∈ networks, ∀ address : Address, network.Spans address.canonical →
      list.admits address = true) ∧
    (∀ network ∈ networks, ∀ address : Address, network.Spans address → ¬ address.Carried →
      list.admits address = true) ∧
    (∀ network ∈ networks, ∀ bits : BitVec 32, network.Spans (.v4 bits) →
      list.admits (.carrying bits) = true) ∧
    (∀ item ∈ commaList text, ∃ network ∈ networks, Network.read item = some network) ∧
    ∀ source address, Address.read source = some address →
      (∀ length ≤ Network.width address, source ++ "/" ++ Nat.repr length ∈ commaList text →
        Network.around length address ∈ networks) ∧
      (source ∈ commaList text → Network.host address ∈ networks ∧
        (¬ address.Carried → list.admits address = true)) := by
  intro list
  have inside : ∀ network ∈ networks, ∀ address : Address, network.Spans address.canonical →
      list.admits address = true := by
    intro network listed address spans
    exact (admits_iff list address).mpr (.inr (.inl ⟨network, listed, spans⟩))
  have uncarried : ∀ network ∈ networks, ∀ address : Address, network.Spans address →
      ¬ address.Carried → list.admits address = true := by
    intro network listed address spans plain
    refine inside network listed address ?_
    rw [Address.canonical_of_uncarried plain]
    exact spans
  have carried : ∀ network ∈ networks, ∀ bits : BitVec 32, network.Spans (.v4 bits) →
      list.admits (.carrying bits) = true := by
    intro network listed bits spans
    refine inside network listed _ ?_
    rw [Address.canonical_carrying]
    exact spans
  have written : ∀ item ∈ commaList text, ∀ network, Network.read item = some network →
      network ∈ networks := by
    intro item listed network read
    obtain ⟨found, member, told⟩ := Network.mem_of_readList accepted listed
    exact Option.some.inj (told.symm.trans read) ▸ member
  refine ⟨inside, uncarried, carried, fun item => Network.mem_of_readList accepted, ?_⟩
  intro source address bare
  constructor
  · intro length fits listed
    exact written _ listed _ (Network.read_around bare fits)
  · intro listed
    have member := written _ listed _ (Network.read_address bare)
    exact ⟨member, uncarried _ member address (Network.around_spans _ address)⟩

/-- The list of one network with a length and one address by itself lets in an address inside the
network, also carried in IPv6, and that address. -/
theorem office_addresses_admitted :
    Network.readList "10.0.0.0/8, 2001:db8::1" =
        .ok [.v4 0x0a000000#32 8, .v6 0x20010db8000000000000000000000001#128 128] ∧
      Address.read "2001:db8::1" = some (.v6 0x20010db8000000000000000000000001#128) ∧
      ∀ enabled ranges,
        let list := (Allowlist.new
          [.v4 0x0a000000#32 8, .v6 0x20010db8000000000000000000000001#128 128]
          enabled).replacePublished ranges
        list.admits (.v4 0x0a000005#32) = true ∧ list.admits (.carrying 0x0a000005#32) = true ∧
          list.admits (.v6 0x20010db8000000000000000000000001#128) = true := by
  have accepted : Network.readList "10.0.0.0/8, 2001:db8::1" =
      .ok [.v4 0x0a000000#32 8, .v6 0x20010db8000000000000000000000001#128 128] := by
    decide +kernel
  have bare : Address.read "2001:db8::1" =
      some (.v6 0x20010db8000000000000000000000001#128) := by decide +kernel
  refine ⟨accepted, bare, fun enabled ranges => ?_⟩
  obtain ⟨inside, -, carried, -, written⟩ :=
    listed_addresses_admitted _ _ accepted enabled ranges
  have spanned : (Network.v4 0x0a000000#32 8).Spans (.v4 0x0a000005#32) :=
    (Network.contains_iff _ _).mp (by decide)
  have item : "2001:db8::1" ∈ commaList "10.0.0.0/8, 2001:db8::1" := by decide +kernel
  refine ⟨inside _ List.mem_cons_self _ spanned, carried _ List.mem_cons_self _ spanned,
    ((written _ _ bare).2 item).2 ?_⟩
  rintro ⟨bits, same⟩
  have canonical := congrArg Address.canonical same
  rw [Address.canonical_carrying] at canonical
  have six : (Address.v6 0x20010db8000000000000000000000001#128).canonical =
      .v6 0x20010db8000000000000000000000001#128 := by decide
  cases six.symm.trans canonical

/-- The network of all IPv6 addresses does not let in an IPv4 address that IPv6 carries: such an
address is looked for among the IPv4 networks. -/
theorem carried_address_turned_away :
    Network.readList "::/0" = .ok [.v6 0 0] ∧
      Address.read "::ffff:10.0.0.5" = some (.carrying 0x0a000005#32) ∧
      (Network.v6 0 0).Spans (.carrying 0x0a000005#32) ∧
      (Allowlist.new [.v6 0 0] false).admits (.carrying 0x0a000005#32) = false := by
  refine ⟨by decide +kernel, by decide +kernel, fun place below => ?_, by decide +kernel⟩
  cases below

end SecretBroker.Allowlist
