import MachineProvisioning.Proofs.Net.Spelling
import MachineProvisioning.Proofs.StaticIp.Validation

/-! # Notations of one subnet

The block of the leading bits of an address can be declared as a CIDR from any address in the block,
as a number of bits, and as a dotted mask when the address is of IPv4. All notations come to one
network. A dotted quad is a mask when its ones come before its zeros.
-/

namespace MachineProvisioning

namespace Net

open Text

/-- The network of the leading bits of an address: those bits, with zeros after them. -/
structure IsNetwork (address : Address) (bits : Nat) (network : Block) : Prop where
  prefixed : network.bits = bits
  family : network.base.family = address.family
  value : ∀ i, network.base.value.testBit i =
    (decide (address.family.width - bits ≤ i) && address.value.testBit i)

theorem isNetwork_network (b : Block) : IsNetwork b.base b.bits b.network :=
  ⟨rfl, rfl, b.testBit_network⟩

variable {address : Address} {bits : Nat}

theorem IsNetwork.unique {one other : Block} (first : IsNetwork address bits one)
    (second : IsNetwork address bits other) : one = other := by
  obtain ⟨⟨family, value, small⟩, ones, fits⟩ := one
  obtain ⟨⟨family', value', small'⟩, ones', fits'⟩ := other
  obtain rfl : ones = ones' := first.prefixed.trans second.prefixed.symm
  obtain rfl : family = family' := first.family.trans second.family.symm
  obtain rfl : value = value' :=
    Nat.eq_of_testBit_eq fun i => (first.value i).trans (second.value i).symm
  rfl

/-- Every address of a block has the network of the block. -/
theorem isNetwork_of_within {b network : Block} {member : Address} (within : b.Within member)
    (isNetwork : IsNetwork member b.bits network) : IsNetwork b.base b.bits network := by
  refine ⟨isNetwork.prefixed, isNetwork.family.trans within.family, fun i => ?_⟩
  rw [isNetwork.value, within.family]
  by_cases leads : b.base.family.width - b.bits ≤ i
  · rw [within.leading i leads]
  · rw [decide_eq_false leads, Bool.false_and, Bool.false_and]

/-- Addresses of one block have one network. -/
theorem network_eq_of_within {b : Block} {member : Address} (within : b.Within member)
    (fits : b.bits ≤ member.family.width) : Block.network ⟨member, b.bits, fits⟩ = b.network :=
  (isNetwork_of_within within (isNetwork_network ⟨member, b.bits, fits⟩)).unique
    (isNetwork_network b)

namespace Block

/-- The IPv4 mask of that many ones before its zeros. -/
def mask (bits : Nat) : Nat := 2 ^ 32 - 2 ^ (32 - bits)

theorem isMask_mask (fits : bits ≤ 32) : IsMask (mask bits) bits :=
  isMask_iff.mpr ⟨fits, rfl⟩

theorem quad?_mask (bits : Nat) :
    Address.quad? (Address.quadText (mask bits)).toList = some (mask bits) := by
  have small : mask bits < Nat.pow 2 32 := Nat.sub_lt (by decide) (Nat.two_pow_pos _)
  rw [Address.quad?_quadText, Nat.mod_eq_of_lt small]

end Block

theorem solid_of_quad? {cs : List Char} {value : Nat} (reads : Address.quad? cs = some value) :
    ∀ c ∈ cs, isBlank c = false := by
  have read : Address.ofChars? cs = some (Address.ofValue .v4 value) := by
    simp only [Address.ofChars?, Address.v4OfChars?, reads, Option.map_some]
  exact Address.solid_of_ofChars? read

end Net

namespace StaticIp

open Net Text
open Net.Block (IsMask)

variable {address : Address} {bits : Nat}

/-- A text for the block of the leading bits of an address, and whether it is a CIDR. -/
inductive Notates (address : Address) (bits : Nat) (fits : bits ≤ address.family.width) :
    String → Bool → Prop where
  /-- Any spelling of any address in the block. -/
  | cidr {spelled : String} {member : Address} (reads : Address.ofText? spelled = some member)
      (within : Block.Within ⟨address, bits, fits⟩ member) :
      Notates address bits fits (spelled ++ "/" ++ decimal bits) true
  | slashed : Notates address bits fits ("/" ++ decimal bits) false
  | number : Notates address bits fits (decimal bits) false
  | mask (v4 : address.family = .v4) :
      Notates address bits fits (Address.quadText (Block.mask bits)) false

theorem ofDigitChars_decimal (n : Nat) : Nat.ofDigitChars 10 (decimal n).toList 0 = n := by
  simp [toList_decimal]

variable {fits : bits ≤ address.family.width}

theorem denotes_cidr {spelled : String} {member : Address}
    (reads : Address.ofText? spelled = some member)
    (within : Block.Within ⟨address, bits, fits⟩ member) :
    Denotes address (subnetChars (spelled ++ "/" ++ decimal bits))
      (Block.network ⟨address, bits, fits⟩) true := by
  have fitsMember : bits ≤ member.family.width := by
    rw [within.family]
    exact fits
  have slash : '/' ∉ spelled.toList :=
    Address.not_mem_of_ofChars? (by decide) (by decide) (by decide) reads
  have nonempty : spelled.toList ≠ [] := by
    intro empty
    rw [Address.ofText?, empty] at reads
    cases reads
  have text : (spelled ++ "/" ++ decimal bits).toList =
      spelled.toList ++ '/' :: (decimal bits).toList := by simp
  have solid : ∀ c ∈ spelled.toList ++ '/' :: (decimal bits).toList, isBlank c = false :=
    List.forall_mem_append.mpr ⟨Address.solid_of_ofChars? reads,
      List.forall_mem_cons.mpr ⟨rfl, (isNumeral_decimal bits).solid⟩⟩
  rw [subnetChars, text, trimChars_of_solid solid, ← network_eq_of_within within fitsMember]
  exact .cidr rfl slash nonempty (Block.ofChars?_append ⟨member, bits, fitsMember⟩ slash reads)
    within.family

theorem denotes_bits {text : String}
    (whole : text.toList = (decimal bits).toList ∨ text.toList = '/' :: (decimal bits).toList) :
    Denotes address (subnetChars text) (Block.network ⟨address, bits, fits⟩) false := by
  have numeral := isNumeral_decimal bits
  have digits := numeral.solid
  have solid : ∀ c ∈ text.toList, isBlank c = false := by
    rcases whole with whole | whole
    · exact whole ▸ digits
    · exact whole ▸ List.forall_mem_cons.mpr ⟨rfl, digits⟩
  have value := ofDigitChars_decimal bits
  have least : Nat.ofDigitChars 10 (decimal bits).toList 0 ≤ address.family.width := by
    rw [value]
    exact fits
  have denotes : Denotes address text.toList
      (Block.network ⟨address, Nat.ofDigitChars 10 (decimal bits).toList 0, least⟩) false :=
    .bits whole numeral least
  rw [subnetChars, trimChars_of_solid solid]
  simpa only [value] using denotes

theorem denotes_mask (v4 : address.family = .v4) :
    Denotes address (subnetChars (Address.quadText (Block.mask bits)))
      (Block.network ⟨address, bits, fits⟩) false := by
  have reads := Block.quad?_mask bits
  have most : bits ≤ 32 := by
    rw [v4] at fits
    exact fits
  rw [subnetChars, trimChars_of_solid (solid_of_quad? reads)]
  exact .mask reads (Block.isMask_mask most) v4 fits

theorem denotes_of_notates {text : String} {explicitCidr : Bool}
    (notates : Notates address bits fits text explicitCidr) :
    Denotes address (subnetChars text) (Block.network ⟨address, bits, fits⟩) explicitCidr := by
  cases notates with
  | cidr reads within => exact denotes_cidr reads within
  | slashed => exact denotes_bits (.inr (by simp))
  | number => exact denotes_bits (.inl rfl)
  | mask v4 => exact denotes_mask v4

/-- A dotted quad that denotes a network is a mask. -/
theorem isMask_of_denotes {cs : List Char} {value : Nat} {network : Block} {explicitCidr : Bool}
    (reads : Address.quad? cs = some value) (denotes : Denotes address cs network explicitCidr) :
    ∃ bits, IsMask value bits := by
  cases denotes with
  | cidr whole first nonempty =>
      have cidr := isCidr_iff.mpr ⟨_, _, whole, first, nonempty⟩
      rw [isCidr_of_quad reads] at cidr
      cases cidr
  | bits whole numeral =>
      have digits := isDigits_iff.mpr numeral
      rw [← withoutSlash_of_text whole numeral, isDigits_of_quad reads] at digits
      cases digits
  | mask readsMask ones =>
      cases reads.symm.trans readsMask
      exact ⟨_, ones⟩

theorem subnetOf_of_gapped {text : String} {value : Nat}
    (gapped : Gapped address (subnetChars text) value) :
    subnetOf address text = .error (.nonContiguousMask (Address.quadText value)) := by
  have reading := reading_subnetOf address text
  generalize subnetOf address text = answer at reading
  cases reading with
  | denotes denotes =>
      obtain ⟨bits, ones⟩ := isMask_of_denotes gapped.reads denotes
      exact absurd ones (gapped.gap bits)
  | gapped other =>
      cases gapped.reads.symm.trans other.reads
      rfl
  | malformed regular => exact absurd gapped (regular value)

/-- All notations of the block of an address's leading bits come to its network, and only a CIDR is
    told apart. A dotted quad for an IPv4 address is accepted when it is the mask of some number of
    bits, with their network, and is refused as a mask with gaps otherwise. -/
theorem notations_agree (address : Address) :
    (∀ bits fits, ∃ network, IsNetwork address bits network ∧
      ∀ text explicitCidr, Notates address bits fits text explicitCidr →
        subnetOf address text = .ok (network, explicitCidr)) ∧
      ∀ text value, address.family = .v4 → Address.quad? (subnetChars text) = some value →
        ((∃ answer, subnetOf address text = .ok answer) ↔ ∃ bits, IsMask value bits) ∧
          ((∀ bits, ¬ IsMask value bits) →
            subnetOf address text = .error (.nonContiguousMask (Address.quadText value))) := by
  refine ⟨fun bits fits => ⟨_, isNetwork_network ⟨address, bits, fits⟩, ?_⟩, ?_⟩
  · intro text explicitCidr notates
    exact subnetOf_of_denotes (denotes_of_notates notates)
  intro text value v4 reads
  have refused : (∀ bits, ¬ IsMask value bits) →
      subnetOf address text = .error (.nonContiguousMask (Address.quadText value)) :=
    fun gap => subnetOf_of_gapped ⟨v4, reads, gap⟩
  refine ⟨⟨?_, ?_⟩, refused⟩
  · rintro ⟨answer, accepted⟩
    by_contra gap
    rw [refused (not_exists.mp gap)] at accepted
    cases accepted
  · rintro ⟨bits, ones⟩
    have fits : bits ≤ address.family.width := by
      rw [v4]
      exact ones.bits_le
    exact ⟨_, subnetOf_of_denotes (.mask reads ones v4 fits)⟩

/-- The address `10.0.0.5`. -/
def fifthOfTen : Address := .ofValue .v4 (10 * 2 ^ 24 + 5)

theorem notations_agree_ten :
    (∃ network, IsNetwork fifthOfTen 24 network ∧
      subnetOf fifthOfTen "10.0.0.7/24" = .ok (network, true) ∧
      subnetOf fifthOfTen "/24" = .ok (network, false) ∧
      subnetOf fifthOfTen "24" = .ok (network, false) ∧
      subnetOf fifthOfTen "255.255.255.0" = .ok (network, false)) ∧
    (∃ answer, subnetOf fifthOfTen "255.255.255.255" = .ok answer) ∧
    subnetOf fifthOfTen "255.0.255.0" = .error (.nonContiguousMask "255.0.255.0") := by
  obtain ⟨agree, quads⟩ := notations_agree fifthOfTen
  obtain ⟨network, isNetwork, texts⟩ := agree 24 (by decide)
  have within : Block.Within ⟨fifthOfTen, 24, by decide⟩ (.ofValue .v4 (10 * 2 ^ 24 + 7)) :=
    Block.contains_iff.mp (by decide)
  have seventh : Address.ofText? "10.0.0.7" = some (.ofValue .v4 (10 * 2 ^ 24 + 7)) := by
    decide +kernel
  refine ⟨⟨network, isNetwork, texts _ _ (.cidr seventh within), texts _ _ .slashed,
    texts _ _ .number, texts _ _ (.mask rfl)⟩, ?_, ?_⟩
  · exact (quads _ (Block.mask 32) rfl (by decide +kernel)).1.mpr ⟨32, Block.isMask_mask le_rfl⟩
  · refine (quads _ 0xFF00FF00 rfl (by decide +kernel)).2 fun bits ones => ?_
    have found := Block.maskBits?_eq_some_iff.mpr ones
    have gap : Block.maskBits? 0xFF00FF00 = none := by decide +kernel
    rw [gap] at found
    cases found

end StaticIp

end MachineProvisioning
