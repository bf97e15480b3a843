import MachineProvisioning.Net.Block
import MachineProvisioning.Proofs.Net.Address
import MachineProvisioning.Proofs.Text.Numeral
import MachineProvisioning.StaticIp.Target

/-! # Blocks that are read back

The text of a block is its address, a slash and its bits. No address has a slash in its text, so the
text is read as the block. A subnet that is registered under the text of a declared block is therefore
in that block.
-/

namespace MachineProvisioning

namespace Text

theorem splitFirst_append {sep : Char} {piece : List Char} (free : sep ∉ piece) (rest : List Char) :
    splitFirst sep (piece ++ sep :: rest) = some (piece, rest) := by
  induction piece with
  | nil => exact if_pos rfl
  | cons c piece ih =>
      have differs : c ≠ sep := fun same => free (same ▸ .head _)
      simp only [List.cons_append, splitFirst, if_neg differs, Option.map_some,
        ih fun mem => free (.tail _ mem)]

theorem eq_append_of_splitFirst {sep : Char} {cs piece rest : List Char}
    (parts : splitFirst sep cs = some (piece, rest)) : cs = piece ++ sep :: rest ∧ sep ∉ piece := by
  induction cs generalizing piece with
  | nil => cases parts
  | cons c cs ih =>
      rw [splitFirst] at parts
      split at parts
      · next same =>
          cases parts
          exact ⟨congrArg (· :: rest) same, List.not_mem_nil⟩
      · next differs =>
          obtain ⟨⟨before, after⟩, found, whole⟩ := Option.map_eq_some_iff.mp parts
          cases whole
          obtain ⟨rfl, free⟩ := ih found
          exact ⟨rfl, List.not_mem_cons_of_ne_of_not_mem (Ne.symm differs) free⟩

theorem dropBlanks_of_solid {cs : List Char} (solid : ∀ c ∈ cs, isBlank c = false) :
    dropBlanks cs = cs := by
  cases cs with
  | nil => rfl
  | cons c rest => exact List.dropWhile_cons_of_neg (by simp [solid c (.head _)])

theorem trimChars_of_solid {cs : List Char} (solid : ∀ c ∈ cs, isBlank c = false) :
    trimChars cs = cs := by
  unfold trimChars
  rw [dropBlanks_of_solid solid,
    dropBlanks_of_solid fun c mem => solid c (List.mem_reverse.mp mem), List.reverse_reverse]

theorem hexValue?_of_isBlank {c : Char} (blank : isBlank c = true) : hexValue? c = none := by
  simp only [isBlank, Bool.or_eq_true, Bool.and_eq_true, decide_eq_true_eq, beq_iff_eq] at blank
  have digit : c.isDigit = false := by
    rw [Bool.eq_false_iff]
    intro digit
    have range : 48 ≤ c.toNat ∧ c.toNat ≤ 57 := by
      simpa [Char.isDigit, UInt32.le_iff_toNat_le] using digit
    omega
  have lower : ¬('a' ≤ c ∧ c ≤ 'f') := by
    rintro ⟨low, high⟩
    have range : 97 ≤ c.toNat ∧ c.toNat ≤ 102 := ⟨low, high⟩
    omega
  have upper : ¬('A' ≤ c ∧ c ≤ 'F') := by
    rintro ⟨low, high⟩
    have range : 65 ≤ c.toNat ∧ c.toNat ≤ 70 := ⟨low, high⟩
    omega
  simp [hexValue?, digit, lower, upper]

end Text

namespace Net

open Text

theorem Address.not_mem_groupsText {c : Char} (stops : hexValue? c = none) (differs : c ≠ ':')
    (gs : List Nat) : c ∉ (groupsText gs).toList := by
  rw [toList_groupsText]
  intro mem
  rcases mem_joinChars mem with same | ⟨piece, found, mem⟩
  · exact differs same
  · obtain ⟨g, -, rfl⟩ := List.mem_map.mp found
    exact not_mem_hex stops g mem

theorem isDigit_of_hexValue? {c : Char} (stops : hexValue? c = none) : c.isDigit = false := by
  unfold hexValue? at stops
  split at stops
  · cases stops
  · next other => simpa using other

/-- The text of an address has hexadecimal digits, colons and dots. -/
theorem Address.not_mem_toText {c : Char} (stops : hexValue? c = none) (colon : c ≠ ':')
    (dot : c ≠ '.') (a : Address) : c ∉ a.toText.toList := by
  have quads : ∀ value, c ∉ (quadText value).toList := fun value =>
    not_mem_quadText (isDigit_of_hexValue? stops) dot
  have groups := not_mem_groupsText stops colon
  unfold toText
  cases a.family with
  | v4 => exact quads a.value
  | v6 =>
      have prefixed : c ∉ "::ffff:".toList := by
        intro mem
        have either : c = ':' ∨ c = 'f' ∨ c = ':' := by simpa using mem
        rcases either with same | rfl | same
        · exact colon same
        · cases stops
        · exact colon same
      simp only [v6Text]
      split
      · rw [String.toList_append, List.mem_append]
        exact not_or.mpr ⟨prefixed, quads _⟩
      · split
        · simp only [String.toList_append, List.mem_append, not_or]
          refine ⟨⟨groups _, ?_⟩, groups _⟩
          simpa using colon
        · exact groups _

namespace Block

theorem ofAddress?_base (b : Block) : ofAddress? b.base b.bits = some b := by
  obtain ⟨base, bits, fits⟩ := b
  exact dif_pos fits

/-- A number of bits has no dots, so it is no mask. -/
theorem quad?_decimal (n : Nat) : Address.quad? (decimal n).toList = none := by
  have free : '.' ∉ (decimal n).toList := (isNumeral_decimal n).not_mem rfl
  exact Address.quad?_of_dotless free

/-- An address is read by the reader of its family, and no text of an IPv6 address is a quad. -/
theorem family_of_ofChars? {cs : List Char} {a : Address} (read : Address.ofChars? cs = some a) :
    (a.family = .v4 ∧ Address.v4OfChars? cs = some a) ∨
      (a.family = .v6 ∧ Address.v4OfChars? cs = none ∧ Address.v6OfChars? cs = some a) := by
  unfold Address.ofChars? at read
  split at read
  · next b found =>
      cases read
      obtain ⟨value, -, rfl⟩ := Option.map_eq_some_iff.mp found
      exact .inl ⟨rfl, found⟩
  · next unread =>
      obtain ⟨gs, -, same⟩ := Option.map_eq_some_iff.mp read
      exact .inr ⟨same ▸ rfl, unread, read⟩

/-- Any text of an address before a slash and the number of bits is read as the block. -/
theorem ofChars?_append {cs : List Char} (b : Block) (slash : '/' ∉ cs)
    (read : Address.ofChars? cs = some b.base) :
    ofChars? (cs ++ '/' :: (decimal b.bits).toList) = some b := by
  have digits : '/' ∉ (decimal b.bits).toList := (isNumeral_decimal b.bits).not_mem rfl
  have parts : parts? (cs ++ '/' :: (decimal b.bits).toList) =
      some (cs, some (decimal b.bits).toList) := by
    rw [parts?, splitFirst_append slash]
    simp [digits]
  have fits : b.bits ≤ 255 := by
    have le := b.bits_le
    cases family : b.base.family <;> simp only [family, Family.width] at le <;> omega
  have bits := readUnsigned?_decimal fits
  have whole := ofAddress?_base b
  unfold ofChars? v4OfChars? v6OfChars?
  rcases family_of_ofChars? read with ⟨-, read⟩ | ⟨-, noQuad, read⟩
  · simp [parts, read, v4Bits?, quad?_decimal, bits, whole]
  · simp [parts, noQuad, read, bits, whole]

/-- The text of a block is read as the block. -/
theorem ofChars?_toText (b : Block) : ofChars? b.toText.toList = some b := by
  have slash : '/' ∉ b.base.toText.toList :=
    Address.not_mem_toText (by decide) (by decide) (by decide) _
  have text : b.toText.toList = b.base.toText.toList ++ '/' :: (decimal b.bits).toList := by
    simp [toText]
  rw [text]
  exact ofChars?_append b slash (Address.ofText?_toText b.base)

/-- Clearing the bits of a block twice is clearing them once. -/
theorem network_network (b : Block) : b.network.network = b.network := by
  have small : b.base.value / b.size * b.size < Nat.pow 2 b.base.family.width :=
    Nat.lt_of_le_of_lt (Nat.div_mul_le_self _ _) b.base.value_lt
  have positive : 0 < b.size := Nat.two_pow_pos _
  have size : b.network.size = b.size := rfl
  have value : b.network.base.value = b.base.value / b.size * b.size := Nat.mod_eq_of_lt small
  have same : b.network.base.value / b.network.size * b.network.size =
      b.base.value / b.size * b.size := by
    rw [size, value, Nat.mul_div_cancel _ positive]
  calc b.network.network
      = ⟨Address.ofValue b.base.family (b.network.base.value / b.network.size * b.network.size),
          b.bits, b.bits_le⟩ := rfl
    _ = b.network := by
      simp only [same]
      rfl

end Block

end Net

namespace StaticIp

open Net Text

/-- A subnet under the text of a block without further bits is in that block. -/
theorem blockOf?_toText {block : Block} (cleared : block.network = block) :
    blockOf? block.toText = some block := by
  have solid : ∀ c ∈ block.toText.toList, isBlank c = false := by
    intro c mem
    rw [Bool.eq_false_iff]
    intro blank
    have stops := hexValue?_of_isBlank blank
    simp only [Block.toText, String.toList_append, List.mem_append] at mem
    rcases mem with (mem | mem) | mem
    · refine Address.not_mem_toText stops ?_ ?_ _ mem
      · rintro rfl
        cases blank
      · rintro rfl
        cases blank
    · obtain rfl : c = '/' := by simpa using mem
      cases blank
    · exact (isNumeral_decimal block.bits).not_mem (isDigit_of_hexValue? stops) mem
  unfold blockOf?
  rw [trimChars_of_solid solid, Block.ofChars?_toText, Option.map_some, cleared]

theorem network_of_subnetOf {address : Address} {text : String} {network : Block} {explicit : Bool}
    (reads : subnetOf address text = .ok (network, explicit)) : network.network = network := by
  unfold subnetOf at reads
  dsimp only at reads
  have cleared : ∀ {block : Block} {flag : Bool},
      (.ok (block.network, flag) : Except StaticIpFault (Block × Bool)) = .ok (network, explicit) →
        network.network = network := by
    intro block flag same
    cases same
    exact block.network_network
  repeat' split at reads
  all_goals first | exact cleared reads | cases reads

theorem address_of_validate {declared : Resource.StaticIpSpec} {ip : Declaration}
    (valid : validate declared = .ok ip) :
    addressOf? declared.address = some ip.address := by
  unfold validate at valid
  split at valid
  · cases valid
  · next address read =>
      repeat' split at valid
      all_goals cases valid
      exact read

/-- The subnet of a lawful declaration has no further bits and contains the address. -/
theorem network_of_validate {declared : Resource.StaticIpSpec} {ip : Declaration}
    (valid : validate declared = .ok ip) :
    ip.network.network = ip.network ∧ ip.network.contains ip.address = true := by
  unfold validate at valid
  split at valid
  · cases valid
  · split at valid
    · cases valid
    · split at valid
      · cases valid
      · split at valid
        · cases valid
        · next reads =>
            split at valid
            · cases valid
            · next inside =>
                repeat' split at valid
                all_goals cases valid
                exact ⟨network_of_subnetOf reads, by simpa using inside⟩

end StaticIp

end MachineProvisioning
