import MachineProvisioning.Net.Block
import Mathlib.Data.Nat.Bitwise

/-! # Blocks, bit by bit

An address is in a block when it has the leading bits of the block. The network of a block has those
bits and zeros after them, and a mask is contiguous when it has ones there and zeros after them.
-/

namespace MachineProvisioning.Net

namespace Block

/-- The number of bits after the leading ones. -/
def hostBits (b : Block) : Nat := b.base.family.width - b.bits

theorem size_eq (b : Block) : b.size = 2 ^ b.hostBits := rfl

/-- An address of the block's family that agrees with the block on the leading bits. -/
structure Within (b : Block) (a : Address) : Prop where
  family : a.family = b.base.family
  leading : ∀ i, b.hostBits ≤ i → a.value.testBit i = b.base.value.testBit i

/-- Two numbers have the same quotient by a power of two when they agree from that bit on. -/
theorem div_two_pow_eq_iff (m n k : Nat) :
    m / 2 ^ k = n / 2 ^ k ↔ ∀ i, k ≤ i → m.testBit i = n.testBit i := by
  constructor
  · intro same i from_k
    have bits := congrArg (Nat.testBit · (i - k)) same
    simpa only [Nat.testBit_div_two_pow, Nat.sub_add_cancel from_k] using bits
  · intro agree
    refine Nat.eq_of_testBit_eq fun i => ?_
    rw [Nat.testBit_div_two_pow, Nat.testBit_div_two_pow]
    exact agree _ (Nat.le_add_left k i)

theorem contains_iff {b : Block} {a : Address} : b.contains a = true ↔ b.Within a := by
  rw [contains, Bool.and_eq_true, beq_iff_eq, beq_iff_eq, size_eq, div_two_pow_eq_iff]
  constructor
  · rintro ⟨family, leading⟩
    exact ⟨family, leading⟩
  · rintro ⟨family, leading⟩
    exact ⟨family, leading⟩

/-- No bit after the leading ones is set. -/
def Cleared (b : Block) : Prop := ∀ i < b.hostBits, b.base.value.testBit i = false

theorem testBit_network (b : Block) (i : Nat) :
    b.network.base.value.testBit i = (decide (b.hostBits ≤ i) && b.base.value.testBit i) := by
  have below : b.base.value / b.size * b.size < Nat.pow 2 b.base.family.width :=
    Nat.lt_of_le_of_lt (Nat.div_mul_le_self _ _) b.base.value_lt
  have value : b.network.base.value = b.base.value / 2 ^ b.hostBits * 2 ^ b.hostBits :=
    Nat.mod_eq_of_lt below
  rw [value, Nat.testBit_mul_two_pow, Nat.testBit_div_two_pow]
  by_cases leads : b.hostBits ≤ i
  · rw [Nat.sub_add_cancel leads]
  · simp only [leads, decide_false, Bool.false_and]

theorem cleared_network (b : Block) : b.network.Cleared := by
  intro i host
  have after : ¬ b.hostBits ≤ i := Nat.not_le.mpr host
  rw [testBit_network, decide_eq_false after, Bool.false_and]

/-- An IPv4 mask of that many ones with only zeros after them. -/
structure IsMask (mask bits : Nat) : Prop where
  bits_le : bits ≤ 32
  ones : ∀ i, mask.testBit i = decide (32 - bits ≤ i ∧ i < 32)

theorem testBit_mask (bits i : Nat) :
    (Nat.pow 2 32 - Nat.pow 2 (32 - bits)).testBit i = decide (32 - bits ≤ i ∧ i < 32) := by
  have positive : 0 < 2 ^ (32 - bits) := Nat.two_pow_pos _
  have fits : 2 ^ (32 - bits) ≤ 2 ^ 32 := Nat.pow_le_pow_right (by decide) (Nat.sub_le _ _)
  calc (Nat.pow 2 32 - Nat.pow 2 (32 - bits)).testBit i
      = (2 ^ 32 - (2 ^ (32 - bits) - 1 + 1)).testBit i := by
        rw [Nat.sub_add_cancel positive]
        rfl
    _ = (decide (i < 32) && !decide (i < 32 - bits)) := by
        rw [Nat.testBit_two_pow_sub_succ (by omega), Nat.testBit_two_pow_sub_one]
    _ = decide (32 - bits ≤ i ∧ i < 32) := by
        rw [Bool.eq_iff_iff]
        simp only [Bool.and_eq_true, Bool.not_eq_true', decide_eq_true_eq, decide_eq_false_iff_not]
        omega

theorem isMask_iff {mask bits : Nat} :
    IsMask mask bits ↔ bits ≤ 32 ∧ mask = Nat.pow 2 32 - Nat.pow 2 (32 - bits) := by
  constructor
  · rintro ⟨fits, ones⟩
    exact ⟨fits, Nat.eq_of_testBit_eq fun i => (ones i).trans (testBit_mask bits i).symm⟩
  · rintro ⟨fits, rfl⟩
    exact ⟨fits, testBit_mask bits⟩

/-- A mask has only one number of leading ones. -/
theorem IsMask.unique {mask first second : Nat} (one : IsMask mask first)
    (other : IsMask mask second) : first = second := by
  have here := one.bits_le
  have there := other.bits_le
  -- The lowest one of either mask is a one of the other.
  have same : ∀ i, decide (32 - first ≤ i ∧ i < 32) = decide (32 - second ≤ i ∧ i < 32) :=
    fun i => (one.ones i).symm.trans (other.ones i)
  have up := same (32 - first)
  have down := same (32 - second)
  simp only [decide_eq_decide] at up down
  omega

theorem maskBits?_eq_some_iff {mask bits : Nat} : maskBits? mask = some bits ↔ IsMask mask bits := by
  rw [isMask_iff]
  constructor
  · intro found
    have holds := List.find?_some found
    have mem := List.mem_range.mp (List.mem_of_find?_eq_some found)
    exact ⟨Nat.le_of_lt_succ mem, beq_iff_eq.mp holds⟩
  · rintro ⟨fits, shape⟩
    cases found : maskBits? mask with
    | none =>
        have missed := List.find?_eq_none.mp found bits (List.mem_range.mpr (by omega))
        exact absurd (beq_iff_eq.mpr shape) missed
    | some others =>
        have holds := List.find?_some found
        have mem := List.mem_range.mp (List.mem_of_find?_eq_some found)
        have other : IsMask mask others := isMask_iff.mpr ⟨by omega, beq_iff_eq.mp holds⟩
        rw [other.unique (isMask_iff.mpr ⟨fits, shape⟩)]

end Block

end MachineProvisioning.Net
