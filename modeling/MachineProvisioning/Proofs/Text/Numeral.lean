import MachineProvisioning.Text.Blank
import MachineProvisioning.Text.Numeral
import Mathlib.Algebra.Group.Nat.Defs

/-! # Numerals that are read back

A decimal numeral, with leading zeros or without, is a run of digits that reads as its number.
-/

namespace MachineProvisioning.Text

/-- Nothing but digits, and at least one. -/
structure IsNumeral (cs : List Char) : Prop where
  digits : ∀ c ∈ cs, c.isDigit = true
  nonempty : cs ≠ []

theorem readDigits_digits {cs : List Char} (digits : ∀ c ∈ cs, c.isDigit = true) (acc : Nat) :
    readDigits digitValue? 10 acc cs = some (Nat.ofDigitChars 10 cs acc) := by
  induction cs generalizing acc with
  | nil => rfl
  | cons c rest ih =>
      rw [readDigits, digitValue?, if_pos (digits c (.head _)), Nat.ofDigitChars_cons]
      rw [Nat.mul_comm 10 acc]
      exact ih (fun d mem => digits d (.tail _ mem)) _

theorem IsNumeral.reads {cs : List Char} (numeral : IsNumeral cs) :
    readDecimal? cs = some (Nat.ofDigitChars 10 cs 0) := by
  rw [readDecimal?, if_neg (by simpa using numeral.nonempty)]
  exact readDigits_digits numeral.digits 0

theorem IsNumeral.not_mem {c : Char} {cs : List Char} (numeral : IsNumeral cs)
    (other : c.isDigit = false) : c ∉ cs := by
  intro mem
  rw [numeral.digits c mem] at other
  cases other

theorem isBlank_of_isDigit {c : Char} (digit : c.isDigit = true) : isBlank c = false := by
  have range : 48 ≤ c.toNat ∧ c.toNat ≤ 57 := by
    simpa [Char.isDigit, UInt32.le_iff_toNat_le] using digit
  simp only [isBlank, Bool.or_eq_false_iff, Bool.and_eq_false_iff, decide_eq_false_iff_not,
    beq_eq_false_iff_ne]
  omega

theorem IsNumeral.solid {cs : List Char} (numeral : IsNumeral cs) : ∀ c ∈ cs, isBlank c = false :=
  fun c mem => isBlank_of_isDigit (numeral.digits c mem)

theorem isNumeral_toDigits (n : Nat) : IsNumeral (Nat.toDigits 10 n) :=
  ⟨fun _ mem => Nat.isDigit_of_mem_toDigits (by decide) (by decide) mem, Nat.toDigits_ne_nil⟩

theorem toList_decimal (n : Nat) : (decimal n).toList = Nat.toDigits 10 n := by simp [decimal]

theorem isNumeral_decimal (n : Nat) : IsNumeral (decimal n).toList := by
  rw [toList_decimal]
  exact isNumeral_toDigits n

theorem takeWhile_numeral {cs rest : List Char} (numeral : IsNumeral cs)
    (stops : ∀ c ∈ rest.head?, c.isDigit = false) :
    (cs ++ rest).takeWhile Char.isDigit = cs := by
  rw [List.takeWhile_append_of_pos numeral.digits]
  cases rest with
  | nil => simp
  | cons c others => simp [stops c rfl]

/-- Only zero is written with a zero in front. -/
theorem head?_toDigits {n : Nat} (positive : 0 < n) : (Nat.toDigits 10 n).head? ≠ some '0' := by
  induction n using Nat.strongRecOn with
  | ind n ih =>
      by_cases small : n < 10
      · rw [Nat.toDigits_of_lt_base small]
        intro zero
        exact Nat.pos_iff_ne_zero.mp positive (Nat.digitChar_eq_zero.mp (Option.some.inj zero))
      · have fewer := ih (n / 10) (by omega) (by omega)
        rw [Nat.toDigits_of_base_le (by decide) (by omega), List.head?_append]
        intro zero
        rcases Option.or_eq_some_iff.mp zero with zero | ⟨none, -⟩
        · exact fewer zero
        · exact Nat.toDigits_ne_nil (List.head?_eq_none_iff.mp none)

variable {width n : Nat}

theorem toList_decimalPadded : (decimalPadded width n).toList =
    List.replicate (width - (Nat.toDigits 10 n).length) '0' ++ Nat.toDigits 10 n := by
  simp [decimalPadded]

theorem isNumeral_decimalPadded : IsNumeral (decimalPadded width n).toList := by
  rw [toList_decimalPadded]
  refine ⟨fun c mem => ?_, by simp⟩
  rcases List.mem_append.mp mem with mem | mem
  · rw [List.eq_of_mem_replicate mem]
    rfl
  · exact (isNumeral_toDigits n).digits c mem

theorem length_decimalPadded (positive : 0 < width) (small : n < 10 ^ width) :
    (decimalPadded width n).toList.length = width := by
  have short := (Nat.length_toDigits_le_iff (by decide) positive).mpr small
  rw [toList_decimalPadded, List.length_append, List.length_replicate]
  omega

theorem readDecimal?_decimalPadded : readDecimal? (decimalPadded width n).toList = some n := by
  rw [isNumeral_decimalPadded.reads, toList_decimalPadded, Nat.ofDigitChars_append]
  simp

/-- A numeral has no plus sign, so the whole of it is read. -/
theorem IsNumeral.readUnsigned? {cs : List Char} (numeral : IsNumeral cs) (limit : Nat) :
    readUnsigned? limit cs = (some (Nat.ofDigitChars 10 cs 0)).filter (· ≤ limit) := by
  unfold Text.readUnsigned?
  extract_lets digits
  have unsigned : digits = cs := by
    unfold digits
    split
    · next rest =>
        have digit := numeral.digits '+' (.head _)
        cases digit
    · rfl
  rw [unsigned, numeral.reads]

/-- A number that is not too great is read back. -/
theorem readUnsigned?_decimal {limit : Nat} (fits : n ≤ limit) :
    readUnsigned? limit (decimal n).toList = some n := by
  rw [toList_decimal, (isNumeral_toDigits n).readUnsigned?]
  exact Option.filter_eq_some_iff.mpr ⟨by simp, by simpa using fits⟩

/-- A numeral tells its number. -/
theorem decimal_injective : Function.Injective decimal := by
  intro a b same
  have reads : readUnsigned? (max a b) (decimal a).toList = some a :=
    readUnsigned?_decimal (Nat.le_max_left a b)
  rw [same, readUnsigned?_decimal (Nat.le_max_right a b)] at reads
  exact (Option.some.inj reads).symm

theorem digitValue?_lt {c : Char} {digit : Nat} (value : digitValue? c = some digit) : digit < 10 := by
  unfold digitValue? at value
  split at value
  · next isDigit =>
      cases value
      have most : c.toNat ≤ 57 := by
        simp only [Char.isDigit, Bool.and_eq_true, decide_eq_true_eq] at isDigit
        simpa [UInt32.le_iff_toNat_le] using isDigit.2
      have zero : '0'.toNat = 48 := by decide
      omega
  · cases value

theorem readDigits_lt {cs : List Char} {acc : Nat}
    (reads : readDigits digitValue? 10 acc cs = some n) : n < (acc + 1) * 10 ^ cs.length := by
  induction cs generalizing acc with
  | nil =>
      cases reads
      simp
  | cons c rest ih =>
      obtain ⟨digit, value, reads⟩ := Option.bind_eq_some_iff.mp reads
      have small := digitValue?_lt value
      calc n < (acc * 10 + digit + 1) * 10 ^ rest.length := ih reads
        _ ≤ ((acc + 1) * 10) * 10 ^ rest.length := Nat.mul_le_mul_right _ (by omega)
        _ = (acc + 1) * 10 ^ (c :: rest).length := by
          rw [List.length_cons, Nat.pow_succ', Nat.mul_assoc]

theorem lt_of_readDecimal? {cs : List Char} (reads : readDecimal? cs = some n) :
    n < 10 ^ cs.length := by
  unfold readDecimal? at reads
  split at reads
  · cases reads
  · simpa using readDigits_lt reads

end MachineProvisioning.Text
