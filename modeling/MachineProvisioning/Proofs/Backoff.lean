import MachineProvisioning.Backoff
import Mathlib.Data.Nat.Fib.Basic

/-! # Limited Fibonacci delays

The limit is applied to the numbers from which the later ones are summed. It commutes with the sums, so
that the delays since a reset are the Fibonacci multiples of the first one, each limited on its own.
-/

namespace MachineProvisioning.Backoff

/-- The position after `n` delays since the start. -/
def nth (first limit n : Nat) : Backoff :=
  ⟨first, min (first * Nat.fib n) limit, min (first * Nat.fib (n + 1)) limit, limit⟩

variable {first limit : Nat}

/-- A first delay within the limit is the first number of the limited sequence. -/
theorem start_eq_nth (le : first ≤ limit) : start first limit = nth first limit 0 := by
  simp [start, nth, le]

theorem reset_nth (le : first ≤ limit) (n : Nat) : (nth first limit n).reset = nth first limit 0 :=
  start_eq_nth le

/-- A limited sum of limited numbers is the limited sum. -/
theorem min_fib_add_two (first limit n : Nat) :
    min (min (first * Nat.fib n) limit + min (first * Nat.fib (n + 1)) limit) limit =
      min (first * Nat.fib (n + 2)) limit := by
  rw [Nat.fib_add_two, Nat.mul_add]
  omega

@[simp] theorem advance_nth (first limit n : Nat) :
    (nth first limit n).advance = nth first limit (n + 1) := by
  simp only [advance, nth, min_fib_add_two]

theorem delay_nth (first limit n : Nat) :
    (nth first limit n).delay = 60 * min (first * Nat.fib (n + 1)) limit := Nat.mul_comm _ _

theorem delay_nth_le (first limit n : Nat) : (nth first limit n).delay ≤ 60 * limit := by
  rw [delay_nth]
  exact Nat.mul_le_mul_left 60 (Nat.min_le_right _ _)

theorem delay_nth_mono {n m : Nat} (le : n ≤ m) :
    (nth first limit n).delay ≤ (nth first limit m).delay := by
  have grows : Nat.fib (n + 1) ≤ Nat.fib (m + 1) := Nat.fib_mono (Nat.succ_le_succ le)
  rw [delay_nth, delay_nth]
  exact Nat.mul_le_mul_left 60 (min_le_min_right limit (Nat.mul_le_mul_left first grows))

/-- The delay and the next position can be computed in machine words. -/
structure Fits (b : Backoff) : Prop where
  product : b.current * 60 < 2 ^ 64
  sum : b.previous + b.current < 2 ^ 64

/-- Nothing that is multiplied or summed exceeds the limit. -/
theorem fits_nth (small : 60 * limit < 2 ^ 64) (n : Nat) : (nth first limit n).Fits := by
  constructor
  · exact Nat.lt_of_le_of_lt (delay_nth_le first limit n) small
  · simp only [nth]
    omega

/-- What is done with a sequence of delays. -/
inductive Use where
  /-- The next delay is taken. -/
  | next
  /-- The sequence starts again. -/
  | reset
  deriving Repr, DecidableEq

/-- The position after one use. -/
def used (b : Backoff) : Use → Backoff
  | .next => b.advance
  | .reset => b.reset

/-- The position after these uses. -/
def after (b : Backoff) (uses : List Use) : Backoff := uses.foldl used b

/-- The delays that these uses take. -/
def delays (b : Backoff) : List Use → List Nat
  | [] => []
  | .next :: uses => b.delay :: b.advance.delays uses
  | .reset :: uses => b.reset.delays uses

/-- Of every delay that these uses take, which one it is since the last reset. `taken` have been taken
    before. -/
def ordinals (taken : Nat) : List Use → List Nat
  | [] => []
  | .next :: uses => (taken + 1) :: ordinals (taken + 1) uses
  | .reset :: uses => ordinals 0 uses

theorem after_nth (le : first ≤ limit) (n : Nat) (uses : List Use) :
    ∃ m, (nth first limit n).after uses = nth first limit m := by
  induction uses generalizing n with
  | nil => exact ⟨n, rfl⟩
  | cons use uses ih =>
      cases use with
      | next =>
          have step : (nth first limit n).used .next = nth first limit (n + 1) := advance_nth _ _ _
          rw [after, List.foldl_cons, step]
          exact ih (n + 1)
      | reset =>
          have step : (nth first limit n).used .reset = nth first limit 0 := reset_nth le n
          rw [after, List.foldl_cons, step]
          exact ih 0

theorem delays_nth (le : first ≤ limit) (n : Nat) (uses : List Use) :
    (nth first limit n).delays uses =
      (ordinals n uses).map fun k => 60 * min (first * Nat.fib k) limit := by
  induction uses generalizing n with
  | nil => rfl
  | cons use uses ih =>
      cases use with
      | next => simp only [delays, ordinals, List.map_cons, delay_nth, advance_nth, ih]
      | reset => simp only [delays, ordinals, reset_nth le, ih]

/-- Delays that are taken in a row are those of later and later positions. -/
theorem mem_delays_row {n more delay : Nat}
    (mem : delay ∈ (nth first limit n).delays (List.replicate more .next)) :
    ∃ m, n ≤ m ∧ delay = (nth first limit m).delay := by
  induction more generalizing n with
  | zero => nomatch mem
  | succ more ih =>
      rw [List.replicate_succ, delays, advance_nth] at mem
      rcases List.mem_cons.mp mem with rfl | mem
      · exact ⟨n, Nat.le_refl n, rfl⟩
      · obtain ⟨m, later, rfl⟩ := ih mem
        exact ⟨m, Nat.le_of_succ_le later, rfl⟩

/-- In a row, no delay is followed by a shorter one, and the greatest is kept. -/
theorem delays_row_sorted (n more : Nat) :
    ((nth first limit n).delays (List.replicate more .next)).Pairwise fun earlier later =>
      earlier ≤ later ∧ (earlier = 60 * limit → later = 60 * limit) := by
  induction more generalizing n with
  | zero => exact .nil
  | succ more ih =>
      rw [List.replicate_succ, delays, advance_nth, List.pairwise_cons]
      refine ⟨fun delay mem => ?_, ih (n + 1)⟩
      obtain ⟨m, later, rfl⟩ := mem_delays_row mem
      have grows : (nth first limit n).delay ≤ (nth first limit m).delay :=
        delay_nth_mono (Nat.le_of_succ_le later)
      exact ⟨grows, fun greatest => Nat.le_antisymm (delay_nth_le first limit m) (greatest ▸ grows)⟩

/-- However a sequence is used, the `k`th delay since the start or the last reset is the `k`th
    Fibonacci multiple of the first one, limited. So no delay exceeds the limit, and until the next
    reset delays never decrease and stay at the limit once they have reached it. Wherever the uses
    end, the next delay and the position after it can be computed in machine words, if the limit can
    be given in seconds there: the greatest sum is only twice the limit. -/
theorem delays_limited_fib (le : first ≤ limit) (small : 60 * limit < 2 ^ 64) (uses : List Use) :
    ((start first limit).delays uses =
        (ordinals 0 uses).map fun k => 60 * min (first * Nat.fib k) limit) ∧
      (∀ delay ∈ (start first limit).delays uses, delay ≤ 60 * limit) ∧
      (∀ more, (((start first limit).after uses).delays (List.replicate more .next)).Pairwise
        fun earlier later => earlier ≤ later ∧ (earlier = 60 * limit → later = 60 * limit)) ∧
      ((start first limit).after uses).Fits := by
  rw [start_eq_nth le]
  obtain ⟨m, reached⟩ := after_nth le 0 uses
  refine ⟨delays_nth le 0 uses, ?_, ?_, ?_⟩
  · rw [delays_nth le]
    intro delay mem
    obtain ⟨k, -, rfl⟩ := List.mem_map.mp mem
    exact Nat.mul_le_mul_left 60 (Nat.min_le_right _ _)
  · rw [reached]
    exact delays_row_sorted m
  · rw [reached]
    exact fits_nth small m

/-- Steps of two minutes up to ten, with a reset after the limit is reached. -/
theorem delays_of_two_minutes :
    (start 2 10).delays [.next, .next, .next, .next, .next, .next, .reset, .next] =
        [120, 120, 240, 360, 600, 600, 120] ∧
      ((start 2 10).after [.next, .next, .next, .next, .next, .next]).Fits := by
  have whole := delays_limited_fib (show 2 ≤ 10 by decide) (by decide)
    [.next, .next, .next, .next, .next, .next, .reset, .next]
  have row := delays_limited_fib (show 2 ≤ 10 by decide) (by decide)
    [.next, .next, .next, .next, .next, .next]
  exact ⟨whole.1.trans (by decide), row.2.2.2⟩

end MachineProvisioning.Backoff
