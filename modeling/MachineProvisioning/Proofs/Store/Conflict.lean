import MachineProvisioning.Store.Conflict
import Mathlib.Data.ENat.Lattice

/-! # How often a conflict is tried again

An operation is called until it ends in something else than a conflict, or the attempts are used up. The
results that it would give one after another decide how many calls these are, and the last one is the
result of the whole.
-/

namespace MachineProvisioning.Store

open Program (request)

variable {Op : Type} {Answer : Op → Type} {α σ : Type}

/-- The API server answered with a conflict. -/
def Conflicted (result : Except KubeError α) : Prop :=
  ∃ status message reason, result = .error (.refused status message reason 409)

theorem isConflict_iff {result : Except KubeError α} :
    isConflict result = true ↔ Conflicted result := by
  constructor
  · intro conflict
    cases result with
    | ok value => nomatch conflict
    | error error =>
        cases error with
        | refused status message reason code =>
            obtain rfl : code = 409 := by simpa [isConflict, KubeError.isConflict] using conflict
            exact ⟨status, message, reason, rfl⟩
        | undecodable | unnamed | unaddressable => nomatch conflict
  · rintro ⟨status, message, reason, rfl⟩
    rfl

/-- The number of conflicts before the first result of another kind, infinite if there is none. -/
noncomputable def leadingConflicts (results : Nat → Except KubeError α) : ℕ∞ :=
  ⨅ n ∈ {n | ¬Conflicted (results n)}, (n : ℕ∞)

/-- What limits a number of conflicts: another result comes after them, or they are enough. -/
theorem eq_min_leadingConflicts {results : Nat → Except KubeError α} {k most : Nat} (few : k ≤ most)
    (conflicts : ∀ n < k, Conflicted (results n)) (last : ¬Conflicted (results k) ∨ k = most) :
    (k : ℕ∞) = min (leadingConflicts results) most := by
  have leads : (k : ℕ∞) ≤ leadingConflicts results := by
    refine le_iInf₂ fun n other => Nat.cast_le.mpr ?_
    by_contra earlier
    exact other (conflicts n (Nat.lt_of_not_le earlier))
  rcases last with other | rfl
  · have ends : leadingConflicts results ≤ k := iInf₂_le k other
    rw [le_antisymm ends leads, min_eq_left (Nat.cast_le.mpr few)]
  · exact (min_eq_right leads).symm

/-- What the call with this number gives, counted from zero, and the state that it leaves. -/
def nthCall (attempt : Program Op Answer (Except KubeError α))
    (answer : (op : Op) → σ → Answer op × σ) : Nat → σ → Except KubeError α × σ
  | 0, s => attempt.run answer s
  | n + 1, s => nthCall attempt answer n (attempt.run answer s).2

/-- The results that an operation would give, called again and again. -/
def wouldGive (attempt : Program Op Answer (Except KubeError α))
    (answer : (op : Op) → σ → Answer op × σ) (s : σ) (n : Nat) : Except KubeError α :=
  (nthCall attempt answer n s).1

/-- The operation is called once, and again after each conflict while there are more attempts. -/
theorem run_attemptAgain (attempt : Program Op Answer (Except KubeError α))
    (answer : (op : Op) → σ → Answer op × σ) (more : Nat) (s : σ) :
    ∃ k ≤ more, (∀ n < k, Conflicted (wouldGive attempt answer s n)) ∧
      (¬Conflicted (wouldGive attempt answer s k) ∨ k = more) ∧
      (attemptAgain attempt more).run answer s = nthCall attempt answer k s := by
  induction more generalizing s with
  | zero => exact ⟨0, Nat.le_refl 0, fun n before => absurd before (Nat.not_lt_zero n), .inr rfl, rfl⟩
  | succ more ih =>
      have step : (attemptAgain attempt (more + 1)).run answer s =
          (if isConflict (attempt.run answer s).1 then attemptAgain attempt more
            else pure (attempt.run answer s).1).run answer (attempt.run answer s).2 :=
        Program.run_bind ..
      by_cases conflict : isConflict (attempt.run answer s).1 = true
      · obtain ⟨k, few, conflicts, last, ended⟩ := ih (attempt.run answer s).2
        refine ⟨k + 1, Nat.succ_le_succ few, fun n before => ?_, ?_, ?_⟩
        · cases n with
          | zero => exact isConflict_iff.mp conflict
          | succ n => exact conflicts n (Nat.lt_of_succ_lt_succ before)
        · exact last.imp_right (congrArg (· + 1))
        · rw [step, if_pos conflict, ended]
          rfl
      · refine ⟨0, Nat.zero_le _, fun n before => absurd before (Nat.not_lt_zero n), .inl ?_, ?_⟩
        · exact mt isConflict_iff.mpr conflict
        · rw [step, if_neg conflict]
          rfl

/-- An operation that gives these results in turn and counts its calls. -/
def inTurn (results : Nat → Except KubeError α) (_ : Unit) (calls : Nat) :
    Except KubeError α × Nat :=
  (results calls, calls + 1)

theorem nthCall_inTurn (results : Nat → Except KubeError α) (n calls : Nat) :
    nthCall (request ()) (inTurn results) n calls = (results (calls + n), calls + n + 1) := by
  induction n generalizing calls with
  | zero => rfl
  | succ n ih => exact (ih (calls + 1)).trans (by rw [Nat.add_right_comm calls 1 n]; rfl)

/-- The results that an operation would give decide how often it is called. -/
theorem run_retryOnConflict (attempts : Nat) (attempt : Program Op Answer (Except KubeError α))
    (answer : (op : Op) → σ → Answer op × σ) (s : σ) :
    ∃ k : Nat, (k : ℕ∞) = min (leadingConflicts (wouldGive attempt answer s)) ↑(max attempts 1 - 1) ∧
      (∀ n < k, Conflicted (wouldGive attempt answer s n)) ∧
      (retryOnConflict attempts attempt).run answer s = nthCall attempt answer k s := by
  obtain ⟨k, few, conflicts, last, ended⟩ := run_attemptAgain attempt answer (attempts - 1) s
  have most : max attempts 1 - 1 = attempts - 1 := by omega
  rw [most]
  exact ⟨k, eq_min_leadingConflicts few conflicts last, conflicts, ended⟩

/-- Without any attempts, the operation is still called once. -/
example :
    ((retryOnConflict 0 (request ())).run
      (inTurn fun _ => (.error (.refused "" "" "" 409) : Except KubeError Unit)) 0).2 = 1 := rfl

/-- For any results that an operation would give, it is called once and then once more for each leading
    conflict, but no more often than there are attempts, and what the last call gives is the result.
    So a result of another kind, a success above all, is the last one. What a call is made of makes no
    difference. -/
theorem retryOnConflict_calls (attempts : Nat) (results : Nat → Except KubeError α) :
    ∃ k : Nat, (k : ℕ∞) = min (leadingConflicts results) ↑(max attempts 1 - 1) ∧
      k + 1 ≤ max attempts 1 ∧
      (∀ n ≤ k, ¬Conflicted (results n) → n = k) ∧
      (retryOnConflict attempts (request ())).run (inTurn results) 0 = (results k, k + 1) ∧
      ∀ {Op : Type} {Answer : Op → Type} {σ : Type}
        (attempt : Program Op Answer (Except KubeError α)) (answer : (op : Op) → σ → Answer op × σ)
        (s : σ), wouldGive attempt answer s = results →
        (retryOnConflict attempts attempt).run answer s = nthCall attempt answer k s := by
  have gives : wouldGive (request ()) (inTurn results) 0 = results := by
    funext n
    rw [wouldGive, nthCall_inTurn, Nat.zero_add]
  obtain ⟨k, calls, conflicts, ended⟩ := run_retryOnConflict attempts (request ()) (inTurn results) 0
  rw [gives] at calls conflicts
  have few : (k : ℕ∞) ≤ ↑(max attempts 1 - 1) := calls.trans_le (min_le_right _ _)
  refine ⟨k, calls, ?_, fun n before other => ?_, ?_, ?_⟩
  · have few := Nat.cast_le.mp few
    omega
  · by_contra earlier
    exact other (conflicts n (Nat.lt_of_le_of_ne before earlier))
  · rw [ended, nthCall_inTurn, Nat.zero_add]
  · rintro Op Answer σ attempt answer s rfl
    obtain ⟨j, others, -, ended⟩ := run_retryOnConflict attempts attempt answer s
    rw [ended, Nat.cast_inj.mp (others.trans calls.symm)]

end MachineProvisioning.Store
