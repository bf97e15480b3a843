import MachineProvisioning.Proofs.Backoff
import MachineProvisioning.Proofs.Net.Block
import MachineProvisioning.Proofs.Program.Protocol
import MachineProvisioning.World

/-! # When the next pass comes

A failed pass is tried again after a delay that grows with the failures in a row of its own resource.
What happens to other resources, and failures that do not count, leave the row as it is; a success
ends it.
-/

namespace MachineProvisioning

open Engine (Action Options Retries)
open Resource (Key Spec)

namespace RetryState

/-- The state after `n` failures in a row. -/
def after (n : Nat) : RetryState := ⟨⟨1, min (Nat.fib n) 10, min (Nat.fib (n + 1)) 10, 10⟩, n⟩

theorem reset_after (n : Nat) : (after n).reset = fresh := rfl

/-- The delays are those from one minute to ten. -/
theorem after_eq (n : Nat) : after n = ⟨.nth 1 10 n, n⟩ := by
  simp only [after, Backoff.nth, Nat.one_mul]

theorem fail_after (n : Nat) :
    (after n).fail = (60 * min (Nat.fib (n + 1)) 10, after (n + 1)) := by
  simp only [after_eq, fail, Backoff.delay_nth, Backoff.advance_nth, Nat.one_mul]

/-- Another failure can be counted and the next delay computed in machine words. -/
structure Fits (state : RetryState) : Prop where
  failures : state.failures + 1 < 2 ^ 32
  delay : state.backoff.current * 60 < 2 ^ 64
  sum : state.backoff.previous + state.backoff.current < 2 ^ 64

theorem fits_after {n : Nat} (small : n + 1 < 2 ^ 32) : (after n).Fits := by
  have words : (Backoff.nth 1 10 n).Fits := Backoff.fits_nth (by decide) n
  rw [after_eq]
  exact ⟨small, words.product, words.sum⟩

end RetryState

namespace Failure

/-- MAAS is still working on the instance, which is no reason to wait longer and longer. -/
def isWaiting : Failure → Bool
  | .stillProvisioning _ _ => true
  | _ => false

/-- The failure makes the next delay longer. -/
def lengthens (failure : Failure) : Bool := failure.isRetryable && !failure.isWaiting

end Failure

/-- The namespace has no slash, so that the text of the key tells namespace and name. -/
def Resource.Key.Separable (key : Key) : Prop := '/' ∉ key.namespace_.toList

instance (key : Key) : Decidable key.Separable := inferInstanceAs (Decidable (_ ∉ _))

theorem Resource.Key.eq_of_toText {a b : Key} (left : a.Separable) (right : b.Separable)
    (same : a.toText = b.toText) : a = b := by
  have text : ∀ key : Key, key.toText.toList = key.namespace_.toList ++ '/' :: key.name.toList := by
    intro key
    simp [Key.toText]
  have parts := congrArg (fun s => Text.splitFirst '/' s.toList) same
  simp only [text, Text.splitFirst_append left, Text.splitFirst_append right] at parts
  simp only [Option.some.injEq, Prod.mk.injEq, String.toList_inj] at parts
  obtain ⟨namespaces, names⟩ := parts
  cases a
  cases b
  exact congrArg₂ Key.mk namespaces names

namespace World

/-- What a history tells about requeueing. -/
inductive Report where
  /-- A pass over the resource failed, and the controller decided when the next one comes. -/
  | failed (key : Key) (failure : Failure)
  /-- A pass over the resource, or its cleanup, succeeded. -/
  | succeeded (key : Key)

namespace Report

def key : Report → Key
  | .failed key _ => key
  | .succeeded key => key

/-- The report ends the row of failures of this resource. -/
def ends (key : Key) : Report → Bool
  | .failed _ _ => false
  | .succeeded other => other = key

/-- The report is a failure in the row of this resource. -/
def counts (key : Key) : Report → Bool
  | .failed other failure => other = key && failure.lengthens
  | .succeeded _ => false

end Report

/-- The failures that count for a resource since its last success, in a history with the newest
    report first. -/
def failuresInRow (key : Key) (past : List Report) : Nat :=
  (past.takeWhile fun report => !report.ends key).countP fun report => report.counts key

/-- A history after a pass or a cleanup, of which only a success tells. -/
def withResult (key : Key) (result : Except Failure Action) (past : List Report) : List Report :=
  match result with
  | .ok _ => .succeeded key :: past
  | .error _ => past

/-- A controller that starts in one world, in any order of failures, passes, cleanups and changes
    that others make, with the newest report first. -/
inductive Lived (start : World) : List Report → World → Prop where
  | started : Lived start [] start
  | failed {past : List Report} {world : World} (lived : Lived start past world) (key : Key)
      (failure : Failure) :
      Lived start (.failed key failure :: past) (world.afterFailure key failure).2
  | reconciled {past : List Report} {world : World} (lived : Lived start past world)
      (options : Options) (key : Key) (spec : Spec) :
      Lived start (withResult key (world.reconcile options key spec).1 past)
        (world.reconcile options key spec).2
  | cleaned {past : List Report} {world : World} (lived : Lived start past world) (key : Key) :
      Lived start (withResult key (world.cleanup key).1 past) (world.cleanup key).2
  | elsewhere {past : List Report} {world after : World} (lived : Lived start past world)
      (same : after.retries = world.retries) : Lived start past after

/-- No answer touches the rows of failures. -/
theorem retries_answer (effect : Engine.Effect) (world : World) :
    (answer effect world).2.retries = world.retries := by
  cases effect with
  | maas call =>
      simp only [answer, answerMaas]
      split <;> rfl
  | store call =>
      simp only [answer, answerStore]
      split <;> rfl
  | clock => rfl
  | count event => rfl

theorem retries_pass {α : Type} (world : World) (pass : Engine.Pass α) :
    (world.pass pass).2.retries = world.retries :=
  (Program.exchanges_invariant (fun after : World => after.retries = world.retries)
    (fun _ => True) (fun effect after same => ⟨trivial, (retries_answer effect after).trans same⟩)
    pass.run world rfl).2

/-- A pass that succeeds ends the row of its resource, and one that fails leaves it. -/
theorem reconcile_cases (world : World) (options : Options) (key : Key) (spec : Spec) :
    (∃ action, (world.reconcile options key spec).1 = .ok action ∧
      (world.reconcile options key spec).2.retries = world.retries.reset key) ∨
    (∃ failure, (world.reconcile options key spec).1 = .error failure ∧
      (world.reconcile options key spec).2.retries = world.retries) := by
  have same := world.retries_pass (Engine.reconcile options key spec)
  unfold reconcile
  split
  · next action after passed =>
      rw [passed] at same
      exact .inl ⟨action, rfl, congrArg (·.reset key) same⟩
  · next failure after passed =>
      rw [passed] at same
      exact .inr ⟨failure, rfl, same⟩

/-- A cleanup that succeeds forgets the row of its resource, and one that fails leaves it. -/
theorem cleanup_cases (world : World) (key : Key) :
    (∃ action, (world.cleanup key).1 = .ok action ∧
      (world.cleanup key).2.retries = world.retries.forget key) ∨
    (∃ failure, (world.cleanup key).1 = .error failure ∧
      (world.cleanup key).2.retries = world.retries) := by
  have same := world.retries_pass (Engine.cleanup key)
  unfold cleanup
  split
  · next action after passed =>
      rw [passed] at same
      exact .inl ⟨action, rfl, congrArg (·.forget key) same⟩
  · next failure after passed =>
      rw [passed] at same
      exact .inr ⟨failure, rfl, same⟩

end World

namespace Engine.Retries

/-- The row of a resource, which is fresh before its first failure. -/
def row (retries : Retries) (key : Key) : RetryState := (retries.get? key.toText).getD .fresh

/-- What a failure leads to, by its weight. -/
theorem afterFailure_eq (retries : Retries) (key : Key) (failure : Failure) :
    retries.afterFailure key failure =
      if failure.isWaiting then (.requeue 30, retries)
      else if failure.isRetryable then
        (.requeue (retries.row key).fail.1, retries.insert key.toText (retries.row key).fail.2)
      else (.requeue 600, retries) := by
  cases failure <;> rfl

theorem afterFailure_of_not_lengthens {failure : Failure} (harmless : failure.lengthens = false)
    (retries : Retries) (key : Key) : (retries.afterFailure key failure).2 = retries := by
  rw [afterFailure_eq]
  split
  · rfl
  · next waiting =>
      split
      · next retryable => simp [Failure.lengthens, waiting, retryable] at harmless
      · rfl

theorem row_reset (retries : Retries) (key other : Key) :
    (retries.reset key).row other =
      if key.toText = other.toText then (retries.row other).reset else retries.row other := by
  unfold row Retries.reset
  rw [Table.get?_modify]
  split
  · cases retries.get? other.toText <;> rfl
  · rfl

theorem row_forget (retries : Retries) (key other : Key) :
    (retries.forget key).row other =
      if key.toText = other.toText then .fresh else retries.row other := by
  unfold row Retries.forget
  rw [Table.get?_erase]
  split <;> rfl

theorem row_afterFailure {failure : Failure} (lengthens : failure.lengthens = true)
    (retries : Retries) (key other : Key) :
    (retries.afterFailure key failure).2.row other =
      if key.toText = other.toText then (retries.row key).fail.2 else retries.row other := by
  simp only [Failure.lengthens, Bool.and_eq_true, Bool.not_eq_true'] at lengthens
  rw [afterFailure_eq, lengthens.1, lengthens.2, if_neg Bool.false_ne_true, if_pos rfl, row,
    Table.get?_insert]
  split <;> rfl

/-- What comes after a failure depends on the row of its resource only. -/
theorem requeue_congr {retries retries' : Retries} {key : Key}
    (same : retries.row key = retries'.row key) (failure : Failure) :
    (retries.afterFailure key failure).1 = (retries'.afterFailure key failure).1 := by
  rw [afterFailure_eq, afterFailure_eq, same]
  split
  · rfl
  · split <;> rfl

end Engine.Retries

namespace World

theorem failuresInRow_cons (key : Key) (report : Report) (past : List Report) :
    failuresInRow key (report :: past) =
      if report.ends key then 0
      else failuresInRow key past + if report.counts key then 1 else 0 := by
  unfold failuresInRow
  cases ends : report.ends key <;> simp [List.countP_cons, ends]

theorem text_eq_iff {key other : Key} (left : key.Separable) (right : other.Separable) :
    key.toText = other.toText ↔ key = other :=
  ⟨Resource.Key.eq_of_toText left right, congrArg Resource.Key.toText⟩

variable {start world : World} {past : List Report} {key other : Key}

/-- A success of any resource keeps the rows and the counts in step. -/
theorem row_of_success {retries : Retries} (left : other.Separable) (right : key.Separable)
    (ended : retries.row key = if other.toText = key.toText then .after 0 else
      world.retries.row key)
    (row : world.retries.row key = .after (failuresInRow key past)) :
    retries.row key = .after (failuresInRow key (.succeeded other :: past)) := by
  rw [ended, failuresInRow_cons]
  simp only [text_eq_iff left right, Report.ends, Report.counts, decide_eq_true_eq]
  split
  · rfl
  · exact row

/-- A failure of any resource keeps the rows and the counts in step. -/
theorem row_of_failure {failure : Failure} (left : other.Separable) (right : key.Separable)
    (row : world.retries.row key = .after (failuresInRow key past)) :
    (world.afterFailure other failure).2.retries.row key =
      .after (failuresInRow key (.failed other failure :: past)) := by
  rw [failuresInRow_cons]
  cases lengthens : failure.lengthens with
  | true =>
      simp only [afterFailure, Retries.row_afterFailure lengthens, Report.ends, Report.counts,
        lengthens, text_eq_iff left right, Bool.and_true, decide_eq_true_eq]
      split
      · next same =>
          rw [same, row, RetryState.fail_after]
          rfl
      · exact row
  | false =>
      simp only [afterFailure, Retries.afterFailure_of_not_lengthens lengthens, Report.ends,
        Report.counts, lengthens, Bool.and_false]
      exact row

/-- The row of a resource tells how many of its failures count since its last success. -/
theorem row_of_lived (fresh : start.retries = .empty) (lived : Lived start past world)
    (separable : ∀ report ∈ past, report.key.Separable) (right : key.Separable) :
    world.retries.row key = .after (failuresInRow key past) := by
  induction lived with
  | started =>
      rw [fresh]
      rfl
  | failed lived other failure ih =>
      exact row_of_failure (separable _ (.head _)) right
        (ih fun report mem => separable report (.tail _ mem))
  | @reconciled past world lived options other spec ih =>
      rcases world.reconcile_cases options other spec with ⟨action, ok, ended⟩ | ⟨_, failed, same⟩
      · rw [ok] at separable ⊢
        have row := ih fun report mem => separable report (.tail _ mem)
        refine row_of_success (separable _ (.head _)) right ?_ row
        rw [ended, Retries.row_reset, row, RetryState.reset_after]
        rfl
      · rw [failed] at separable ⊢
        rw [same]
        exact ih separable
  | @cleaned past world lived other ih =>
      rcases world.cleanup_cases other with ⟨action, ok, ended⟩ | ⟨_, failed, same⟩
      · rw [ok] at separable ⊢
        have row := ih fun report mem => separable report (.tail _ mem)
        refine row_of_success (separable _ (.head _)) right ?_ row
        rw [ended, Retries.row_forget]
        rfl
      · rw [failed] at separable ⊢
        rw [same]
        exact ih separable
  | elsewhere lived same ih =>
      rw [same]
      exact ih separable

theorem failuresInRow_lengthens {failure : Failure} (lengthens : failure.lengthens = true)
    (key : Key) (past : List Report) :
    failuresInRow key (.failed key failure :: past) = failuresInRow key past + 1 := by
  simp [failuresInRow_cons, Report.ends, Report.counts, lengthens]

/-- A failure of another resource, or one that does not count, leaves the row of a resource. -/
theorem row_between {between : Failure} (left : other.Separable) (right : key.Separable)
    (harmless : other ≠ key ∨ between.lengthens = false) (retries : Retries) :
    (retries.afterFailure other between).2.row key = retries.row key := by
  cases lengthens : between.lengthens with
  | true =>
      have differs : other ≠ key := by simpa [lengthens] using harmless
      rw [Retries.row_afterFailure lengthens, if_neg (mt (text_eq_iff left right).mp differs)]
  | false => rw [Retries.afterFailure_of_not_lengthens lengthens]

/-- After any history, a failure is tried again after half a minute while MAAS is at work, after ten
    minutes when another try cannot help, and otherwise after a limited Fibonacci number of minutes
    that counts the failures of its own resource since the last success, this one included. Failures
    of other resources and those that do not count change no delay, and no sum or product on the way
    is too great for a machine word. -/
theorem requeue_of_lived (fresh : start.retries = .empty) (lived : Lived start past world)
    (separable : ∀ report ∈ past, report.key.Separable) (plain : key.Separable)
    (failure : Failure) :
    (world.afterFailure key failure).1 =
        .requeue (if failure.isWaiting then 30
          else if failure.isRetryable then
            60 * min (Nat.fib (failuresInRow key (.failed key failure :: past))) 10
          else 600) ∧
      (∀ (other : Key) (between : Failure), other.Separable →
        other ≠ key ∨ between.isWaiting = true ∨ between.isRetryable = false →
        ((world.afterFailure other between).2.afterFailure key failure).1 =
          (world.afterFailure key failure).1) ∧
      (failure.lengthens = true →
        failuresInRow key (.failed key failure :: past) < 2 ^ 32 →
        (world.retries.row key).Fits) := by
  have row := row_of_lived fresh lived separable plain
  refine ⟨?_, ?_, ?_⟩
  · have counted : failure.isWaiting = false → failure.isRetryable = true →
        failuresInRow key (.failed key failure :: past) = failuresInRow key past + 1 :=
      fun waiting retryable =>
        failuresInRow_lengthens (by simp [Failure.lengthens, waiting, retryable]) key past
    change (world.retries.afterFailure key failure).1 = _
    rw [Retries.afterFailure_eq, row, RetryState.fail_after]
    cases waiting : failure.isWaiting with
    | true => rfl
    | false =>
        cases retryable : failure.isRetryable with
        | true => simp only [counted waiting retryable, Bool.false_eq_true, if_false, if_true]
        | false => rfl
  · intro other between left harmless
    refine Retries.requeue_congr (row_between left plain ?_ _) failure
    refine harmless.imp_right fun either => ?_
    rcases either with waiting | terminal
    · simp [Failure.lengthens, waiting]
    · simp [Failure.lengthens, terminal]
  · intro lengthens small
    rw [row]
    rw [failuresInRow_lengthens lengthens] at small
    exact RetryState.fits_after small

/-- The third failure in a row after a cleanup waits for two minutes, whatever happened to another
    resource in between. -/
theorem requeue_after_cleanup :
    ∃ world, Lived { clock := default }
        [.failed ⟨"metal", "a"⟩ (.stillProvisioning "x" "Deploying"),
          .failed ⟨"metal", "a"⟩ (.persistence "conflict"),
          .failed ⟨"metal", "b"⟩ (.persistence "conflict"),
          .failed ⟨"metal", "a"⟩ (.persistence "conflict"),
          .succeeded ⟨"metal", "a"⟩,
          .failed ⟨"metal", "a"⟩ (.persistence "conflict")] world ∧
      (world.afterFailure ⟨"metal", "a"⟩ (.persistence "conflict")).1 = .requeue 120 := by
  have start : Lived { clock := default } [] { clock := default } := .started
  have cleaned := (start.failed ⟨"metal", "a"⟩ (.persistence "conflict")).cleaned ⟨"metal", "a"⟩
  have lived := (((cleaned.failed ⟨"metal", "a"⟩ (.persistence "conflict")).failed ⟨"metal", "b"⟩
    (.persistence "conflict")).failed ⟨"metal", "a"⟩ (.persistence "conflict")).failed
    ⟨"metal", "a"⟩ (.stillProvisioning "x" "Deploying")
  refine ⟨_, lived, ?_⟩
  exact (requeue_of_lived rfl lived (by decide) (by decide) (.persistence "conflict")).1

end World

end MachineProvisioning
