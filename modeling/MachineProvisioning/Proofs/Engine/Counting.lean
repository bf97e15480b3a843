import MachineProvisioning.Proofs.Engine.Conclusion
import MachineProvisioning.Proofs.Engine.Silence
import MachineProvisioning.Proofs.World.Backoff
import MachineProvisioning.Proofs.World.Repetition

/-! # How reconciliations are counted

A reconciliation is counted once, under the label of its result, unless it has seen the instance and
cannot publish what it has seen: such a reconciliation fails and is not counted at all.
-/

namespace MachineProvisioning

open Program (Exchange)
open Resource (Key Spec)
open Lifecycle (Instance ClockReadings)
open Store (Saved)
open Engine

/-- After the failure the controller waits for the next delay of the resource, and the delay after
    that is longer. -/
def Failure.BacksOff (failure : Failure) : Prop :=
  ∀ (retries : Retries) (key : Key), retries.afterFailure key failure =
    (.requeue (retries.row key).fail.1, retries.insert key.toText (retries.row key).fail.2)

theorem Failure.backsOff_iff {failure : Failure} :
    failure.BacksOff ↔ failure.lengthens = true := by
  constructor
  · intro backs
    by_contra harmless
    have kept := Retries.afterFailure_of_not_lengthens (by simpa using harmless) .empty ⟨"", ""⟩
    rw [backs] at kept
    have row := congrArg (Table.get? · (Key.toText ⟨"", ""⟩)) kept
    simp [Table.get?_insert] at row
  · intro lengthens retries key
    obtain ⟨retryable, busy⟩ := Bool.and_eq_true_iff.mp lengthens
    rw [Retries.afterFailure_eq, if_neg (by simpa using busy), if_pos retryable]

namespace Engine

/-- The label that a result is due. -/
inductive Due : Except Failure Action → Outcome → Prop where
  | success (action : Action) : Due (.ok action) .success
  | requeue {failure : Failure} (waiting : failure.isWaiting = true) : Due (.error failure) .requeue
  | retryable {failure : Failure} (other : failure.isWaiting = false) (backs : failure.BacksOff) :
      Due (.error failure) .retryable
  | terminal {failure : Failure} (other : failure.isWaiting = false) (final : ¬failure.BacksOff) :
      Due (.error failure) .terminal

theorem outcomeOf_eq (failure : Failure) :
    outcomeOf failure = if failure.isWaiting then .requeue
      else if failure.isRetryable then .retryable else .terminal := by
  cases failure <;> rfl

/-- The search along the causes of a failure ends at the failure itself, so that the label agrees with
    what the controller does next. -/
theorem due_outcomeOf (failure : Failure) : Due (.error failure) (outcomeOf failure) := by
  rw [outcomeOf_eq]
  cases waiting : failure.isWaiting with
  | true => exact .requeue waiting
  | false =>
      have backs : failure.BacksOff ↔ failure.isRetryable = true := by
        rw [Failure.backsOff_iff, Failure.lengthens, waiting, Bool.not_false, Bool.and_true]
      cases retryable : failure.isRetryable with
      | true => exact .retryable waiting (backs.mpr retryable)
      | false => exact .terminal waiting (by simp [backs, retryable])

/-- The reconciliation that an exchange counts. -/
def counted? : Exchange Effect Effect.Answer → Option Outcome
  | ⟨.count (.reconciled outcome), _⟩ => some outcome
  | _ => none

/-- The reconciliations that are counted, in order. -/
def tally (transcript : Transcript) : List Outcome := transcript.filterMap counted?

@[simp] theorem tally_append (first rest : Transcript) :
    tally (first ++ rest) = tally first ++ tally rest := List.filterMap_append

@[simp] theorem tally_nil : tally [] = [] := rfl

@[simp] theorem tally_store (call : Store.Call) (reply : call.Reply) (rest : Transcript) :
    tally (⟨.store call, reply⟩ :: rest) = tally rest := rfl

@[simp] theorem tally_counted (outcome : Outcome) (reply : Unit) (rest : Transcript) :
    tally (⟨.count (.reconciled outcome), reply⟩ :: rest) = outcome :: tally rest := rfl

@[simp] theorem tally_readings (clock : ClockReadings) : tally (readings clock) = [] := rfl

theorem tally_of_works {transcript : Transcript} (works : ∀ exchange ∈ transcript, Works exchange.1) :
    tally transcript = [] := by
  refine List.filterMap_eq_nil_iff.mpr fun exchange mem => ?_
  have worked := works exchange mem
  unfold counted?
  split
  · cases worked
  · rfl

variable {options : Options} {key : Key} {spec : Spec} {previous : Option Resource.Status}
  {status : Resource.Status} {clock : ClockReadings} {outcome : Except Failure Instance}
  {transcript : Transcript} {result : Except Failure Action}

theorem tally_of_publishing {reply : Except Failure Unit}
    (publishes : Publishing key previous status reply transcript) : tally transcript = [] := by
  cases publishes <;> rfl

/-- A reconciliation that has seen the instance and could not publish its status. -/
inductive Unreported (options : Options) (key : Key) (spec : Spec) :
    Except Failure Action → Transcript → Prop where
  | mk {saved : Saved} {worked : Transcript} {seen : Instance} (clock : ClockReadings)
      (fault : Failure)
      (provisions : Program.Trace (provisionFrom options key spec saved).run worked (.ok seen)) :
      Unreported options key spec (.error fault)
        (⟨.store (.load key), .ok saved⟩ :: (worked ++ (readings clock ++
          [⟨.store (.publishStatus key (Lifecycle.conclusion saved.status clock (.ok seen))),
            .error fault⟩])))

theorem Unreported.tally (unreported : Unreported options key spec result transcript) :
    tally transcript = [] := by
  obtain ⟨clock, fault, provisions⟩ := unreported
  simp [tally_of_works ((asks_provisionFrom _).trace provisions)]

/-- A conclusion is counted once unless the status of a seen instance could not be published. -/
theorem Concluding.tally (concludes : Concluding key previous clock outcome result transcript) :
    (∃ label, Due result label ∧ tally transcript = [label]) ∨
      ∃ seen fault, outcome = .ok seen ∧ result = .error fault ∧ transcript = readings clock ++
        [⟨.store (.publishStatus key (Lifecycle.conclusion previous clock (.ok seen))),
          .error fault⟩] := by
  cases concludes with
  | seen action publishes =>
      exact .inl ⟨.success, .success action, by simp [tally_of_publishing publishes]⟩
  | @unpublished seen _ fault fails =>
      cases fails
      exact .inr ⟨seen, fault, rfl, rfl, rfl⟩
  | @failed failure _ _ publishes =>
      exact .inl ⟨outcomeOf failure, due_outcomeOf failure, by simp [tally_of_publishing publishes]⟩

theorem Reconciling.tally (reconciles : Reconciling options key spec result transcript) :
    (∃ label, Due result label ∧ tally transcript = [label]) ∨
      Unreported options key spec result transcript := by
  cases reconciles with
  | unloaded fault => exact .inl ⟨outcomeOf fault, due_outcomeOf fault, rfl⟩
  | concluded provisions concludes =>
      obtain ⟨label, due, once⟩ | ⟨seen, fault, rfl, rfl, rfl⟩ := concludes.tally
      · have worked := tally_of_works ((asks_provisionFrom _).trace provisions)
        exact .inl ⟨label, due, by simp [worked, once]⟩
      · exact .inr (.mk _ fault provisions)

end Engine

namespace Telemetry.Metrics

/-- The counters after an exchange. -/
def afterExchange (metrics : Metrics) : Exchange Effect Effect.Answer → Metrics
  | ⟨.count event, _⟩ => metrics.record event
  | _ => metrics

/-- The counters after the exchanges of a pass. -/
def after (metrics : Metrics) (transcript : Transcript) : Metrics :=
  transcript.foldl afterExchange metrics

/-- Only counted reconciliations move the counters of reconciliations. -/
theorem reconciliations_after (metrics : Metrics) (transcript : Transcript) :
    (metrics.after transcript).reconciliations =
      (tally transcript).foldl (fun counts outcome => increment counts outcome.name)
        metrics.reconciliations := by
  induction transcript generalizing metrics with
  | nil => rfl
  | cons exchange rest ih =>
      obtain ⟨effect, reply⟩ := exchange
      cases effect with
      | count event => cases event <;> exact ih _
      | _ => exact ih metrics

theorem increment_ne (counts : Table String Nat) (label : String) :
    increment counts label ≠ counts := by
  intro same
  have count := congrArg (Table.get? · label) same
  simp only [increment, Table.get?_insert, if_pos] at count
  rw [← count] at count
  simp at count

end Telemetry.Metrics

namespace World

open Telemetry (Metrics)
open Telemetry.Metrics (increment)

theorem metrics_answer (effect : Effect) (world : World) :
    (answer effect world).2.metrics =
      world.metrics.afterExchange ⟨effect, (answer effect world).1⟩ := by
  cases effect with
  | maas call =>
      simp only [answer, answerMaas]
      split <;> rfl
  | store call =>
      simp only [answer, answerStore]
      split <;> rfl
  | clock | count event => rfl

/-- A world has the counters that its exchanges leave. -/
theorem metrics_run {α : Type} (world : World) (program : Procedure α) :
    (world.run program).2.metrics = world.metrics.after (program.exchanges answer world) := by
  induction program generalizing world with
  | done a => rfl
  | ask effect next ih =>
      change ((answer effect world).2.run (next (answer effect world).1)).2.metrics = _
      rw [ih, metrics_answer]
      rfl

end World

namespace Engine

open Telemetry (Metrics)
open Telemetry.Metrics (increment)

variable {options : Options} {key : Key} {spec : Spec} {transcript : Transcript}
  {result : Except Failure Action}

/-- However MAAS and the store answer, a reconciliation is counted exactly once, as a success, as
    waiting, as a failure after which the controller backs off or as any other one, unless it has seen
    the instance and could not publish its status. That reconciliation fails and is not counted. -/
theorem counts_once_iff
    (trace : Program.Trace (reconcile options key spec).run transcript result) (metrics : Metrics) :
    ((∃ outcome, Due result outcome ∧ (metrics.after transcript).reconciliations =
        increment metrics.reconciliations outcome.name) ↔
      ¬Unreported options key spec result transcript) ∧
    (Unreported options key spec result transcript →
      (metrics.after transcript).reconciliations = metrics.reconciliations) := by
  have uncounted : Unreported options key spec result transcript →
      (metrics.after transcript).reconciliations = metrics.reconciliations := by
    intro unreported
    rw [Metrics.reconciliations_after, unreported.tally]
    rfl
  refine ⟨⟨?_, fun reported => ?_⟩, uncounted⟩
  · rintro ⟨outcome, -, once⟩ unreported
    rw [uncounted unreported] at once
    exact Metrics.increment_ne _ _ once.symm
  · obtain ⟨outcome, due, once⟩ | unreported := (reconciling_of_trace trace).tally
    · exact ⟨outcome, due, by rw [Metrics.reconciliations_after, once]; rfl⟩
    · exact absurd unreported reported

/-- The reconciliation of a deployed machine is a success. -/
theorem counts_once_deployed :
    let pass := reconcile {} ⟨"metal", "worker-0"⟩ { minCpu := 1, minMemoryMib := 1 }
    (World.deployedScene.pass pass).1 = .ok (.requeue 300) ∧
      (World.deployedScene.pass pass).2.metrics.reconciliations = increment .empty "success" := by
  intro pass
  have succeeds : (World.deployedScene.pass pass).1 = .ok (.requeue 300) :=
    World.eq_ok_of_toOption (by decide +kernel)
  have trace := Program.trace_exchanges World.answer pass.run World.deployedScene
  rw [show (pass.run.run World.answer World.deployedScene).1 = _ from succeeds] at trace
  obtain ⟨_, ⟨⟩, once⟩ := (counts_once_iff trace World.deployedScene.metrics).1.mpr nofun
  exact ⟨succeeds, (congrArg _ (World.metrics_run _ pass.run)).trans once⟩

/-- What the store says when it ends a pass. -/
def storeFault? {α : Type} : Except Failure α → Option String
  | .error (.persistence text) => some text
  | _ => none

theorem eq_error_of_storeFault? {α : Type} {result : Except Failure α} {text : String}
    (given : storeFault? result = some text) : result = .error (.persistence text) := by
  unfold storeFault? at given
  split at given
  · cases given
    rfl
  · cases given

/-- The deployed machine is seen, but its status cannot be published. The label that the failure is due
    is not counted. -/
theorem uncounted_unpublished :
    let conflict : Failure := .persistence "conflict"
    let world := { World.deployedScene with storeFaults := .plan .empty "publish_status" 0 conflict }
    let pass := reconcile {} ⟨"metal", "worker-0"⟩ { minCpu := 1, minMemoryMib := 1 }
    (world.pass pass).1 = .error conflict ∧ Due (.error conflict) .retryable ∧
      (world.pass pass).2.metrics.reconciliations = .empty :=
  ⟨eq_error_of_storeFault? (by decide +kernel), due_outcomeOf (.persistence "conflict"),
    by decide +kernel⟩

end Engine

end MachineProvisioning
