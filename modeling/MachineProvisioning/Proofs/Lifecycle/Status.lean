import MachineProvisioning.Lifecycle.Status
import MachineProvisioning.Store.Call
import MachineProvisioning.Proofs.Resource.Codec

/-! # Deriving a status again

A status that was derived from what was seen is derived again from the same sight, whatever the clock
says, as long as the status still names the instance, its provider id and its zone.
-/

namespace MachineProvisioning.Lifecycle

open Resource (Status Condition)

variable {previous : Option Status} {status : Status} {clock clock' : ClockReadings}
  {seen : Instance} {providerId : String}

theorem stamp_eq (previous : Option Status) (clock : ClockReadings) (status : Status) :
    stamp previous clock status =
      { status with lastReconciled := (stamp previous clock status).lastReconciled } := by
  unfold stamp
  extract_lets kept
  split <;> rfl

/-- The time of the pass is new unless the status is the one before. -/
theorem lastReconciled_stamp (differs : previous ≠ some (stamp previous clock status)) :
    (stamp previous clock status).lastReconciled = some clock.pass := by
  unfold stamp at differs ⊢
  dsimp only at differs ⊢
  split
  · next same =>
      rw [if_pos same] at differs
      exact absurd same differs
  · rfl

/-- An instance is as ready as it was said to be when it was seen last. -/
theorem isReady_again (ready : status.ready = isReady previous seen)
    (named : status.instanceId = some seen.systemId) :
    isReady (some status) seen = isReady previous seen := by
  simp only [isReady, ready, named, beq_self_eq_true, Bool.and_true]
  cases previous with
  | none => simp
  | some before => simp

/-- The condition keeps its transition time when it is derived again. -/
theorem readyCondition_again {ready : Bool} {reason message : String}
    (derived : status.conditions = [readyCondition previous clock ready reason message]) :
    readyCondition (some status) clock' ready reason message =
      readyCondition previous clock ready reason message := by
  simp [readyCondition, keptTransitionTime, derived]

/-- The status still names what was seen. -/
structure Identifies (status : Status) (seen : Instance) (providerId : String) : Prop where
  instanceId : status.instanceId = some seen.systemId
  providerId : status.providerId = some providerId
  failureDomain : status.failureDomain = seen.zone

theorem identifies_observedStatus :
    Identifies (observedStatus previous clock seen providerId) seen providerId := by
  unfold observedStatus
  extract_lets ready phase
  constructor <;> rw [stamp_eq]

/-- The condition of a derived status. -/
theorem conditions_observedStatus :
    (observedStatus previous clock seen providerId).conditions =
      [readyCondition previous clock (isReady previous seen) seen.state.phase.name
        ("MAAS reports " ++ seen.state.toText)] := by
  unfold observedStatus
  extract_lets ready phase
  rw [stamp_eq]

theorem ready_observedStatus :
    (observedStatus previous clock seen providerId).ready = isReady previous seen := by
  unfold observedStatus
  extract_lets ready phase
  rw [stamp_eq]

/-- Deriving again from what was derived changes nothing. -/
theorem observedStatus_idem :
    observedStatus (some (observedStatus previous clock seen providerId)) clock' seen providerId =
      observedStatus previous clock seen providerId := by
  generalize derived_eq : observedStatus previous clock seen providerId = derived
  have ready : isReady (some derived) seen = isReady previous seen :=
    isReady_again (derived_eq ▸ ready_observedStatus)
      (derived_eq ▸ identifies_observedStatus.instanceId)
  have condition := @readyCondition_again previous derived clock clock' _ _ _
    (derived_eq ▸ conditions_observedStatus)
  rw [observedStatus, stamp_eq] at derived_eq
  rw [observedStatus, stamp, ready, condition, if_pos]
  · subst derived_eq
    rfl
  · subst derived_eq
    rfl

/-- What is derived again from a derived status, of which only the identity may have changed, is that
    status exactly when it still names what was seen. -/
theorem observedStatus_again {instanceId providerId' failureDomain : Option String}
    (kept : status = { observedStatus previous clock seen providerId with
      instanceId, providerId := providerId', failureDomain }) :
    some status = some (observedStatus (some status) clock' seen providerId) ↔
      Identifies status seen providerId := by
  constructor
  · intro same
    rw [Option.some.inj same]
    exact identifies_observedStatus
  · intro identifies
    have derived : status = observedStatus previous clock seen providerId := by
      have before := @identifies_observedStatus previous clock seen providerId
      subst kept
      obtain ⟨rfl, rfl, rfl⟩ := identifies
      rw [← before.instanceId, ← before.providerId, ← before.failureDomain]
    rw [derived, observedStatus_idem]

theorem phaseAfter_idem (failure : Failure) (phase : Resource.Phase) :
    phaseAfter failure (phaseAfter failure phase) = phaseAfter failure phase := by
  cases failure with
  | stillProvisioning systemId reason =>
      by_cases starts : phase = .pending
      · simp [phaseAfter, starts]
      · simp [phaseAfter, starts]
  | _ =>
      simp only [phaseAfter]
      split
      · rfl
      · split <;> rfl

/-- What a failure leaves of the status before it. -/
def keptAfter (failure : Failure) (status : Status) : Status :=
  if failure.released then forgetInstance status else status

/-- The status after a failure, but for the time of the pass. -/
def failedStatus (previous : Option Status) (clock : ClockReadings) (failure : Failure) : Status :=
  let kept := keptAfter failure (previous.getD {})
  { kept with
    phase := phaseAfter failure kept.phase
    error := some failure.message
    conditions := [readyCondition previous clock kept.ready failure.reason failure.message] }

theorem failureStatus_eq (previous : Option Status) (clock : ClockReadings) (failure : Failure) :
    failureStatus previous clock failure =
      stamp previous clock (failedStatus previous clock failure) := rfl

/-- A failure leaves of the status that it led to what it has left before. -/
theorem keptAfter_again {failure : Failure} {kept : Status} {phase : Resource.Phase}
    {error : Option String} {conditions : List Condition} {lastReconciled : Option Instant}
    (before : keptAfter failure status = kept) :
    keptAfter failure { kept with phase, error, conditions, lastReconciled } =
      { kept with phase, error, conditions, lastReconciled } := by
  subst before
  unfold keptAfter
  split
  · rfl
  · rfl

/-- Deriving again from what a failure led to changes nothing. -/
theorem failureStatus_idem {failure : Failure} :
    failureStatus (some (failureStatus previous clock failure)) clock' failure =
      failureStatus previous clock failure := by
  generalize derived_eq : failureStatus previous clock failure = derived
  rw [failureStatus_eq, stamp_eq] at derived_eq
  obtain ⟨kept, kept_eq⟩ : ∃ kept, keptAfter failure (previous.getD {}) = kept := ⟨_, rfl⟩
  simp only [failedStatus, kept_eq] at derived_eq
  have again : keptAfter failure derived = derived := derived_eq ▸ keptAfter_again kept_eq
  have condition := @readyCondition_again previous derived clock clock' kept.ready failure.reason
    failure.message (by rw [← derived_eq])
  have ready : derived.ready = kept.ready := by rw [← derived_eq]
  have phase : phaseAfter failure derived.phase = derived.phase := by
    rw [← derived_eq]
    exact phaseAfter_idem failure kept.phase
  rw [failureStatus_eq, stamp, failedStatus, Option.getD_some, again, ready, condition, phase, if_pos]
  · subst derived_eq
    rfl
  · subst derived_eq
    rfl

/-- The status that the outcome of a pass leads to. -/
def conclusion (previous : Option Status) (clock : ClockReadings) : Except Failure Instance → Status
  | .ok seen => observedStatus previous clock seen (Store.providerId seen.zone seen.systemId)
  | .error failure => failureStatus previous clock failure

/-- The only condition of a concluded status tells of its readiness. -/
theorem conditions_conclusion (outcome : Except Failure Instance) :
    ∃ reason message, (conclusion previous clock outcome).conditions =
      [readyCondition previous clock (conclusion previous clock outcome).ready reason message] := by
  cases outcome with
  | ok seen =>
      have conditions := @conditions_observedStatus previous clock seen
        (Store.providerId seen.zone seen.systemId)
      rw [← ready_observedStatus] at conditions
      exact ⟨_, _, conditions⟩
  | error failure =>
      refine ⟨failure.reason, failure.message, ?_⟩
      rw [conclusion, failureStatus_eq, stamp_eq]
      rfl

theorem conclusion_idem {outcome : Except Failure Instance} :
    conclusion (some (conclusion previous clock outcome)) clock' outcome =
      conclusion previous clock outcome := by
  cases outcome with
  | ok seen => exact observedStatus_idem
  | error failure => exact failureStatus_idem

/-- The clock shows times that can be written. -/
structure ClockReadings.IsProper (clock : ClockReadings) : Prop where
  transition : clock.transition.IsProper
  pass : clock.pass.IsProper

theorem isProper_keptTransitionTime {conditionStatus : String} {t : Instant}
    (before : ∀ status ∈ previous, status.IsProper)
    (kept : keptTransitionTime previous conditionStatus = some t) : t.IsProper := by
  obtain ⟨status, previous_eq, kept⟩ := Option.bind_eq_some_iff.mp kept
  obtain ⟨condition, found, kept⟩ := Option.bind_eq_some_iff.mp kept
  split at kept
  · exact (before status previous_eq).conditions condition (List.mem_of_find?_eq_some found) t kept
  · cases kept

theorem isProper_readyCondition {ready : Bool} {reason message : String}
    (before : ∀ status ∈ previous, status.IsProper) (transition : clock.transition.IsProper) :
    (readyCondition previous clock ready reason message).IsProper := by
  rintro t ⟨⟩
  cases kept : keptTransitionTime previous (if ready then "True" else "False") with
  | none => exact transition
  | some time => exact isProper_keptTransitionTime before kept

/-- What is derived from times that can be written can be written. -/
theorem isProper_observedStatus (before : ∀ status ∈ previous, status.IsProper)
    (proper : clock.IsProper) : (observedStatus previous clock seen providerId).IsProper where
  conditions condition mem := by
    rw [conditions_observedStatus, List.mem_singleton] at mem
    rw [mem]
    exact isProper_readyCondition before proper.transition
  lastReconciled t mem := by
    unfold observedStatus stamp at mem
    dsimp only at mem
    split at mem
    · obtain ⟨status, previous_eq, time⟩ := Option.bind_eq_some_iff.mp mem
      exact (before status previous_eq).lastReconciled t time
    · cases mem
      exact proper.pass

end MachineProvisioning.Lifecycle
