import MachineProvisioning.Failure
import MachineProvisioning.Lifecycle.State
import MachineProvisioning.Maas.Model

/-! # Deriving the status

The status that a pass publishes follows from the status before it and what the pass has seen: an
instance or a failure. Readiness lasts as long as the instance stays the same, the transition time of
the condition is kept while the condition does not change, and the time of the last pass moves only
with some other change. Deriving again from what was derived therefore changes nothing, whatever the
clock says.
-/

namespace MachineProvisioning.Lifecycle

open Resource (Status Condition Phase)

/-- What is seen of the instance that backs a declared machine. -/
structure Instance where
  systemId : String
  hostname : String
  state : State
  power : Power
  addresses : List String
  zone : Option String
  /-- The VM host the instance was composed on. -/
  vmHost : Option String
  deriving Repr, DecidableEq

def Instance.ofMachine (machine : Maas.Machine) : Instance :=
  { systemId := machine.systemId
    hostname := machine.hostname
    state := .ofText machine.statusName
    power := .ofText machine.powerState
    addresses := machine.ipAddresses
    zone := machine.zone.map (·.name)
    vmHost := machine.pod.map (·.name) }

/-- The clock as it is read when a status is derived. -/
structure ClockReadings where
  /-- The time of a change of the condition. -/
  transition : Instant
  /-- The time of the pass. -/
  pass : Instant
  deriving Repr, DecidableEq

/-- An instance is ready once a deployment was accepted and addresses were seen, and stays ready. -/
def isReady (previous : Option Status) (seen : Instance) : Bool :=
  let sticky := match previous with
    | some status => status.ready && status.instanceId == some seen.systemId
    | none => false
  let accepted := match seen.state with
    | .deploying | .deployed => true
    | _ => false
  sticky || (accepted && !seen.addresses.isEmpty)

/-- The transition time of the condition before, if it had the same status. -/
def keptTransitionTime (previous : Option Status) (conditionStatus : String) : Option Instant := do
  let before ← previous
  let condition ← before.conditions.find? (·.kind == "Ready")
  if condition.status = conditionStatus then condition.lastTransitionTime else none

/-- The only condition of a status. -/
def readyCondition (previous : Option Status) (clock : ClockReadings) (ready : Bool)
    (reason message : String) : Condition :=
  let conditionStatus := if ready then "True" else "False"
  { kind := "Ready"
    status := conditionStatus
    reason := some reason
    message := some message
    lastTransitionTime := some ((keptTransitionTime previous conditionStatus).getD clock.transition) }

/-- The status with the time of the last pass, which stays when nothing else has changed. -/
def stamp (previous : Option Status) (clock : ClockReadings) (status : Status) : Status :=
  let kept := { status with lastReconciled := previous.bind (·.lastReconciled) }
  if previous = some kept then kept else { kept with lastReconciled := some clock.pass }

/-- The status after a pass that saw the instance. -/
def observedStatus (previous : Option Status) (clock : ClockReadings) (seen : Instance)
    (providerId : String) : Status :=
  let ready := isReady previous seen
  let phase := seen.state.phase
  stamp previous clock
    { instanceId := some seen.systemId
      providerId := some providerId
      failureDomain := seen.zone
      hostname := some seen.hostname
      machineState := some seen.state.toText
      powerState := some seen.power.toText
      addresses := seen.addresses
      running := seen.state.isRunning
      operational := seen.state.isOperational
      knownState := seen.state.isKnown
      ready
      phase
      conditions :=
        [readyCondition previous clock ready phase.name ("MAAS reports " ++ seen.state.toText)]
      error := none
      lastReconciled := none }

def forgetInstance (status : Status) : Status :=
  { status with
    instanceId := none
    providerId := none
    machineState := none
    powerState := none
    addresses := []
    ready := false
    running := false
    operational := false
    knownState := false }

/-- The phase after a failure: waiting and retryable failures keep it, a released instance starts
    over, and the others end it. -/
def phaseAfter (failure : Failure) (phase : Phase) : Phase :=
  match failure with
  | .stillProvisioning _ _ => if phase = .pending then .commissioning else phase
  | _ =>
      if failure.released then .pending
      else if failure.isRetryable then phase
      else .failed

/-- The status after a pass that failed. What was seen is kept unless the instance is gone. -/
def failureStatus (previous : Option Status) (clock : ClockReadings) (failure : Failure) : Status :=
  let before := previous.getD {}
  let kept := if failure.released then forgetInstance before else before
  stamp previous clock
    { kept with
      phase := phaseAfter failure kept.phase
      error := some failure.message
      conditions := [readyCondition previous clock kept.ready failure.reason failure.message] }

end MachineProvisioning.Lifecycle
