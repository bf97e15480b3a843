import MachineProvisioning.Backoff
import MachineProvisioning.Engine.Virtual

/-! # A pass

A pass starts from what is recorded. Without a checkpoint it allocates or composes an instance and
records it; with one it goes on with that instance. A reconciliation also publishes what the pass
has seen, and the result decides when the next one comes.
-/

namespace MachineProvisioning.Engine

open Resource (Key Spec)
open Lifecycle (Instance)
open Store (Checkpoint Saved)

/-- Go on with the recorded instance. One that MAAS no longer knows is forgotten. -/
def resume (options : Options) (key : Key) (spec : Spec) (checkpoint : Checkpoint) :
    Pass Instance := do
  let systemId := checkpoint.instanceId
  match ← Pass.tryMaas (.getMachine systemId) with
  | .ok machine =>
      match spec.mode with
      | .bareMetal => continueBareMetal options key spec machine
      | .virtualized => continueVirtual options key spec machine
  | .error error =>
      match error with
      | .notFound _ => do
          Pass.store (.clearInstance key)
          throw (.instanceGone systemId)
      | _ => throw (.backend ("get machine " ++ systemId) error)

def provisionFrom (options : Options) (key : Key) (spec : Spec) (saved : Saved) :
    Pass Instance := do
  match saved.checkpoint with
  | some checkpoint => resume options key spec checkpoint
  | none =>
      match spec.mode with
      | .bareMetal => allocateBareMetal options key spec
      | .virtualized => composeVirtual options key spec

/-- Bring the declared machine one step closer to a deployed instance. -/
def provision (options : Options) (key : Key) (spec : Spec) : Pass Instance := do
  provisionFrom options key spec (← Pass.store (.load key))

def outcomeOf (failure : Failure) : Outcome :=
  match failure with
  | .stillProvisioning _ _ => .requeue
  | _ => if (AnyError.failure failure).isRetryable then .retryable else .terminal

/-- What the controller does after a pass. -/
inductive Action where
  /-- Another pass after this many seconds. -/
  | requeue (seconds : Nat)
  /-- No pass before the resource changes. -/
  | awaitChange
  deriving Repr, DecidableEq

/-- Seconds to the next look at a settled machine. -/
def readyRequeue : Nat := 300

/-- Seconds to the next look at a machine that MAAS works on. -/
def waitingRequeue : Nat := 30

/-- Seconds to the next try after a failure that another try cannot help. -/
def terminalRequeue : Nat := 600

/-- The failures in a row of each resource, by the text of its key. -/
abbrev Retries := Table String RetryState

namespace Retries

def reset (retries : Retries) (key : Key) : Retries :=
  retries.modify key.toText RetryState.reset

def forget (retries : Retries) (key : Key) : Retries := retries.erase key.toText

/-- What to do after a failed pass. Only retryable failures are counted and delayed more and more. -/
def afterFailure (retries : Retries) (key : Key) (failure : Failure) : Action × Retries :=
  match failure with
  | .stillProvisioning _ _ => (.requeue waitingRequeue, retries)
  | _ =>
      if failure.isRetryable then
        let (seconds, state) := ((retries.get? key.toText).getD .fresh).fail
        (.requeue seconds, retries.insert key.toText state)
      else (.requeue terminalRequeue, retries)

end Retries

/-- Publish the status unless it is the one published before. -/
def publishChange (key : Key) (previous : Option Resource.Status) (status : Resource.Status) :
    Pass Unit :=
  if previous = some status then pure () else Pass.store (.publishStatus key status)

/-- Publish what was seen of the instance; the next pass comes soon unless it is settled. -/
def concludeSeen (key : Key) (previous : Option Resource.Status) (seen : Instance) :
    Pass Action := do
  let clock ← Pass.clock
  let status := Lifecycle.observedStatus previous clock seen
    (Store.providerId seen.zone seen.systemId)
  publishChange key previous status
  Pass.count (.reconciled .success)
  pure (.requeue (if status.ready && status.running then readyRequeue else waitingRequeue))

/-- Publish why the pass failed. A failure to publish does not matter beside it. -/
def concludeFailed {α : Type} (key : Key) (previous : Option Resource.Status)
    (failure : Failure) : Pass α := do
  Pass.count (.reconciled (outcomeOf failure))
  let clock ← Pass.clock
  let status := Lifecycle.failureStatus previous clock failure
  try publishChange key previous status catch _ => pure ()
  throw failure

/-- One pass over a declared machine, with its status published. -/
def reconcile (options : Options) (key : Key) (spec : Spec) : Pass Action := do
  match ← Pass.tryStore (.load key) with
  | .error fault => do
      Pass.count (.reconciled (outcomeOf fault))
      throw fault
  | .ok saved =>
      match ← ExceptT.lift (provisionFrom options key spec saved).run with
      | .ok seen => concludeSeen key saved.status seen
      | .error failure => concludeFailed key saved.status failure

/-- Release what is recorded of a resource that is being deleted. -/
def cleanup (key : Key) : Pass Action := do
  let saved ← Pass.store (.load key)
  match saved.checkpoint with
  | some checkpoint => release key checkpoint.instanceId
  | none => pure ()
  pure .awaitChange

end MachineProvisioning.Engine
