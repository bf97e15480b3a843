import MachineProvisioning.Engine.Effect
import MachineProvisioning.Text.Numeral

/-! # Giving instances back

A release is graceful first and forced when MAAS refuses. A broken instance is released by force and
forgotten, so that the next pass starts afresh; an instance whose operation failed for good is
released and reported. All of these end a pass.
-/

namespace MachineProvisioning.Engine

open Resource (Key)
open Text

/-- Release by force. An instance that is gone counts as released. -/
def forceRelease (systemId : String) : Pass Unit := do
  match ← Pass.tryMaas (.release systemId true) with
  | .ok () => Pass.count .forcedRelease
  | .error (.notFound _) => pure ()
  | .error error => throw (.backend ("force release " ++ systemId) error)

def release (key : Key) (systemId : String) : Pass Unit := do
  match ← Pass.tryMaas (.release systemId false) with
  | .ok () => pure ()
  | .error (.notFound _) => pure ()
  | .error (.invalidState _) => forceRelease systemId
  | .error (.brokenMachine _ _ _) => forceRelease systemId
  | .error error => throw (.backend ("release " ++ systemId) error)
  Pass.store (.clearInstance key)

/-- Look at a VM host for the record; what is found changes nothing. -/
def inspectHost (hostId : Option String) : Pass Unit := do
  match hostId.bind fun id => readUnsigned? maxWord64 id.toList with
  | some id => discard (Pass.tryMaas (.getVmHost (UInt64.ofNat id)))
  | none => pure ()

/-- Release a broken instance by force, clear the checkpoint if it names the instance, and end the
    pass with the signal that it was broken. -/
def recoverBroken {α : Type} (key : Key) (systemId : String) (hostId : Option String) : Pass α := do
  forceRelease systemId
  let saved ← Pass.store (.load key)
  if (saved.checkpoint.map (·.instanceId)) = some systemId then
    Pass.store (.clearInstance key)
  inspectHost hostId
  throw (.brokenInstance systemId)

/-- The machine to recover: the one that MAAS named, when MAAS knows it, or else the one that the
    failed operation addressed. -/
def brokenTarget (named target : Option String) : Pass (Option String) := do
  match named with
  | none => pure target
  | some systemId =>
      match ← Pass.tryMaas (.getMachine systemId) with
      | .ok _ => pure (some systemId)
      | .error _ => pure target

/-- End the pass after a MAAS error: recover a broken machine, and report anything else in its
    context. -/
def failWith {α : Type} (key : Key) (context : String) (target : Option String)
    (error : Maas.Error) : Pass α := do
  match error with
  | .brokenMachine named hostId _ =>
      match ← brokenTarget named target with
      | some systemId => recoverBroken key systemId hostId
      | none => throw (.backend context error)
  | _ => throw (.backend context error)

/-- Release an instance that ended in a failed state, and end the pass with why. -/
def releaseFailed {α : Type} (key : Key) (machine : Maas.Machine) (kind : ProvisioningKind) :
    Pass α := do
  release key machine.systemId
  throw (ProvisioningFailure.new kind
      ("instance " ++ machine.systemId ++ " ended in " ++ machine.statusName ++ " and was released")
    |>.atHost machine.systemId
    |>.withDetail ProvisioningFailure.releasedDetail machine.systemId : Failure)

end MachineProvisioning.Engine
