import MachineProvisioning.Engine.Addressing
import MachineProvisioning.Engine.Deployment

/-! # Physical machines

A physical machine is allocated by its constraints and recorded before anything is done to it. Then
it gets its hostname, no swap, its bridge and its static address, and is deployed. Every step looks
at the machine first, so that an interrupted pass is resumed where it stopped.
-/

namespace MachineProvisioning.Engine

open Resource (Key Spec BridgeSpec)
open Lifecycle (Instance)
open Maas (Machine)

/-- Create the declared bridge on the boot interface unless there is an interface of its name. -/
def ensureBridge (systemId : String) (bridge : BridgeSpec) : Pass Unit := do
  let interfaces ← Pass.maas ("list interfaces of " ++ systemId) (.listInterfaces systemId)
  if interfaces.any (·.name == bridge.name) then pure ()
  else
    discard (changeNetwork systemId ("failed to create bridge " ++ bridge.name)
      (.createBridge systemId ⟨bridge.name, bridge.stp, bridge.forwardDelay⟩))

/-- Give the machine its declared name, or else the name of the resource. -/
def ensureHostname (key : Key) (spec : Spec) (machine : Machine) : Pass Unit := do
  let systemId := machine.systemId
  let hostname := spec.hostname.getD key.name
  if machine.hostname = hostname then pure ()
  else
    match ← Pass.tryMaas (.setHostname systemId hostname) with
    | .ok _ => pure ()
    | .error error =>
        match error with
        | .hostnameInUse _ =>
            throw (.configuration
              ("hostname " ++ hostname ++ " is used by another MAAS node: " ++ error.message))
        | _ => failWith key ("set hostname of " ++ systemId) (some systemId) error

def ensureNoSwap (machine : Machine) : Pass Unit :=
  if machine.swapSize = some 0 then pure ()
  else
    discard (Pass.maas ("disable swap on " ++ machine.systemId) (.setSwapSize machine.systemId 0))

/-- Hostname, swap, bridge and static address, and then the deployment. -/
def configureAndDeploy (options : Options) (key : Key) (spec : Spec) (machine : Machine) :
    Pass Instance := do
  let systemId := machine.systemId
  ensureHostname key spec machine
  ensureNoSwap machine
  match spec.bridge with
  | none => pure ()
  | some bridge => ensureBridge systemId bridge
  match spec.staticIp with
  | none => pure ()
  | some staticIp => applyStaticIp key systemId staticIp
  return .ofMachine (← deploy options key spec systemId)

def allocateAgain (key : Key) (systemId : String) : Pass Machine := do
  match ← Pass.tryMaas (.allocate { systemId := some systemId }) with
  | .ok machine => pure machine
  | .error error => failWith key ("allocate " ++ systemId) (some systemId) error

/-- Go on with a recorded physical machine from the state it is in. -/
def continueBareMetal (options : Options) (key : Key) (spec : Spec) (machine : Machine) :
    Pass Instance := do
  let systemId := machine.systemId
  let state := Lifecycle.State.ofText machine.statusName
  match state with
  | .allocated => configureAndDeploy options key spec machine
  | .ready => do configureAndDeploy options key spec (← allocateAgain key systemId)
  | .deploying => pure (.ofMachine machine)
  | .deployed => return .ofMachine (← ensurePoweredOn machine)
  | .broken => recoverBroken key systemId none
  | _ =>
      if state.isFailed then releaseFailed key machine .vmDeploymentFailed
      else throw (.stillProvisioning systemId ("machine is " ++ state.toText))

def allocateDeclared (key : Key) (spec : Spec) : Pass Machine := do
  let params : Maas.AllocateParams :=
    { cpuCount := some spec.minCpu
      memory := some spec.minMemoryMib
      zone := spec.failureDomain
      pool := spec.resourcePool
      tags := spec.tags }
  match ← Pass.tryMaas (.allocate params) with
  | .ok machine => pure machine
  | .error error =>
      match error with
      | .insufficientResources _ =>
          throw (ProvisioningFailure.new .insufficientResources
              ("no machine with " ++ Text.decimal spec.minCpu.toNat ++ " cores and " ++
                Text.decimal spec.minMemoryMib.toNat ++ " MiB available")
            |>.withDetail "zone" (spec.failureDomain.getD "")
            |>.withDetail "pool" (spec.resourcePool.getD "")
            |>.causedBy (.maas error) : Failure)
      | _ => failWith key "allocate machine" none error

/-- Record a machine just allocated. Nothing else says whose it is, so a machine that cannot be
    recorded is released. -/
def recordAllocated (key : Key) (spec : Spec) (machine : Machine) : Pass Unit := do
  let zone := (machine.zone.map (·.name)).or spec.failureDomain
  let checkpoint := Store.Checkpoint.new machine.systemId zone (some machine.hostname)
  match ← Pass.tryStore (.recordInstance key checkpoint) with
  | .ok () => Pass.count (.allocated .bareMetal)
  | .error fault => do
      discard (Pass.tryMaas (.release machine.systemId false))
      throw fault

def allocateBareMetal (options : Options) (key : Key) (spec : Spec) : Pass Instance := do
  match spec.staticIp with
  | none => pure ()
  | some staticIp => discard (validated key staticIp)
  let machine ← allocateDeclared key spec
  recordAllocated key spec machine
  continueBareMetal options key spec machine

end MachineProvisioning.Engine
