import MachineProvisioning.Engine.BareMetal
import MachineProvisioning.Placement.Selection

/-! # Virtual machines

A virtual machine is composed on a chosen VM host and recorded before anything is done to it.
Composing is not idempotent: when the hostname is in use, an earlier pass has composed the machine,
and it is adopted. Then it gets its tags, networks and static address, and is deployed.
-/

namespace MachineProvisioning.Engine

open Resource (Key Spec VirtualizedSpec)
open Lifecycle (Instance)
open Maas (Machine VmHost)

/-- The annotation that names the VM host by its number. -/
def vmHostAnnotationName : String := "dcops.microscaler.io/vm-host"

/-- The host to compose on: the pinned one, unless it is excluded, or a host for the declared zone
    and pool. -/
def place (policy : Placement.Policy) (spec : Spec) (shape : VirtualizedSpec)
    (hosts : List VmHost) : Pass VmHost := do
  match shape.vmHost with
  | some pinned => do
      let candidates := hosts.filter (·.name == pinned)
      if candidates.isEmpty then
        throw ((ProvisioningFailure.new .hostUnavailable
          ("pinned VM host " ++ pinned ++ " not found")).atHost pinned : Failure)
      choose .strict candidates none none
  | none => choose policy.relaxation hosts spec.failureDomain spec.resourcePool
where
  choose (order : Placement.Relaxation) (hosts : List VmHost) (zone pool : Option String) :
      Pass VmHost := do
    match ← ExceptT.lift (Placement.select policy order hosts zone pool) with
    | .ok host => pure host
    | .error unavailable => throw (.provisioning unavailable)

/-- The first machine of this hostname: among all machines, or else among those of the host. -/
def findByHostname (hostname : String) (hostId : UInt64) (hostName : String) :
    Pass (Option Machine) := do
  let everywhere ← Pass.maas ("list machines named " ++ hostname)
    (.listMachines [("hostname", hostname)])
  match everywhere.find? (Wiring.hostnameMatches · hostname) with
  | some machine => pure (some machine)
  | none => do
      let onHost ← Pass.maas ("list VMs on host " ++ hostName) (.listHostVms hostId)
      pure (onHost.find? (Wiring.hostnameMatches · hostname))

def compositionKind : Maas.Error → ProvisioningKind
  | .insufficientResources _ => .insufficientResources
  | .hostResource .profile _ => .profileNotFound
  | .hostResource .project _ => .projectNotFound
  | .hostResource .storage _ => .storageConfiguration
  | _ => .vmCreationFailed

def compositionFailure (host : VmHost) (error : Maas.Error) : ProvisioningFailure :=
  ProvisioningFailure.new (compositionKind error) ("compose on VM host " ++ host.name ++ " failed")
    |>.atHost host.name
    |>.withDetail "vm_host_id" (Text.decimal host.id.toNat)
    |>.causedBy (.maas error)

def networkMismatch (host : VmHost) (pool : Maas.NamedRef) (networks : List String)
    (text : String) : Failure :=
  .configuration ("VM host " ++ host.name ++ " (zone " ++
    ((host.zone.map (·.name)).getD "<none>") ++ ", pool " ++ pool.name ++
    ") cannot attach networks [" ++ Text.join ", " networks ++ "]: " ++ text)

/-- Compose a virtual machine, or adopt the one that an earlier pass composed: its system id, and
    whether it is new. -/
def composeOrAdopt (key : Key) (host : VmHost) (pool : Maas.NamedRef) (networks : List String)
    (params : Maas.ComposeParams) : Pass (String × Bool) := do
  match ← Pass.tryMaas (.compose host.id params) with
  | .ok vm => pure (vm.systemId, true)
  | .error error =>
      let context := "compose VM " ++ params.hostname
      match error with
      | .hostnameInUse _ =>
          match ← findByHostname params.hostname host.id host.name with
          | some existing => pure (existing.systemId, false)
          | none => throw (.backend context error)
      | .networkMismatch text => throw (networkMismatch host pool networks text)
      | .brokenMachine _ _ _ => failWith key context none error
      | _ => throw (.provisioning (compositionFailure host error))

/-- Create and assign the tags that the machine lacks, and give back the machine with them. -/
def ensureTags (machine : Machine) : List String → Pass Machine
  | [] => pure machine
  | tag :: rest => do
      if machine.tagNames.contains tag then ensureTags machine rest
      else
        discard (Pass.maas ("create tag " ++ tag) (.createTag tag))
        Pass.maas ("tag " ++ machine.systemId ++ " with " ++ tag) (.assignTag tag machine.systemId)
        ensureTags { machine with tagNames := machine.tagNames ++ [tag] } rest

/-- Tags, networks and static address, and then the deployment, of a machine that is ready or
    allocated. -/
def finishVirtual (options : Options) (key : Key) (spec : Spec) (machine : Machine)
    (allocated : Bool) : Pass Instance := do
  let systemId := machine.systemId
  discard (ensureTags machine spec.tags)
  verifyNetwork systemId ((spec.virtualized.map (·.networks)).getD [])
  match spec.staticIp with
  | none => pure ()
  | some staticIp => applyStaticIp key systemId staticIp
  if !allocated then discard (allocateAgain key systemId)
  return .ofMachine (← deploy options key spec systemId)

/-- Go on with a recorded virtual machine from the state it is in. -/
def continueVirtual (options : Options) (key : Key) (spec : Spec) (machine : Machine) :
    Pass Instance := do
  let systemId := machine.systemId
  let state := Lifecycle.State.ofText machine.statusName
  match state with
  | .commissioning | .testing =>
      throw (.stillProvisioning systemId "VM composed, commissioning not finished")
  | .new => throw (.stillProvisioning systemId "VM composed, commissioning not started")
  | .ready => finishVirtual options key spec machine false
  | .allocated => finishVirtual options key spec machine true
  | .deploying => pure (.ofMachine machine)
  | .deployed => return .ofMachine (← ensurePoweredOn machine)
  | .broken =>
      recoverBroken key systemId (machine.pod.map fun pod => Text.decimal pod.id.toNat)
  | .failedDeployment => releaseFailed key machine .vmDeploymentFailed
  | _ =>
      if state.isFailed then releaseFailed key machine .vmCreationFailed
      else throw (.stillProvisioning systemId ("VM is " ++ state.toText))

def composeVirtual (options : Options) (key : Key) (spec : Spec) : Pass Instance := do
  let shape := spec.virtualized.getD {}
  let staticIp ← match spec.staticIp with
    | none => pure none
    | some declared => some <$> validated key declared
  let hosts ← Pass.maas "list VM hosts" .listVmHosts
  let host ← place options.placement spec shape hosts
  let pool ← match host.pool with
    | some pool => pure pool
    | none =>
        throw (.configuration
          ("failed to select host: no resource pool (VM host " ++ host.name ++ ")"))
  Pass.store (.annotate key vmHostAnnotationName (Text.decimal host.id.toNat))
  let hostname := spec.hostname.getD key.name
  let (systemId, composed) ← composeOrAdopt key host pool shape.networks
    { cores := spec.minCpu
      memory := spec.minMemoryMib
      storage := shape.storageGib.map fun size => "root:" ++ Text.decimal size.toNat
      hostname
      zone := host.zone.map (·.id)
      pool := some pool.id
      interfaces := Wiring.constraints shape.networks staticIp }
  Pass.store (.recordInstance key
    (Store.Checkpoint.new systemId (host.zone.map (·.name)) (some hostname)))
  if composed then Pass.count (.allocated .virtualized)
  let machine ← Pass.maas ("get machine " ++ systemId) (.getMachine systemId)
  let machine ← ensureTags machine spec.tags
  continueVirtual options key spec machine

end MachineProvisioning.Engine
