import MachineProvisioning.Json.Basic
import MachineProvisioning.Table
import MachineProvisioning.Time.Instant

/-! # The declared machine

A declared machine is a Kubernetes custom resource. Its spec says what is wanted, its status what was
last seen, and the identifiers in its status record the instance that backs it.
-/

namespace MachineProvisioning.Resource

def group : String := "dcops.microscaler.io"

def version : String := "v1alpha1"

def kind : String := "MaasMachine"

def plural : String := "maasmachines"

/-- How a machine is backed. -/
inductive Mode where
  /-- A physical machine is allocated. -/
  | bareMetal
  /-- A virtual machine is composed. -/
  | virtualized
  deriving Repr, DecidableEq, Inhabited

def Mode.name : Mode → String
  | .bareMetal => "bare-metal"
  | .virtualized => "virtualized"

structure StaticIpSpec where
  address : String
  gateway : String
  /-- A CIDR, a number of bits or a dotted mask. -/
  subnet : String
  dnsServers : List String := []
  /-- The interface to bind; found by its subnet when absent. -/
  interface : Option String := none
  deriving Repr, DecidableEq, Inhabited

structure BridgeSpec where
  name : String
  stp : Bool := false
  /-- Forward delay in seconds. -/
  forwardDelay : UInt32 := 15
  deriving Repr, DecidableEq, Inhabited

/-- The shape and placement of a virtual machine. -/
structure VirtualizedSpec where
  /-- Size of the root disk in GiB. -/
  storageGib : Option UInt32 := none
  /-- Subnet names or CIDRs: of two, the management network and the workload network. -/
  networks : List String := []
  /-- The only VM host to compose on. -/
  vmHost : Option String := none
  deriving Repr, DecidableEq, Inhabited

/-- What is wanted of a machine. -/
structure Spec where
  minCpu : UInt32
  minMemoryMib : UInt64
  /-- The distro series to deploy. -/
  image : Option String := none
  failureDomain : Option String := none
  resourcePool : Option String := none
  tags : List String := []
  mode : Mode := .bareMetal
  hostname : Option String := none
  userData : Option String := none
  staticIp : Option StaticIpSpec := none
  bridge : Option BridgeSpec := none
  virtualized : Option VirtualizedSpec := none
  deriving Repr, DecidableEq, Inhabited

/-- How far provisioning has come. -/
inductive Phase where
  | pending
  | allocated
  | commissioning
  | deploying
  | deployed
  | releasing
  | failed
  deriving Repr, DecidableEq, Inhabited

def Phase.name : Phase → String
  | .pending => "Pending"
  | .allocated => "Allocated"
  | .commissioning => "Commissioning"
  | .deploying => "Deploying"
  | .deployed => "Deployed"
  | .releasing => "Releasing"
  | .failed => "Failed"

structure Condition where
  kind : String
  /-- `True`, `False` or `Unknown`. -/
  status : String
  reason : Option String := none
  message : Option String := none
  lastTransitionTime : Option Instant := none
  deriving Repr, DecidableEq, Inhabited

/-- What was last seen of a machine, and the identifiers of the instance that backs it. -/
structure Status where
  instanceId : Option String := none
  providerId : Option String := none
  failureDomain : Option String := none
  hostname : Option String := none
  machineState : Option String := none
  powerState : Option String := none
  addresses : List String := []
  running : Bool := false
  operational : Bool := false
  /-- False when MAAS reported an unknown state. -/
  knownState : Bool := false
  /-- Deployed, with addresses seen. -/
  ready : Bool := false
  phase : Phase := .pending
  conditions : List Condition := []
  error : Option String := none
  lastReconciled : Option Instant := none
  deriving Repr, DecidableEq, Inhabited

/-- Namespace and name of a declared machine. -/
structure Key where
  namespace_ : String
  name : String
  deriving Repr, DecidableEq, Inhabited

def Key.toText (key : Key) : String := key.namespace_ ++ "/" ++ key.name

structure OwnerReference where
  apiVersion : String
  blockOwnerDeletion : Option Bool
  controller : Option Bool
  kind : String
  name : String
  uid : String
  deriving Repr, DecidableEq

/-- Which fields of an object one client manages. -/
structure ManagedFields where
  apiVersion : Option String := none
  fieldsType : Option String := none
  /-- The fields, in a form that only the API server reads. -/
  fieldsV1 : Option Json := none
  manager : Option String := none
  operation : Option String := none
  subresource : Option String := none
  time : Option Instant := none
  deriving Repr

/-- What Kubernetes keeps about an object. -/
structure Metadata where
  annotations : Option (Table String String) := none
  creationTimestamp : Option Instant := none
  deletionGracePeriodSeconds : Option Int := none
  deletionTimestamp : Option Instant := none
  finalizers : Option (List String) := none
  generateName : Option String := none
  generation : Option Int := none
  labels : Option (Table String String) := none
  managedFields : Option (List ManagedFields) := none
  name : Option String := none
  namespace_ : Option String := none
  ownerReferences : Option (List OwnerReference) := none
  resourceVersion : Option String := none
  selfLink : Option String := none
  uid : Option String := none
  deriving Repr, Inhabited

/-- A declared machine. -/
structure Object where
  metadata : Metadata
  spec : Spec
  status : Option Status := none
  deriving Repr, Inhabited

/-- The key of an object. A generated name stands in for a missing one. -/
def Metadata.key (metadata : Metadata) : Key :=
  { namespace_ := metadata.namespace_.getD "default"
    name := (metadata.name.or metadata.generateName).getD "" }

end MachineProvisioning.Resource
