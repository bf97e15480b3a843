/-! # What MAAS reports

Machines, VM hosts, interfaces, subnets, address allocations and tags as the MAAS region describes
them, and the parameters of the operations it offers.
-/

namespace MachineProvisioning.Maas

/-- A zone, resource pool or VM host by number and name. -/
structure NamedRef where
  id : UInt64
  name : String
  deriving Repr, DecidableEq, Inhabited

structure Vlan where
  id : UInt64
  name : String
  fabric : String
  deriving Repr, DecidableEq, Inhabited

/-- A subnet as it appears in the links of an interface. -/
structure Subnet where
  id : UInt64
  name : String
  cidr : String
  gatewayIp : Option String
  vlan : Option Vlan
  deriving Repr, DecidableEq, Inhabited

inductive LinkMode where
  | auto
  | dhcp
  | static
  | linkUp
  deriving Repr, DecidableEq, Inhabited

/-- A link of an interface to a subnet. The subnet is known once commissioning has discovered it. -/
structure Link where
  id : UInt64
  mode : LinkMode
  subnet : Option Subnet
  ipAddress : Option String
  deriving Repr, DecidableEq, Inhabited

structure Interface where
  id : UInt64
  name : String
  /-- Physical, bridge, bond or VLAN. -/
  kind : String
  macAddress : Option String
  enabled : Bool
  links : List Link
  deriving Repr, DecidableEq, Inhabited

/-- A bare-metal or virtual machine. -/
structure Machine where
  systemId : String
  hostname : String
  fqdn : String := ""
  cpuCount : UInt32 := 0
  /-- Memory in MiB. -/
  memory : UInt64 := 0
  /-- The lifecycle state in the words of MAAS. -/
  statusName : String := ""
  powerState : String := ""
  zone : Option NamedRef := none
  pool : Option NamedRef := none
  ipAddresses : List String := []
  tagNames : List String := []
  /-- Swap in bytes; absent for the default of MAAS. -/
  swapSize : Option UInt64 := none
  bootInterface : Option Interface := none
  interfaceSet : List Interface := []
  /-- The VM host the machine was composed on. -/
  pod : Option NamedRef := none
  distroSeries : String := ""
  deriving Repr, DecidableEq, Inhabited

/-- Capacity that a VM host has left. -/
structure HostCapacity where
  cores : UInt32 := 0
  /-- Memory in MiB. -/
  memory : UInt64 := 0
  /-- Local storage in bytes. -/
  localStorage : UInt64 := 0
  deriving Repr, DecidableEq, Inhabited

/-- A host that virtual machines are composed on. -/
structure VmHost where
  id : UInt64
  name : String
  /-- The kind of hypervisor. -/
  kind : String
  zone : Option NamedRef
  pool : Option NamedRef
  /-- The system id of the machine under the host; absent when it was registered out of band. -/
  machine : Option String
  available : HostCapacity
  tags : List String
  deriving Repr, DecidableEq, Inhabited

/-- The machine under a VM host, if MAAS knows it. -/
def VmHost.backingMachine? (host : VmHost) : Option String :=
  host.machine.filter (· ≠ "")

/-- An interface that holds an allocated address. -/
structure AddressHolder where
  id : UInt64
  name : String
  systemId : Option String
  deriving Repr, DecidableEq, Inhabited

/-- An entry of the address registry. -/
structure IpAllocation where
  ip : String
  allocationType : String
  /-- The interfaces that hold the address now. -/
  holders : List AddressHolder
  deriving Repr, DecidableEq, Inhabited

structure Tag where
  name : String
  comment : String
  deriving Repr, DecidableEq, Inhabited

/-- The machine that a composition made. -/
structure ComposedVm where
  systemId : String
  resourceUri : String
  deriving Repr, DecidableEq, Inhabited

/-- What an allocated machine has to satisfy. -/
structure AllocateParams where
  /-- Allocate exactly this machine. -/
  systemId : Option String := none
  cpuCount : Option UInt32 := none
  /-- Least memory in MiB. -/
  memory : Option UInt64 := none
  zone : Option String := none
  pool : Option String := none
  tags : List String := []
  deriving Repr, DecidableEq, Inhabited

/-- What a deployment installs. -/
structure DeployParams where
  distroSeries : Option String := none
  userData : Option String := none
  deriving Repr, DecidableEq, Inhabited

/-- The shape of a virtual machine to compose. -/
structure ComposeParams where
  cores : UInt32
  /-- Memory in MiB. -/
  memory : UInt64
  /-- A constraint on disks, such as a root disk of a given size. -/
  storage : Option String
  hostname : String
  zone : Option UInt64
  pool : Option UInt64
  /-- The wiring of the interfaces. -/
  interfaces : Option String
  deriving Repr, DecidableEq, Inhabited

structure LinkParams where
  mode : LinkMode
  /-- The subnet by number, CIDR or name. -/
  subnet : String
  ipAddress : Option String
  defaultGateway : Bool
  deriving Repr, DecidableEq, Inhabited

structure BridgeParams where
  name : String
  stp : Bool
  /-- Forward delay in seconds. -/
  forwardDelay : UInt32
  deriving Repr, DecidableEq, Inhabited

namespace LinkMode

/-- The mode as the operation that links a subnet expects it. -/
def param : LinkMode → String
  | .auto => "AUTO"
  | .dhcp => "DHCP"
  | .static => "STATIC"
  | .linkUp => "LINK_UP"

end LinkMode

end MachineProvisioning.Maas
