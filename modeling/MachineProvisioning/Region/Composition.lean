import MachineProvisioning.Region.Interfaces
import MachineProvisioning.Region.Machines

/-! # VM hosts of a region

Composing makes a machine on a host, with the interfaces that the wiring asks for. The machine is
being commissioned at first.
-/

namespace MachineProvisioning.Region

open Maas (Machine VmHost Interface Link LinkMode ComposeParams ComposedVm)
open Text

/-- One interface of a wiring. -/
structure Wire where
  name : String
  subnet : String
  address : Option String
  deriving Repr, DecidableEq

/-- The value of the last attribute of this name. -/
def attribute? (name : String) (attributes : List (List Char)) : Option String :=
  (attributes.filterMap fun written => do
    let (key, value) ← splitFirst '=' written
    if String.ofList key = name then some (String.ofList value) else none).getLast?

/-- The interface that an entry of a wiring describes, if it names one and its subnet. -/
def readWire? (entry : List Char) : Option Wire := do
  let (name, attributes) ← splitFirst ':' entry
  let attributes := splitChars ',' attributes
  let subnet ← attribute? "subnet" attributes
  pure ⟨String.ofList name, subnet, attribute? "ip" attributes⟩

def readWiring (wiring : String) : List Wire :=
  (splitChars ';' wiring.toList).filterMap readWire?

/-- All VM hosts, by number. -/
def listVmHosts (region : Region) : Result (List VmHost) :=
  (.ok region.inventory.hosts.values, region)

/-- The VM host with this number, or the error that there is none. -/
def Inventory.host (stock : Inventory) (id : UInt64) : Except Maas.Error VmHost :=
  match stock.hosts.get? id with
  | some host => .ok host
  | none => .error (.notFound ("VM host " ++ decimal id.toNat ++ " not found"))

def getVmHost (id : UInt64) (region : Region) : Result VmHost :=
  (region.inventory.host id, region)

/-- The machine that a composition makes. -/
def composedMachine (systemId : String) (host : VmHost) (params : ComposeParams) : Machine :=
  { systemId
    hostname := params.hostname
    fqdn := Maas.domainName params.hostname
    cpuCount := params.cores
    memory := params.memory
    statusName := "Commissioning"
    powerState := "on"
    zone := host.zone
    pool := host.pool
    pod := some ⟨host.id, host.name⟩ }

/-- Give a machine an interface without links. -/
def addBareInterface (systemId : String) (region : Region) : Region :=
  let (id, region) := region.drawId
  { region with
    inventory := region.inventory.addInterface systemId (.physical id "eth0" []) }

/-- Give a machine the interface of a wire, linked to its subnet. -/
def addWire (systemId : String) (region : Region) (wire : Wire) : Region :=
  let (id, region) := region.drawId
  let (linkId, region) := region.drawId
  let link : Link :=
    { id := linkId
      mode := if wire.address.isSome then .static else .auto
      subnet := region.inventory.resolveSubnet wire.subnet
      ipAddress := wire.address }
  { region with
    inventory := region.inventory.addInterface systemId (.physical id wire.name [link]) }

/-- Give a new machine its interfaces. -/
def wire (systemId : String) (wiring : List Wire) (region : Region) : Region :=
  if wiring.isEmpty then addBareInterface systemId region
  else wiring.foldl (addWire systemId) region

def composedId (number : UInt64) : String :=
  "vm" ++ decimalPadded 4 (number.toNat % 10000)

def compose (hostId : UInt64) (params : ComposeParams) (region : Region) : Result ComposedVm :=
  let region := region.tally fun c => { c with compose := c.compose + 1 }
  match region.planted.compose with
  | some error => (.error error, { region with planted.compose := none })
  | none =>
      match region.inventory.host hostId with
      | .error error => (.error error, region)
      | .ok host =>
          if region.inventory.machines.values.any (·.hostname == params.hostname) then
            (.error (hostnameTaken params.hostname), region)
          else
            let (number, region) := region.drawId
            let systemId := composedId number
            let region :=
              { region with
                inventory := region.inventory.putMachine (composedMachine systemId host params) }
            (.ok ⟨systemId, "/MAAS/api/2.0/machines/" ++ systemId ++ "/"⟩,
              wire systemId ((params.interfaces.map readWiring).getD []) region)

/-- The machines composed on a host, by id. -/
def listHostVms (hostId : UInt64) (region : Region) : Result (List Machine) :=
  let stock := region.inventory
  match stock.host hostId with
  | .error error => (.error error, region)
  | .ok _ =>
      (.ok ((stock.machines.values.filter fun machine =>
        machine.pod.map (·.id) == some hostId).map stock.withInterfaces), region)

end MachineProvisioning.Region
