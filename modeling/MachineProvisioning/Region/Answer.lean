import MachineProvisioning.Region.Composition

/-! # Answering calls

A region answers every operation of MAAS, and the world can change it between calls.
-/

namespace MachineProvisioning.Region

open Maas (Machine VmHost Interface Subnet IpAllocation Tag)

def getIpAddress (ip : String) (region : Region) : Result (Option IpAllocation) :=
  (.ok (region.inventory.allocations.get? ip), region)

/-- Release an address. One that an interface holds is released by force only. -/
def releaseIpAddress (ip : String) (force : Bool) (region : Region) : Result Unit :=
  let region := region.tally fun c => { c with ipRelease := c.ipRelease + 1 }
  let stock := region.inventory
  match stock.allocations.get? ip with
  | none => (.error (.notFound ("IP address " ++ ip ++ " is not allocated")), region)
  | some allocation =>
      if !allocation.holders.isEmpty && !force then
        (.error (.invalidState ("IP address " ++ ip ++ " is in use by an interface")), region)
      else
        (.ok (),
          { region with inventory := { stock with allocations := stock.allocations.erase ip } })

/-- Create a tag unless it exists. -/
def createTag (name : String) (region : Region) : Result Tag :=
  let stock := region.inventory
  match stock.tags.get? name with
  | some tag => (.ok tag, region)
  | none =>
      let tag : Tag := ⟨name, ""⟩
      (.ok tag, { region with inventory := { stock with tags := stock.tags.insert name tag } })

def assignTag (name systemId : String) (region : Region) : Result Unit :=
  if !region.inventory.tags.contains name then
    (.error (.notFound ("No Tag matches the given query: " ++ name)), region)
  else
    match region.inventory.machine systemId with
    | .error error => (.error error, region)
    | .ok machine =>
        let tagged :=
          if machine.tagNames.contains name then machine
          else { machine with tagNames := machine.tagNames ++ [name] }
        (.ok (), ({ region with inventory := region.inventory.putMachine tagged }).tally fun c =>
          { c with tag := c.tag + 1 })

def answer : (call : Maas.Call) → Region → call.Reply × Region
  | .allocate params => allocate params
  | .getMachine systemId => getMachine systemId
  | .listMachines filters => listMachines filters
  | .release systemId force => release systemId force
  | .setSwapSize systemId bytes => setSwapSize systemId bytes
  | .setHostname systemId hostname => setHostname systemId hostname
  | .deploy systemId params => deploy systemId params
  | .powerOn systemId => powerOn systemId
  | .listVmHosts => listVmHosts
  | .getVmHost id => getVmHost id
  | .compose hostId params => compose hostId params
  | .listHostVms hostId => listHostVms hostId
  | .listInterfaces systemId => listInterfaces systemId
  | .getInterface systemId interfaceId => getInterface systemId interfaceId
  | .linkSubnet systemId interfaceId params => linkSubnet systemId interfaceId params
  | .unlinkSubnet systemId interfaceId linkId => unlinkSubnet systemId interfaceId linkId
  | .bindBootInterface systemId params => bindBootInterface systemId params
  | .createBridge systemId params => createBridge systemId params
  | .getIpAddress ip => getIpAddress ip
  | .releaseIpAddress ip force => releaseIpAddress ip force
  | .createTag name => createTag name
  | .assignTag name systemId => assignTag name systemId

/-- Something that changes a region and is no call. -/
inductive Change where
  | addMachine (machine : Machine)
  | addHost (host : VmHost)
  | addSubnet (subnet : Subnet)
  | addInterface (systemId : String) (iface : Interface)
  | addAllocation (allocation : IpAllocation)
  | setStatus (systemId statusName : String)
  | setPower (systemId powerState : String)
  | removeMachine (systemId : String)
  /-- A machine has been commissioned. -/
  | commissioned (systemId : String)
  /-- A machine has been deployed, is powered and shows its addresses. -/
  | deployed (systemId : String)
  deriving Repr, DecidableEq

namespace Inventory

/-- The inventory with a machine changed, if it is there. -/
def modifyMachine (stock : Inventory) (systemId : String) (f : Machine → Machine) : Inventory :=
  { stock with machines := stock.machines.modify systemId f }

def linkedAddresses (stock : Inventory) (systemId : String) : List String :=
  ((stock.interfacesOf systemId).flatMap (·.links)).filterMap (·.ipAddress)

/-- What a deployed machine shows: the addresses of its links, or one that it got by itself. -/
def deployedAddresses (stock : Inventory) (systemId : String) : List String :=
  match stock.linkedAddresses systemId with
  | [] => ["10.99.0." ++ Text.decimal systemId.utf8ByteSize]
  | addresses => addresses

def after (stock : Inventory) : Change → Inventory
  | .addMachine machine => stock.putMachine machine
  | .addHost host => { stock with hosts := stock.hosts.insert host.id host }
  | .addSubnet subnet => { stock with subnets := stock.subnets.insert subnet.id subnet }
  | .addInterface systemId iface => stock.addInterface systemId iface
  | .addAllocation allocation => stock.putAllocation allocation
  | .setStatus systemId statusName =>
      stock.modifyMachine systemId fun machine => { machine with statusName }
  | .setPower systemId powerState =>
      stock.modifyMachine systemId fun machine => { machine with powerState }
  | .removeMachine systemId =>
      { stock with
        machines := stock.machines.erase systemId
        interfaces := stock.interfaces.erase systemId }
  | .commissioned systemId =>
      stock.modifyMachine systemId fun machine => { machine with statusName := "Ready" }
  | .deployed systemId =>
      stock.modifyMachine systemId fun machine =>
        { machine with
          statusName := "Deployed"
          powerState := "on"
          ipAddresses := stock.deployedAddresses systemId }

end Inventory

def after (region : Region) (change : Change) : Region :=
  { region with inventory := region.inventory.after change }

end MachineProvisioning.Region
