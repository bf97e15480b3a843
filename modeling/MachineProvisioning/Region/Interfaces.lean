import MachineProvisioning.Region.Basic
import MachineProvisioning.Text.Split

/-! # Interfaces of a region

Links put an interface on a subnet, perhaps with an address, which is then registered.
-/

namespace MachineProvisioning.Region

open Maas (Machine Interface Link LinkMode LinkParams BridgeParams Subnet)
open Text

/-- The subnet that a specifier names: by CIDR after `cidr:`, or else, after an optional `name:`, by
    number, name or CIDR. -/
def Inventory.resolveSubnet (stock : Inventory) (specifier : String) : Option Subnet :=
  let cs := specifier.toList
  match dropLead "cidr:".toList cs with
  | some cidr => stock.subnets.values.find? (·.cidr == String.ofList cidr)
  | none =>
      let name := (dropLead "name:".toList cs).getD cs
      let numbered := (readUnsigned? maxWord64 name).bind fun id =>
        stock.subnets.get? (UInt64.ofNat id)
      numbered.or (stock.subnets.values.find? fun subnet =>
        subnet.name == String.ofList name || subnet.cidr == String.ofList name)

/-- The interface of a machine, or the error that there is none. -/
def Inventory.interface (stock : Inventory) (systemId : String) (interfaceId : UInt64) :
    Except Maas.Error Interface :=
  match (stock.interfacesOf systemId).find? (·.id == interfaceId) with
  | some iface => .ok iface
  | none =>
      .error (.notFound ("No Interface matches the given query: " ++ decimal interfaceId.toNat ++
        " on " ++ systemId))

/-- The list with its first interface of this number replaced. -/
def replaceFirst (iface : Interface) : List Interface → List Interface
  | [] => []
  | other :: rest =>
      if other.id = iface.id then iface :: rest else other :: replaceFirst iface rest

def Inventory.putInterface (stock : Inventory) (systemId : String) (iface : Interface) :
    Inventory :=
  { stock with interfaces := stock.interfaces.modify systemId (replaceFirst iface) }

def listInterfaces (systemId : String) (region : Region) : Result (List Interface) :=
  match region.planted.listInterfaces with
  | some error => (.error error, { region with planted.listInterfaces := none })
  | none =>
      if region.inventory.machines.contains systemId then
        (.ok (region.inventory.interfacesOf systemId), region)
      else (.error (.notFound ("No Node matches the given query: " ++ systemId)), region)

def getInterface (systemId : String) (interfaceId : UInt64) (region : Region) : Result Interface :=
  (region.inventory.interface systemId interfaceId, region)

/-- Link an interface to a subnet. An address of the link is registered for the interface. -/
def linkSubnet (systemId : String) (interfaceId : UInt64) (params : LinkParams) (region : Region) :
    Result Interface :=
  let region := region.tally fun c => { c with link := c.link + 1 }
  match region.inventory.resolveSubnet params.subnet with
  | none => (.error (.invalidRequest ("Unknown subnet: " ++ params.subnet)), region)
  | some subnet =>
      let (linkId, region) := region.drawId
      match region.inventory.interface systemId interfaceId with
      | .error error => (.error error, region)
      | .ok iface =>
          let link : Link :=
            { id := linkId
              mode := params.mode
              subnet := some subnet
              ipAddress := params.ipAddress }
          let linked := { iface with links := iface.links ++ [link] }
          let stock := region.inventory.putInterface systemId linked
          let stock := match params.ipAddress with
            | none => stock
            | some ip => stock.putAllocation
                { ip
                  allocationType := "Sticky"
                  holders := [⟨linked.id, linked.name, some systemId⟩] }
          (.ok linked, { region with inventory := stock })

/-- Remove a link of an interface, with its address. -/
def unlinkSubnet (systemId : String) (interfaceId linkId : UInt64) (region : Region) :
    Result Interface :=
  let region := region.tally fun c => { c with unlink := c.unlink + 1 }
  match region.inventory.interface systemId interfaceId with
  | .error error => (.error error, region)
  | .ok iface =>
      match iface.links.find? (·.id == linkId) with
      | none => (.error (.notFound ("Link " ++ decimal linkId.toNat ++ " not found")), region)
      | some link =>
          let unlinked := { iface with links := iface.links.erase link }
          let stock := region.inventory.putInterface systemId unlinked
          let stock := match link.ipAddress with
            | none => stock
            | some ip => { stock with allocations := stock.allocations.erase ip }
          (.ok unlinked, { region with inventory := stock })

def noBootInterface (systemId : String) : Maas.Error :=
  .invalidState ("machine " ++ systemId ++ " has no boot interface")

def bindBootInterface (systemId : String) (params : LinkParams) (region : Region) :
    Result Interface :=
  match region.inventory.bootInterfaces.get? systemId with
  | none => (.error (noBootInterface systemId), region)
  | some bootId => linkSubnet systemId bootId params region

def createBridge (systemId : String) (params : BridgeParams) (region : Region) :
    Result Interface :=
  let region := region.tally fun c => { c with bridge := c.bridge + 1 }
  let present := region.inventory.interfacesOf systemId
  if present.any (·.name == params.name) then
    (.error (.invalidRequest ("Interface with this name already exists: " ++ params.name)), region)
  else if !region.inventory.bootInterfaces.contains systemId then
    (.error (noBootInterface systemId), region)
  else
    let (id, region) := region.drawId
    let bridge : Interface :=
      { id
        name := params.name
        kind := "bridge"
        macAddress := none
        enabled := true
        links := [] }
    let stock := region.inventory
    (.ok bridge,
      { region with
        inventory := { stock with
          interfaces := stock.interfaces.insert systemId (present ++ [bridge]) } })

end MachineProvisioning.Region
