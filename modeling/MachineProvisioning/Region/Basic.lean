import MachineProvisioning.Maas.Call
import MachineProvisioning.Maas.Specimen
import MachineProvisioning.Table

/-! # A MAAS region in memory

A region holds machines, VM hosts, interfaces, subnets, addresses and tags, and answers the
operations of MAAS from them. It counts the operations that change something, and the next call of
some of them can be made to fail.
-/

namespace MachineProvisioning

open Maas (Machine VmHost Interface Subnet IpAllocation Tag)

namespace Region

structure Inventory where
  machines : Table String Machine := .empty
  hosts : Table UInt64 VmHost := .empty
  /-- The interfaces of each machine, the oldest first. -/
  interfaces : Table String (List Interface) := .empty
  /-- The number of the boot interface of each machine. -/
  bootInterfaces : Table String UInt64 := .empty
  subnets : Table UInt64 Subnet := .empty
  allocations : Table String IpAllocation := .empty
  tags : Table String Tag := .empty
  deriving Repr, DecidableEq

/-- How often operations were called. -/
structure Counts where
  allocate : Nat := 0
  compose : Nat := 0
  release : Nat := 0
  forcedRelease : Nat := 0
  link : Nat := 0
  unlink : Nat := 0
  deploy : Nat := 0
  powerOn : Nat := 0
  ipRelease : Nat := 0
  bridge : Nat := 0
  tag : Nat := 0
  deriving Repr, DecidableEq

/-- The errors with which the next calls fail. -/
structure Planted where
  allocate : Option Maas.Error := none
  compose : Option Maas.Error := none
  deploy : Option Maas.Error := none
  release : Option Maas.Error := none
  listInterfaces : Option Maas.Error := none
  deriving Repr, DecidableEq

end Region

/-- A MAAS region in memory. -/
structure Region where
  inventory : Region.Inventory := {}
  counts : Region.Counts := {}
  planted : Region.Planted := {}
  /-- The number that the next new thing gets. -/
  nextId : UInt64 := 1000
  deriving Repr, DecidableEq

namespace Region

/-- The region where nothing has happened. -/
def empty : Region := {}

/-- How an operation ends: with an answer and the region after it. -/
abbrev Result (α : Type) : Type := Except Maas.Error α × Region

def tally (region : Region) (f : Counts → Counts) : Region :=
  { region with counts := f region.counts }

/-- A new number, and the region after it. -/
def drawId (region : Region) : UInt64 × Region :=
  (region.nextId, { region with nextId := region.nextId + 1 })

namespace Inventory

/-- The machine with this id, or the error that there is none. -/
def machine (stock : Inventory) (systemId : String) : Except Maas.Error Machine :=
  match stock.machines.get? systemId with
  | some machine => .ok machine
  | none => .error (.notFound ("No Machine matches the given query: " ++ systemId))

/-- The interfaces of a machine, the oldest first. -/
def interfacesOf (stock : Inventory) (systemId : String) : List Interface :=
  (stock.interfaces.get? systemId).getD []

def withInterfaces (stock : Inventory) (machine : Machine) : Machine :=
  let interfaces := stock.interfacesOf machine.systemId
  { machine with
    bootInterface := (stock.bootInterfaces.get? machine.systemId).bind fun id =>
      interfaces.find? (·.id == id)
    interfaceSet := interfaces }

/-- The inventory with a machine, in place of one with its id. -/
def putMachine (stock : Inventory) (machine : Machine) : Inventory :=
  { stock with machines := stock.machines.insert machine.systemId machine }

/-- The inventory with one more interface on a machine. The first one is the boot interface. -/
def addInterface (stock : Inventory) (systemId : String) (iface : Interface) : Inventory :=
  { stock with
    bootInterfaces :=
      if stock.bootInterfaces.contains systemId then stock.bootInterfaces
      else stock.bootInterfaces.insert systemId iface.id
    interfaces := stock.interfaces.insert systemId (stock.interfacesOf systemId ++ [iface]) }

def putAllocation (stock : Inventory) (allocation : IpAllocation) : Inventory :=
  { stock with allocations := stock.allocations.insert allocation.ip allocation }

end Inventory

/-- Store a machine and answer with it. -/
def commit (region : Region) (machine : Machine) : Result Machine :=
  let stock := region.inventory.putMachine machine
  (.ok (stock.withInterfaces machine), { region with inventory := stock })

/-- Change a machine and answer with it. -/
def update (region : Region) (systemId : String) (f : Machine → Machine) : Result Machine :=
  match region.inventory.machine systemId with
  | .error error => (.error error, region)
  | .ok machine => region.commit (f machine)

end Region

end MachineProvisioning
