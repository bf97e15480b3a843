import MachineProvisioning.Region.Basic
import MachineProvisioning.Text.Ascii

/-! # Machines of a region

Allocation takes machines that are ready and nothing else does; a release makes them ready again.
-/

namespace MachineProvisioning.Region

open Maas (Machine AllocateParams DeployParams)

/-- A ready machine that has what is asked for. -/
def satisfies (params : AllocateParams) (machine : Machine) : Bool :=
  machine.statusName == "Ready" &&
    params.cpuCount.all (· ≤ machine.cpuCount) &&
    params.memory.all (· ≤ machine.memory) &&
    params.zone.all (fun zone => machine.zone.map (·.name) == some zone) &&
    params.pool.all (fun pool => machine.pool.map (·.name) == some pool) &&
    params.tags.all machine.tagNames.contains

/-- The machine to allocate: the one asked for, if it is ready, or the first that satisfies what is
    asked for. -/
def Inventory.candidate (stock : Inventory) (params : AllocateParams) :
    Except Maas.Error Machine :=
  match params.systemId with
  | some systemId => do
      let machine ← stock.machine systemId
      if machine.statusName = "Ready" then pure machine
      else
        throw (.invalidState ("Machine " ++ systemId ++ " is not available for allocation (status: " ++
          machine.statusName ++ ")"))
  | none =>
      match stock.machines.values.find? (satisfies params) with
      | some machine => pure machine
      | none => throw (.insufficientResources "No available machine matches constraints")

def allocate (params : AllocateParams) (region : Region) : Result Machine :=
  let region := region.tally fun c => { c with allocate := c.allocate + 1 }
  match region.planted.allocate with
  | some error => (.error error, { region with planted.allocate := none })
  | none =>
      match region.inventory.candidate params with
      | .error error => (.error error, region)
      | .ok machine => region.commit { machine with statusName := "Allocated" }

def getMachine (systemId : String) (region : Region) : Result Machine :=
  (region.inventory.machine systemId |>.map region.inventory.withInterfaces, region)

/-- The machine passes a filter. Filters of unknown name let everything pass. -/
def passes (machine : Machine) (filter : String × String) : Bool :=
  match filter.1 with
  | "hostname" => machine.hostname == filter.2
  | "id" => machine.systemId == filter.2
  | "system_id" => machine.systemId == filter.2
  | "zone" => machine.zone.map (·.name) == some filter.2
  | "pool" => machine.pool.map (·.name) == some filter.2
  | "pod" => machine.pod.map (·.name) == some filter.2
  | "status" => Text.eqIgnoringAsciiCase machine.statusName filter.2
  | _ => true

/-- The machines that pass all filters, by id. -/
def listMachines (filters : List (String × String)) (region : Region) : Result (List Machine) :=
  let stock := region.inventory
  (.ok ((stock.machines.values.filter fun machine => filters.all (passes machine)).map
    stock.withInterfaces), region)

/-- Release a machine. One that is broken is released by force only. -/
def release (systemId : String) (force : Bool) (region : Region) : Result Unit :=
  let region := region.tally fun c =>
    { c with
      release := c.release + 1
      forcedRelease := if force then c.forcedRelease + 1 else c.forcedRelease }
  match region.planted.release with
  | some error => (.error error, { region with planted.release := none })
  | none =>
      match region.inventory.machine systemId with
      | .error error => (.error error, region)
      | .ok machine =>
          if machine.statusName = "Broken" ∧ !force then
            (.error (.invalidState
              ("Cannot release machine " ++ systemId ++ ": machine is Broken")), region)
          else
            let released :=
              { machine with statusName := "Ready", powerState := "off", ipAddresses := [] }
            (.ok (), { region with inventory := region.inventory.putMachine released })

def setSwapSize (systemId : String) (bytes : UInt64) (region : Region) : Result Machine :=
  region.update systemId fun machine => { machine with swapSize := some bytes }

/-- Another machine has the hostname. -/
def hostnameTaken (hostname : String) : Maas.Error :=
  .hostnameInUse ("Node with this Hostname already exists: " ++ hostname)

def setHostname (systemId hostname : String) (region : Region) : Result Machine :=
  if region.inventory.machines.values.any fun machine =>
      machine.systemId != systemId && machine.hostname == hostname then
    (.error (hostnameTaken hostname), region)
  else
    region.update systemId fun machine =>
      { machine with hostname, fqdn := Maas.domainName hostname }

def deploy (systemId : String) (params : DeployParams) (region : Region) : Result Machine :=
  let region := region.tally fun c => { c with deploy := c.deploy + 1 }
  match region.planted.deploy with
  | some error => (.error error, { region with planted.deploy := none })
  | none =>
      match region.inventory.machine systemId with
      | .error error => (.error error, region)
      | .ok machine =>
          if machine.statusName = "Allocated" then
            region.commit
              { machine with
                statusName := "Deploying"
                distroSeries := params.distroSeries.getD machine.distroSeries }
          else
            (.error (.invalidState
              ("Cannot deploy machine " ++ systemId ++ " in state " ++ machine.statusName)), region)

def powerOn (systemId : String) (region : Region) : Result Machine :=
  (region.tally fun c => { c with powerOn := c.powerOn + 1 }).update systemId fun machine =>
    { machine with powerState := "on" }

end MachineProvisioning.Region
