import MachineProvisioning.Proofs.Table
import MachineProvisioning.Region.Answer
import MachineProvisioning.Wiring

/-! # What calls do to the machines of a region

A call leaves the machines alone or stores one machine under its id. `Alters` says which one; every
other fact about the machines of a region is derived from it.
-/

namespace MachineProvisioning.Region

open Maas (Machine VmHost)

/-- A call that succeeds in this region may store this machine. -/
def Alters (region : Region) : Maas.Call → Machine → Prop
  | .allocate params, stored => ∃ machine, region.inventory.candidate params = .ok machine ∧
      stored = { machine with statusName := "Allocated" }
  | .release x _, stored => ∃ machine, region.inventory.machines.get? x = some machine ∧
      stored = { machine with statusName := "Ready", powerState := "off", ipAddresses := [] }
  | .setSwapSize x bytes, stored => ∃ machine, region.inventory.machines.get? x = some machine ∧
      stored = { machine with swapSize := some bytes }
  | .setHostname x hostname, stored => ∃ machine,
      region.inventory.machines.get? x = some machine ∧
        stored = { machine with hostname, fqdn := Maas.domainName hostname }
  | .deploy x params, stored => ∃ machine, region.inventory.machines.get? x = some machine ∧
      machine.statusName = "Allocated" ∧
        stored = { machine with
          statusName := "Deploying"
          distroSeries := params.distroSeries.getD machine.distroSeries }
  | .powerOn x, stored => ∃ machine, region.inventory.machines.get? x = some machine ∧
      stored = { machine with powerState := "on" }
  | .assignTag _ x, stored => ∃ machine, region.inventory.machines.get? x = some machine ∧
      stored = { machine with tagNames := stored.tagNames }
  | .compose hostId params, stored => ∃ host, region.inventory.hosts.get? hostId = some host ∧
      (region.inventory.machines.values.any (·.hostname == params.hostname)) = false ∧
        stored = composedMachine (composedId region.nextId) host params
  | _, _ => False

/-- What a successful call says of the machine that it stored. -/
def Tells : (call : Maas.Call) → call.Value → Machine → Prop
  | .allocate _, shown, stored => shown.systemId = stored.systemId
  | .setSwapSize _ _, shown, stored => shown.systemId = stored.systemId
  | .setHostname _ _, shown, stored => shown.systemId = stored.systemId
  | .deploy _ _, shown, stored => shown.systemId = stored.systemId
  | .powerOn _, shown, stored => shown.systemId = stored.systemId
  | .compose _ _, vm, stored => vm.systemId = stored.systemId
  | _, _, _ => True

/-- The call may store a machine. -/
def Stores : Maas.Call → Prop
  | .allocate _ | .release _ _ | .setSwapSize _ _ | .setHostname _ _ | .deploy _ _ | .powerOn _
  | .assignTag _ _ | .compose _ _ => True
  | _ => False

/-- How the answer to a call relates to the machines: nothing is stored when the call fails or stores
    nothing, and otherwise a machine that the call alters. -/
inductive Answers (region : Region) (call : Maas.Call) : call.Reply → Region → Prop where
  | refused {error after} (same : after.inventory.machines = region.inventory.machines) :
      Answers region call (.error error) after
  | quiet {reply after} (storesNothing : ¬Stores call)
      (same : after.inventory.machines = region.inventory.machines) :
      Answers region call reply after
  | stored {value after} (machine : Machine) (alters : Alters region call machine)
      (tells : Tells call value machine)
      (put : after.inventory.machines =
        region.inventory.machines.insert machine.systemId machine) :
      Answers region call (.ok value) after

/-- The answer of a region to a call as `Answers` describes it. -/
abbrev Conforms (region : Region) (call : Maas.Call) (result : Result call.Value) : Prop :=
  Answers region call result.1 result.2

theorem Answers.of_stores {region after : Region} {call : Maas.Call} {value : call.Value}
    (answers : Answers region call (.ok value) after) (stores : Stores call) :
    ∃ machine, Alters region call machine ∧ Tells call value machine ∧
      after.inventory.machines = region.inventory.machines.insert machine.systemId machine := by
  cases answers with
  | quiet silent => exact absurd stores silent
  | stored machine alters tells put => exact ⟨machine, alters, tells, put⟩

theorem machine_eq_ok {stock : Inventory} {x : String} {machine : Machine}
    (found : stock.machine x = .ok machine) : stock.machines.get? x = some machine := by
  unfold Inventory.machine at found
  split at found
  · cases found
    assumption
  · cases found

theorem allocate_conforms (region : Region) (params : Maas.AllocateParams) :
    Conforms region (.allocate params) (allocate params region) := by
  unfold allocate
  extract_lets counted
  split
  · exact .refused rfl
  · split
    · exact .refused rfl
    · next machine found =>
        exact .stored { machine with statusName := "Allocated" } ⟨machine, found, rfl⟩ rfl rfl

theorem release_conforms (region : Region) (x : String) (force : Bool) :
    Conforms region (.release x force) (release x force region) := by
  unfold release
  extract_lets counted
  split
  · exact .refused rfl
  · split
    · exact .refused rfl
    · next machine found =>
        split
        · exact .refused rfl
        · exact .stored _ ⟨machine, machine_eq_ok found, rfl⟩ trivial rfl

theorem setSwapSize_conforms (region : Region) (x : String) (bytes : UInt64) :
    Conforms region (.setSwapSize x bytes) (setSwapSize x bytes region) := by
  unfold setSwapSize update
  split
  · exact .refused rfl
  · next machine found => exact .stored _ ⟨machine, machine_eq_ok found, rfl⟩ rfl rfl

theorem setHostname_conforms (region : Region) (x hostname : String) :
    Conforms region (.setHostname x hostname) (setHostname x hostname region) := by
  unfold setHostname update
  split
  · exact .refused rfl
  · split
    · exact .refused rfl
    · next machine found => exact .stored _ ⟨machine, machine_eq_ok found, rfl⟩ rfl rfl

theorem deploy_conforms (region : Region) (x : String) (params : Maas.DeployParams) :
    Conforms region (.deploy x params) (deploy x params region) := by
  unfold deploy
  extract_lets counted
  split
  · exact .refused rfl
  · split
    · exact .refused rfl
    · next machine found =>
        split
        · next allocated =>
            exact .stored _ ⟨machine, machine_eq_ok found, allocated, rfl⟩ rfl rfl
        · exact .refused rfl

theorem powerOn_conforms (region : Region) (x : String) :
    Conforms region (.powerOn x) (powerOn x region) := by
  unfold powerOn update
  split
  · exact .refused rfl
  · next machine found => exact .stored _ ⟨machine, machine_eq_ok found, rfl⟩ rfl rfl

theorem assignTag_conforms (region : Region) (name x : String) :
    Conforms region (.assignTag name x) (assignTag name x region) := by
  unfold assignTag
  split
  · exact .refused rfl
  · split
    · exact .refused rfl
    · next machine found =>
        extract_lets tagged
        have same : tagged = { machine with tagNames := tagged.tagNames } := by
          simp only [tagged]
          split <;> rfl
        exact .stored tagged ⟨machine, machine_eq_ok found, same⟩ trivial rfl

/-- Wiring a machine gives it interfaces and takes numbers, one after another. -/
theorem wire_preserves {P : Region → Prop} {x : String} (adds : ∀ region iface nextId, P region →
      P { region with inventory := region.inventory.addInterface x iface, nextId })
    (wiring : List Wire) {region : Region} (start : P region) : P (wire x wiring region) := by
  have wires : P (wiring.foldl (addWire x) region) := by
    induction wiring generalizing region with
    | nil => exact start
    | cons first rest ih => exact ih (adds region _ (region.nextId + 1 + 1) start)
  unfold wire
  split
  · exact adds region _ (region.nextId + 1) start
  · exact wires

theorem wire_machines (x : String) (wiring : List Wire) (region : Region) :
    (wire x wiring region).inventory.machines = region.inventory.machines :=
  wire_preserves (P := fun after => after.inventory.machines = region.inventory.machines)
    (fun _ _ _ same => same) wiring rfl

theorem planted_wire (x : String) (wiring : List Wire) (region : Region) :
    (wire x wiring region).planted = region.planted :=
  wire_preserves (P := fun after => after.planted = region.planted) (fun _ _ _ same => same) wiring rfl

theorem compose_conforms (region : Region) (hostId : UInt64) (params : Maas.ComposeParams) :
    Conforms region (.compose hostId params) (compose hostId params region) := by
  unfold compose
  extract_lets counted
  split
  · exact .refused rfl
  · split
    · exact .refused rfl
    · next host found =>
        have known : region.inventory.hosts.get? hostId = some host := by
          unfold Inventory.host at found
          split at found
          · cases found
            assumption
          · cases found
        split
        · exact .refused rfl
        · next free =>
            refine .stored _ ⟨host, known, Bool.eq_false_iff.mpr free, rfl⟩ rfl ?_
            exact wire_machines _ _ _

theorem linkSubnet_machines (x : String) (interfaceId : UInt64) (params : Maas.LinkParams)
    (region : Region) : (linkSubnet x interfaceId params region).2.inventory.machines =
      region.inventory.machines := by
  unfold linkSubnet drawId
  dsimp only
  split
  · rfl
  · split
    · rfl
    · split <;> rfl

theorem unlinkSubnet_machines (x : String) (interfaceId linkId : UInt64) (region : Region) :
    (unlinkSubnet x interfaceId linkId region).2.inventory.machines =
      region.inventory.machines := by
  unfold unlinkSubnet
  dsimp only
  split
  · rfl
  · split
    · rfl
    · split <;> rfl

theorem bindBootInterface_machines (x : String) (params : Maas.LinkParams) (region : Region) :
    (bindBootInterface x params region).2.inventory.machines = region.inventory.machines := by
  unfold bindBootInterface
  split
  · rfl
  · exact linkSubnet_machines x _ params region

theorem createBridge_machines (x : String) (params : Maas.BridgeParams) (region : Region) :
    (createBridge x params region).2.inventory.machines = region.inventory.machines := by
  unfold createBridge drawId
  dsimp only
  split
  · rfl
  · split <;> rfl

theorem releaseIpAddress_machines (ip : String) (force : Bool) (region : Region) :
    (releaseIpAddress ip force region).2.inventory.machines = region.inventory.machines := by
  unfold releaseIpAddress
  dsimp only
  split
  · rfl
  · split <;> rfl

theorem createTag_machines (name : String) (region : Region) :
    (createTag name region).2.inventory.machines = region.inventory.machines := by
  unfold createTag
  dsimp only
  split <;> rfl

theorem listHostVms_machines (hostId : UInt64) (region : Region) :
    (listHostVms hostId region).2.inventory.machines = region.inventory.machines := by
  unfold listHostVms
  dsimp only
  split <;> rfl

theorem listInterfaces_machines (x : String) (region : Region) :
    (listInterfaces x region).2.inventory.machines = region.inventory.machines := by
  unfold listInterfaces
  split
  · rfl
  · split <;> rfl

/-- Every call conforms. -/
theorem answer_conforms (region : Region) (call : Maas.Call) :
    Conforms region call (region.answer call) := by
  cases call with
  | allocate params => exact allocate_conforms region params
  | release x force => exact release_conforms region x force
  | setSwapSize x bytes => exact setSwapSize_conforms region x bytes
  | setHostname x hostname => exact setHostname_conforms region x hostname
  | deploy x params => exact deploy_conforms region x params
  | powerOn x => exact powerOn_conforms region x
  | assignTag name x => exact assignTag_conforms region name x
  | compose hostId params => exact compose_conforms region hostId params
  | linkSubnet x interfaceId params =>
      exact .quiet id (linkSubnet_machines x interfaceId params region)
  | unlinkSubnet x interfaceId linkId =>
      exact .quiet id (unlinkSubnet_machines x interfaceId linkId region)
  | bindBootInterface x params => exact .quiet id (bindBootInterface_machines x params region)
  | createBridge x params => exact .quiet id (createBridge_machines x params region)
  | releaseIpAddress ip force => exact .quiet id (releaseIpAddress_machines ip force region)
  | createTag name => exact .quiet id (createTag_machines name region)
  | listHostVms hostId => exact .quiet id (listHostVms_machines hostId region)
  | listInterfaces x => exact .quiet id (listInterfaces_machines x region)
  | _ => exact .quiet id rfl

/-- Every machine is stored under its id. -/
def Keyed (region : Region) : Prop :=
  ∀ x machine, region.inventory.machines.get? x = some machine → machine.systemId = x

theorem Keyed.preserved {region after : Region} {call : Maas.Call} {reply : call.Reply}
    (keyed : Keyed region) (answers : Answers region call reply after) : Keyed after := by
  intro x machine found
  cases answers with
  | refused same => exact keyed x machine (same ▸ found)
  | quiet _ same => exact keyed x machine (same ▸ found)
  | stored stored _ _ put =>
      rw [put, Table.get?_insert] at found
      split at found
      · cases found
        assumption
      · exact keyed x machine found

theorem keyed_empty : Keyed empty := fun _ _ found => nomatch found

theorem Keyed.modify {region : Region} (keyed : Keyed region) {x : String} {f : Machine → Machine}
    (same : ∀ machine, (f machine).systemId = machine.systemId) :
    Keyed { region with inventory := region.inventory.modifyMachine x f } := by
  intro y machine found
  change (region.inventory.machines.modify x f).get? y = some machine at found
  rw [Table.get?_modify] at found
  split at found
  · obtain ⟨old, known, rfl⟩ := Option.map_eq_some_iff.mp found
    exact (same old).trans (keyed y old known)
  · exact keyed y machine found

/-- Changes from outside keep machines under their ids. -/
theorem Keyed.after {region : Region} (keyed : Keyed region) (change : Change) :
    Keyed (region.after change) := by
  cases change with
  | addMachine machine =>
      intro y other found
      change (region.inventory.machines.insert machine.systemId machine).get? y = some other at found
      rw [Table.get?_insert] at found
      split at found
      · cases found
        assumption
      · exact keyed y other found
  | removeMachine x =>
      intro y other found
      change (region.inventory.machines.erase x).get? y = some other at found
      rw [Table.get?_erase] at found
      split at found
      · cases found
      · exact keyed y other found
  | setStatus x statusName => exact keyed.modify fun _ => rfl
  | setPower x powerState => exact keyed.modify fun _ => rfl
  | commissioned x => exact keyed.modify fun _ => rfl
  | deployed x => exact keyed.modify fun _ => rfl
  | addHost host => exact keyed
  | addSubnet subnet => exact keyed
  | addInterface x iface => exact keyed
  | addAllocation allocation => exact keyed

theorem Keyed.machine {region : Region} {x : String} {machine : Machine} (keyed : Keyed region)
    (found : region.inventory.machine x = .ok machine) : machine.systemId = x :=
  keyed x machine (machine_eq_ok found)

/-- An allocation that names a machine gives that machine. -/
theorem candidate_named {region : Region} {params : Maas.AllocateParams} {x : String}
    {machine : Machine} (given : params.systemId = some x)
    (found : region.inventory.candidate params = .ok machine) :
    region.inventory.machines.get? x = some machine := by
  unfold Inventory.candidate at found
  rw [given] at found
  simp only [bind, Except.bind] at found
  split at found
  · cases found
  · next stored known =>
      split at found
      · cases found
        exact machine_eq_ok known
      · cases found

theorem Keyed.candidate {region : Region} {params : Maas.AllocateParams} {x : String}
    {machine : Machine} (keyed : Keyed region) (given : params.systemId = some x)
    (found : region.inventory.candidate params = .ok machine) : machine.systemId = x :=
  keyed x machine (candidate_named given found)

/-- Machines are stored under their ids, in order. -/
structure Lawful (region : Region) : Prop where
  keyed : Keyed region
  ordered : region.inventory.machines.Ordered

theorem lawful_empty : Lawful empty := ⟨keyed_empty, Table.ordered_empty⟩

theorem Lawful.congr {region after : Region} (lawful : Lawful region)
    (same : after.inventory.machines = region.inventory.machines) : Lawful after := by
  refine ⟨fun x machine found => lawful.keyed x machine ?_, ?_⟩
  · rw [← same]
    exact found
  · rw [same]
    exact lawful.ordered

theorem Lawful.preserved {region after : Region} {call : Maas.Call} {reply : call.Reply}
    (lawful : Lawful region) (answers : Answers region call reply after) : Lawful after := by
  refine ⟨lawful.keyed.preserved answers, ?_⟩
  cases answers with
  | refused same => exact same ▸ lawful.ordered
  | quiet _ same => exact same ▸ lawful.ordered
  | stored machine _ _ put => exact put ▸ lawful.ordered.insert machine.systemId machine

theorem Lawful.after {region : Region} (lawful : Lawful region) (change : Change) :
    Lawful (region.after change) := by
  refine ⟨lawful.keyed.after change, ?_⟩
  cases change with
  | addMachine machine => exact lawful.ordered.insert machine.systemId machine
  | removeMachine x => exact lawful.ordered.erase x
  | setStatus x statusName => exact lawful.ordered.modify x _
  | setPower x powerState => exact lawful.ordered.modify x _
  | commissioned x => exact lawful.ordered.modify x _
  | deployed x => exact lawful.ordered.modify x _
  | addHost host => exact lawful.ordered
  | addSubnet subnet => exact lawful.ordered
  | addInterface x iface => exact lawful.ordered
  | addAllocation allocation => exact lawful.ordered

/-- A listed machine is found under its id. -/
theorem Lawful.get?_of_mem {region : Region} (lawful : Lawful region) {machine : Machine}
    (mem : machine ∈ region.inventory.machines.values) :
    region.inventory.machines.get? machine.systemId = some machine := by
  obtain ⟨⟨x, stored⟩, entry, rfl⟩ := List.mem_map.mp mem
  have found := lawful.ordered.get?_of_mem entry
  rw [lawful.keyed x stored found]
  exact found

/-- An allocation that names no machine gives one that satisfies it. -/
theorem Lawful.candidate {region : Region} (lawful : Lawful region) {params : Maas.AllocateParams}
    {machine : Machine} (unnamed : params.systemId = none)
    (found : region.inventory.candidate params = .ok machine) :
    region.inventory.machines.get? machine.systemId = some machine ∧
      satisfies params machine = true := by
  unfold Inventory.candidate at found
  rw [unnamed] at found
  simp only at found
  split at found
  · next first =>
      cases found
      exact ⟨lawful.get?_of_mem (List.mem_of_find?_eq_some first), List.find?_some first⟩
  · cases found

/-- A machine in a listing is one of the region, with its interfaces. -/
theorem Lawful.listed {region : Region} (lawful : Lawful region) {p : Machine → Bool}
    {hostname : String} {shown : Machine}
    (found : ((region.inventory.machines.values.filter p).map region.inventory.withInterfaces).find?
      (Wiring.hostnameMatches · hostname) = some shown) :
    ∃ machine, region.inventory.machines.get? shown.systemId = some machine ∧
      Wiring.hostnameMatches machine hostname = true := by
  obtain ⟨machine, mem, rfl⟩ := List.mem_map.mp (List.mem_of_find?_eq_some found)
  have bears := List.find?_some found
  exact ⟨machine, lawful.get?_of_mem (List.mem_filter.mp mem).1, bears⟩

end MachineProvisioning.Region
