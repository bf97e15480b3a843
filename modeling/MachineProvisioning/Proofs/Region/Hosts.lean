import MachineProvisioning.Proofs.Region.Machines

/-! # VM hosts of a region

No call changes the VM hosts or the subnets of a region. Hosts are stored under their numbers, so a host
that is listed is the one that a machine is composed on.
-/

namespace MachineProvisioning.Region

open Maas (VmHost)

/-- VM hosts are stored under their numbers, in order. -/
structure Housed (region : Region) : Prop where
  keyed : ∀ id host, region.inventory.hosts.get? id = some host → host.id = id
  increasing : region.inventory.hosts.entries.Pairwise fun a b => a.1 < b.1

variable {region : Region}

theorem housed_empty : Housed empty := ⟨fun _ _ found => (nomatch found), .nil⟩

theorem Housed.same {after : Region} (housed : region.Housed)
    (same : after.inventory.hosts = region.inventory.hosts) : after.Housed :=
  ⟨same ▸ housed.keyed, same ▸ housed.increasing⟩

/-- A listed host is found under its number. -/
theorem Housed.get?_of_mem (housed : region.Housed) {host : VmHost}
    (mem : host ∈ region.inventory.hosts.values) :
    region.inventory.hosts.get? host.id = some host := by
  obtain ⟨⟨id, listed⟩, entry, rfl⟩ := List.mem_map.mp mem
  have found : region.inventory.hosts.get? id = some listed :=
    Table.lookup_of_mem housed.increasing entry
  rw [housed.keyed id listed found]
  exact found

/-- Changes from outside keep hosts under their numbers. -/
theorem Housed.after (housed : region.Housed) (change : Change) : (region.after change).Housed := by
  cases change with
  | addHost host =>
      refine ⟨fun id found known => ?_, Table.pairwise_insertEntry housed.increasing⟩
      change (region.inventory.hosts.insert host.id host).get? id = some found at known
      rw [Table.get?_insert] at known
      split at known
      · cases known
        assumption
      · exact housed.keyed id found known
  | _ => exact housed.same rfl

/-- The call composes a machine. -/
def IsComposition : Maas.Call → Prop
  | .compose _ _ => True
  | _ => False

/-- What a call leaves alone: the hosts and the subnets, and the boot interfaces unless it composes. -/
structure Leaves (region : Region) (call : Maas.Call) (after : Region) : Prop where
  hosts : after.inventory.hosts = region.inventory.hosts
  subnets : after.inventory.subnets = region.inventory.subnets
  boots : ¬IsComposition call → after.inventory.bootInterfaces = region.inventory.bootInterfaces

theorem leaves_compose (hostId : UInt64) (params : Maas.ComposeParams) (region : Region) :
    Leaves region (.compose hostId params) (compose hostId params region).2 := by
  have leaves {after : Region} (hosts : after.inventory.hosts = region.inventory.hosts)
      (subnets : after.inventory.subnets = region.inventory.subnets) :
      Leaves region (.compose hostId params) after :=
    ⟨hosts, subnets, fun plain => absurd trivial plain⟩
  unfold compose
  dsimp only
  split
  · exact leaves rfl rfl
  · split
    · exact leaves rfl rfl
    · split
      · exact leaves rfl rfl
      · exact wire_preserves (P := Leaves region (.compose hostId params))
          (fun _ _ _ same => leaves same.hosts same.subnets) _ (leaves rfl rfl)

/-- No call changes the hosts or the subnets, and only a composition chooses boot interfaces. -/
theorem leaves_answer (region : Region) (call : Maas.Call) :
    Leaves region call (region.answer call).2 := by
  cases call with
  | compose hostId params => exact leaves_compose hostId params region
  | allocate params =>
      simp only [answer, allocate]
      (repeat' split) <;> exact ⟨rfl, rfl, fun _ => rfl⟩
  | release x force =>
      simp only [answer, release]
      (repeat' split) <;> exact ⟨rfl, rfl, fun _ => rfl⟩
  | setSwapSize x bytes =>
      simp only [answer, setSwapSize, update]
      (repeat' split) <;> exact ⟨rfl, rfl, fun _ => rfl⟩
  | setHostname x hostname =>
      simp only [answer, setHostname, update]
      (repeat' split) <;> exact ⟨rfl, rfl, fun _ => rfl⟩
  | deploy x params =>
      simp only [answer, deploy]
      (repeat' split) <;> exact ⟨rfl, rfl, fun _ => rfl⟩
  | powerOn x =>
      simp only [answer, powerOn, update]
      (repeat' split) <;> exact ⟨rfl, rfl, fun _ => rfl⟩
  | listHostVms hostId =>
      simp only [answer, listHostVms]
      (repeat' split) <;> exact ⟨rfl, rfl, fun _ => rfl⟩
  | listInterfaces x =>
      simp only [answer, listInterfaces]
      (repeat' split) <;> exact ⟨rfl, rfl, fun _ => rfl⟩
  | linkSubnet x interfaceId params =>
      simp only [answer, linkSubnet, drawId]
      (repeat' split) <;> exact ⟨rfl, rfl, fun _ => rfl⟩
  | unlinkSubnet x interfaceId linkId =>
      simp only [answer, unlinkSubnet]
      (repeat' split) <;> exact ⟨rfl, rfl, fun _ => rfl⟩
  | bindBootInterface x params =>
      simp only [answer, bindBootInterface, linkSubnet, drawId]
      (repeat' split) <;> exact ⟨rfl, rfl, fun _ => rfl⟩
  | createBridge x params =>
      simp only [answer, createBridge, drawId]
      (repeat' split) <;> exact ⟨rfl, rfl, fun _ => rfl⟩
  | releaseIpAddress ip force =>
      simp only [answer, releaseIpAddress]
      (repeat' split) <;> exact ⟨rfl, rfl, fun _ => rfl⟩
  | createTag name =>
      simp only [answer, createTag]
      (repeat' split) <;> exact ⟨rfl, rfl, fun _ => rfl⟩
  | assignTag name x =>
      simp only [answer, assignTag]
      (repeat' split) <;> exact ⟨rfl, rfl, fun _ => rfl⟩
  | _ => exact ⟨rfl, rfl, fun _ => rfl⟩

end MachineProvisioning.Region
