import MachineProvisioning.Maas.Codec
import MachineProvisioning.Proofs.Json.Decoding

/-! # Reports that are decoded again

Every field of a report is written, so a decoder finds all of them, and reads each as it was.
-/

namespace MachineProvisioning.Maas

open Json

namespace NamedRef

@[simp] theorem isPlain_toJson (ref : NamedRef) : ref.toJson.IsPlain := by simp [toJson]

theorem restores_toJson (ref : NamedRef) : Restores ofJson? ref.toJson ref := by
  refine restores_record (by simp) fun r holds => ?_
  rw [r.required_eq (holds "id" (by decide)) (restores_word64 ref.id),
    r.required_eq (holds "name" (by decide)) (restores_text ref.name)]
  rfl

end NamedRef

namespace Vlan

@[simp] theorem isPlain_toJson (vlan : Vlan) : vlan.toJson.IsPlain := by simp [toJson]

theorem restores_toJson (vlan : Vlan) : Restores ofJson? vlan.toJson vlan := by
  refine restores_record (by simp) fun r holds => ?_
  rw [r.required_eq (holds "id" (by decide)) (restores_word64 vlan.id),
    r.defaulted_eq (holds "name" (by decide)) (restores_text vlan.name),
    r.defaulted_eq (holds "fabric" (by decide)) (restores_text vlan.fabric)]
  rfl

end Vlan

namespace Subnet

@[simp] theorem isPlain_toJson (subnet : Subnet) : subnet.toJson.IsPlain := by simp [toJson]

theorem restores_toJson (subnet : Subnet) : Restores ofJson? subnet.toJson subnet := by
  refine restores_record (by simp) fun r holds => ?_
  rw [r.required_eq (holds "id" (by decide)) (restores_word64 subnet.id),
    r.defaulted_eq (holds "name" (by decide)) (restores_text subnet.name),
    r.required_eq (holds "cidr" (by decide)) (restores_text subnet.cidr),
    r.text_of_ofOption (holds "gateway_ip" (by decide)),
    r.optional_of_ofOption (holds "vlan" (by decide)) fun vlan _ => ⟨nofun, vlan.restores_toJson⟩]
  rfl

end Subnet

namespace LinkMode

@[simp] theorem isPlain_toJson (mode : LinkMode) : mode.toJson.IsPlain := .str _

theorem restores_toJson (mode : LinkMode) : Restores ofJson? mode.toJson mode := by
  cases mode <;> exact restores_oneOf rfl

end LinkMode

namespace Link

@[simp] theorem isPlain_toJson (link : Link) : link.toJson.IsPlain := by simp [toJson]

theorem restores_toJson (link : Link) : Restores ofJson? link.toJson link := by
  refine restores_record (by simp) fun r holds => ?_
  rw [r.required_eq (holds "id" (by decide)) (restores_word64 link.id),
    r.required_eq (holds "mode" (by decide)) (link.mode.restores_toJson),
    r.optional_of_ofOption (holds "subnet" (by decide)) fun subnet _ =>
      ⟨nofun, subnet.restores_toJson⟩,
    r.text_of_ofOption (holds "ip_address" (by decide))]
  rfl

end Link

namespace Interface

@[simp] theorem isPlain_toJson (iface : Interface) : iface.toJson.IsPlain := by simp [toJson]

theorem restores_toJson (iface : Interface) : Restores ofJson? iface.toJson iface := by
  refine restores_record (by simp) fun r holds => ?_
  rw [r.required_eq (holds "id" (by decide)) (restores_word64 iface.id),
    r.required_eq (holds "name" (by decide)) (restores_text iface.name),
    r.defaulted_eq (holds "type" (by decide)) (restores_text iface.kind),
    r.text_of_ofOption (holds "mac_address" (by decide)),
    r.defaulted_eq (holds "enabled" (by decide)) (restores_bool iface.enabled),
    r.defaulted_eq (holds "links" (by decide)) (restores_list fun link _ => link.restores_toJson)]
  rfl

end Interface

namespace Machine

@[simp] theorem isPlain_toJson (m : Machine) : m.toJson.IsPlain := by simp [toJson]

theorem restores_toJson (m : Machine) : Restores ofJson? m.toJson m := by
  refine restores_record (by simp) fun r holds => ?_
  rw [r.required_eq (holds "system_id" (by decide)) (restores_text m.systemId),
    r.required_eq (holds "hostname" (by decide)) (restores_text m.hostname),
    r.defaulted_eq (holds "fqdn" (by decide)) (restores_text m.fqdn),
    r.defaulted_eq (holds "cpu_count" (by decide)) (restores_word32 m.cpuCount),
    r.defaulted_eq (holds "memory" (by decide)) (restores_word64 m.memory),
    r.defaulted_eq (holds "status_name" (by decide)) (restores_text m.statusName),
    r.defaulted_eq (holds "power_state" (by decide)) (restores_text m.powerState),
    r.optional_of_ofOption (holds "zone" (by decide)) fun zone _ => ⟨nofun, zone.restores_toJson⟩,
    r.optional_of_ofOption (holds "pool" (by decide)) fun pool _ => ⟨nofun, pool.restores_toJson⟩,
    r.defaulted_eq (holds "ip_addresses" (by decide)) (restores_texts m.ipAddresses),
    r.defaulted_eq (holds "tag_names" (by decide)) (restores_texts m.tagNames),
    r.optional_of_ofOption (holds "swap_size" (by decide)) fun size _ =>
      ⟨nofun, restores_word64 size⟩,
    r.optional_of_ofOption (holds "boot_interface" (by decide)) fun iface _ =>
      ⟨nofun, iface.restores_toJson⟩,
    r.defaulted_eq (holds "interface_set" (by decide))
      (restores_list fun iface _ => iface.restores_toJson),
    r.optional_of_ofOption (holds "pod" (by decide)) fun pod _ => ⟨nofun, pod.restores_toJson⟩,
    r.defaulted_eq (holds "distro_series" (by decide)) (restores_text m.distroSeries)]
  rfl

end Machine

namespace HostCapacity

@[simp] theorem isPlain_toJson (capacity : HostCapacity) : capacity.toJson.IsPlain := by simp [toJson]

theorem restores_toJson (capacity : HostCapacity) : Restores ofJson? capacity.toJson capacity := by
  refine restores_record (by simp) fun r holds => ?_
  rw [r.defaulted_eq (holds "cores" (by decide)) (restores_word32 capacity.cores),
    r.defaulted_eq (holds "memory" (by decide)) (restores_word64 capacity.memory),
    r.defaulted_eq (holds "local_storage" (by decide)) (restores_word64 capacity.localStorage)]
  rfl

end HostCapacity

namespace VmHost

theorem restores_machine (id : String) :
    Restores machineOfJson? (.obj [("system_id", .str id)]) id := by
  refine restores_record (by simp) fun r holds => ?_
  exact r.required_eq (holds "system_id" (by decide)) (restores_text id)

@[simp] theorem isPlain_toJson (host : VmHost) : host.toJson.IsPlain := by simp [toJson]

theorem restores_toJson (host : VmHost) : Restores ofJson? host.toJson host := by
  refine restores_record (by simp) fun r holds => ?_
  rw [r.required_eq (holds "id" (by decide)) (restores_word64 host.id),
    r.required_eq (holds "name" (by decide)) (restores_text host.name),
    r.defaulted_eq (holds "type" (by decide)) (restores_text host.kind),
    r.optional_of_ofOption (holds "zone" (by decide)) fun zone _ => ⟨nofun, zone.restores_toJson⟩,
    r.optional_of_ofOption (holds "pool" (by decide)) fun pool _ => ⟨nofun, pool.restores_toJson⟩,
    r.optional_of_ofOption (holds "host" (by decide)) fun id _ => ⟨nofun, restores_machine id⟩,
    r.defaulted_eq (holds "available" (by decide)) (host.available.restores_toJson),
    r.defaulted_eq (holds "tags" (by decide)) (restores_texts host.tags)]
  rfl

end VmHost

namespace AddressHolder

@[simp] theorem isPlain_toJson (holder : AddressHolder) : holder.toJson.IsPlain := by simp [toJson]

theorem restores_toJson (holder : AddressHolder) : Restores ofJson? holder.toJson holder := by
  refine restores_record (by simp) fun r holds => ?_
  rw [r.required_eq (holds "id" (by decide)) (restores_word64 holder.id),
    r.defaulted_eq (holds "name" (by decide)) (restores_text holder.name),
    r.text_of_ofOption (holds "system_id" (by decide))]
  rfl

end AddressHolder

namespace IpAllocation

@[simp] theorem isPlain_toJson (allocation : IpAllocation) : allocation.toJson.IsPlain := by
  simp [toJson]

theorem restores_toJson (allocation : IpAllocation) :
    Restores ofJson? allocation.toJson allocation := by
  refine restores_record (by simp) fun r holds => ?_
  rw [r.required_eq (holds "ip" (by decide)) (restores_text allocation.ip),
    r.defaulted_eq (holds "alloc_type_name" (by decide)) (restores_text allocation.allocationType),
    r.defaulted_eq (holds "interface_set" (by decide))
      (restores_list fun holder _ => holder.restores_toJson)]
  rfl

end IpAllocation

namespace Tag

@[simp] theorem isPlain_toJson (tag : Tag) : tag.toJson.IsPlain := by simp [toJson]

theorem restores_toJson (tag : Tag) : Restores ofJson? tag.toJson tag := by
  refine restores_record (by simp) fun r holds => ?_
  rw [r.required_eq (holds "name" (by decide)) (restores_text tag.name),
    r.defaulted_eq (holds "comment" (by decide)) (restores_text tag.comment)]
  rfl

end Tag

namespace ComposedVm

@[simp] theorem isPlain_toJson (vm : ComposedVm) : vm.toJson.IsPlain := by simp [toJson]

theorem restores_toJson (vm : ComposedVm) : Restores ofJson? vm.toJson vm := by
  refine restores_record (by simp) fun r holds => ?_
  rw [r.required_eq (holds "system_id" (by decide)) (restores_text vm.systemId),
    r.defaulted_eq (holds "resource_uri" (by decide)) (restores_text vm.resourceUri)]
  rfl

end ComposedVm

end MachineProvisioning.Maas
