import MachineProvisioning.Json.Record
import MachineProvisioning.Maas.Model

/-! # What MAAS reports, as JSON

Every type has a decoder and an encoder. An encoder writes every field, an absent value as null, and
the decoder reads back what it writes.
-/

namespace MachineProvisioning.Maas

open Json

namespace NamedRef

/-- Both fields are required. -/
def ofJson? (j : Json) : Option NamedRef := do
  let r ← Record.open? ["id", "name"] j
  some { id := ← r.required "id" word64?, name := ← r.required "name" text? }

def toJson (ref : NamedRef) : Json :=
  .obj [("id", ofWord64 ref.id), ("name", .str ref.name)]

end NamedRef

namespace Vlan

/-- Only the number is required. -/
def ofJson? (j : Json) : Option Vlan := do
  let r ← Record.open? ["id", "name", "fabric"] j
  some {
    id := ← r.required "id" word64?
    name := ← r.defaulted "name" "" text?
    fabric := ← r.defaulted "fabric" "" text? }

def toJson (vlan : Vlan) : Json :=
  .obj [("id", ofWord64 vlan.id), ("name", .str vlan.name), ("fabric", .str vlan.fabric)]

end Vlan

namespace Subnet

/-- The number and the CIDR are required. -/
def ofJson? (j : Json) : Option Subnet := do
  let r ← Record.open? ["id", "name", "cidr", "gateway_ip", "vlan"] j
  some {
    id := ← r.required "id" word64?
    name := ← r.defaulted "name" "" text?
    cidr := ← r.required "cidr" text?
    gatewayIp := ← r.optional "gateway_ip" text?
    vlan := ← r.optional "vlan" Vlan.ofJson? }

def toJson (subnet : Subnet) : Json :=
  .obj [("id", ofWord64 subnet.id), ("name", .str subnet.name), ("cidr", .str subnet.cidr),
    ("gateway_ip", ofOption .str subnet.gatewayIp), ("vlan", ofOption Vlan.toJson subnet.vlan)]

end Subnet

namespace LinkMode

def names : List (String × LinkMode) :=
  [("auto", .auto), ("dhcp", .dhcp), ("static", .static), ("link_up", .linkUp)]

def ofJson? : Json → Option LinkMode := oneOf? names

def name : LinkMode → String
  | .auto => "auto"
  | .dhcp => "dhcp"
  | .static => "static"
  | .linkUp => "link_up"

def toJson (mode : LinkMode) : Json := .str mode.name

end LinkMode

namespace Link

/-- The number and the mode are required. -/
def ofJson? (j : Json) : Option Link := do
  let r ← Record.open? ["id", "mode", "subnet", "ip_address"] j
  some {
    id := ← r.required "id" word64?
    mode := ← r.required "mode" LinkMode.ofJson?
    subnet := ← r.optional "subnet" Subnet.ofJson?
    ipAddress := ← r.optional "ip_address" text? }

def toJson (link : Link) : Json :=
  .obj [("id", ofWord64 link.id), ("mode", link.mode.toJson),
    ("subnet", ofOption Subnet.toJson link.subnet), ("ip_address", ofOption .str link.ipAddress)]

end Link

namespace Interface

/-- The number and the name are required. -/
def ofJson? (j : Json) : Option Interface := do
  let r ← Record.open? ["id", "name", "type", "mac_address", "enabled", "links"] j
  some {
    id := ← r.required "id" word64?
    name := ← r.required "name" text?
    kind := ← r.defaulted "type" "" text?
    macAddress := ← r.optional "mac_address" text?
    enabled := ← r.defaulted "enabled" false bool?
    links := ← r.defaulted "links" [] (list? Link.ofJson?) }

def toJson (iface : Interface) : Json :=
  .obj [("id", ofWord64 iface.id), ("name", .str iface.name), ("type", .str iface.kind),
    ("mac_address", ofOption .str iface.macAddress), ("enabled", .bool iface.enabled),
    ("links", .arr (iface.links.map Link.toJson))]

end Interface

namespace Machine

/-- The fields of a machine, in the order in which an array lists them. -/
def fieldNames : List String :=
  ["system_id", "hostname", "fqdn", "cpu_count", "memory", "status_name", "power_state", "zone",
    "pool", "ip_addresses", "tag_names", "swap_size", "boot_interface", "interface_set", "pod",
    "distro_series"]

/-- The system id and the hostname are required. -/
def ofJson? (j : Json) : Option Machine := do
  let r ← Record.open? fieldNames j
  some {
    systemId := ← r.required "system_id" text?
    hostname := ← r.required "hostname" text?
    fqdn := ← r.defaulted "fqdn" "" text?
    cpuCount := ← r.defaulted "cpu_count" 0 word32?
    memory := ← r.defaulted "memory" 0 word64?
    statusName := ← r.defaulted "status_name" "" text?
    powerState := ← r.defaulted "power_state" "" text?
    zone := ← r.optional "zone" NamedRef.ofJson?
    pool := ← r.optional "pool" NamedRef.ofJson?
    ipAddresses := ← r.defaulted "ip_addresses" [] (list? text?)
    tagNames := ← r.defaulted "tag_names" [] (list? text?)
    swapSize := ← r.optional "swap_size" word64?
    bootInterface := ← r.optional "boot_interface" Interface.ofJson?
    interfaceSet := ← r.defaulted "interface_set" [] (list? Interface.ofJson?)
    pod := ← r.optional "pod" NamedRef.ofJson?
    distroSeries := ← r.defaulted "distro_series" "" text? }

def toJson (m : Machine) : Json :=
  .obj [("system_id", .str m.systemId), ("hostname", .str m.hostname), ("fqdn", .str m.fqdn),
    ("cpu_count", ofWord32 m.cpuCount), ("memory", ofWord64 m.memory),
    ("status_name", .str m.statusName), ("power_state", .str m.powerState),
    ("zone", ofOption NamedRef.toJson m.zone), ("pool", ofOption NamedRef.toJson m.pool),
    ("ip_addresses", texts m.ipAddresses), ("tag_names", texts m.tagNames),
    ("swap_size", ofOption ofWord64 m.swapSize),
    ("boot_interface", ofOption Interface.toJson m.bootInterface),
    ("interface_set", .arr (m.interfaceSet.map Interface.toJson)),
    ("pod", ofOption NamedRef.toJson m.pod), ("distro_series", .str m.distroSeries)]

end Machine

namespace HostCapacity

/-- No field is required. -/
def ofJson? (j : Json) : Option HostCapacity := do
  let r ← Record.open? ["cores", "memory", "local_storage"] j
  some {
    cores := ← r.defaulted "cores" 0 word32?
    memory := ← r.defaulted "memory" 0 word64?
    localStorage := ← r.defaulted "local_storage" 0 word64? }

def toJson (capacity : HostCapacity) : Json :=
  .obj [("cores", ofWord32 capacity.cores), ("memory", ofWord64 capacity.memory),
    ("local_storage", ofWord64 capacity.localStorage)]

end HostCapacity

namespace VmHost

/-- The reference to the machine under a host. -/
def machineOfJson? (j : Json) : Option String := do
  let r ← Record.open? ["system_id"] j
  r.required "system_id" text?

/-- The number and the name are required. -/
def ofJson? (j : Json) : Option VmHost := do
  let r ← Record.open? ["id", "name", "type", "zone", "pool", "host", "available", "tags"] j
  some {
    id := ← r.required "id" word64?
    name := ← r.required "name" text?
    kind := ← r.defaulted "type" "" text?
    zone := ← r.optional "zone" NamedRef.ofJson?
    pool := ← r.optional "pool" NamedRef.ofJson?
    machine := ← r.optional "host" machineOfJson?
    available := ← r.defaulted "available" {} HostCapacity.ofJson?
    tags := ← r.defaulted "tags" [] (list? text?) }

def toJson (host : VmHost) : Json :=
  .obj [("id", ofWord64 host.id), ("name", .str host.name), ("type", .str host.kind),
    ("zone", ofOption NamedRef.toJson host.zone), ("pool", ofOption NamedRef.toJson host.pool),
    ("host", ofOption (fun id => .obj [("system_id", .str id)]) host.machine),
    ("available", host.available.toJson), ("tags", texts host.tags)]

end VmHost

namespace AddressHolder

/-- Only the number is required. -/
def ofJson? (j : Json) : Option AddressHolder := do
  let r ← Record.open? ["id", "name", "system_id"] j
  some {
    id := ← r.required "id" word64?
    name := ← r.defaulted "name" "" text?
    systemId := ← r.optional "system_id" text? }

def toJson (holder : AddressHolder) : Json :=
  .obj [("id", ofWord64 holder.id), ("name", .str holder.name),
    ("system_id", ofOption .str holder.systemId)]

end AddressHolder

namespace IpAllocation

/-- Only the address is required. -/
def ofJson? (j : Json) : Option IpAllocation := do
  let r ← Record.open? ["ip", "alloc_type_name", "interface_set"] j
  some {
    ip := ← r.required "ip" text?
    allocationType := ← r.defaulted "alloc_type_name" "" text?
    holders := ← r.defaulted "interface_set" [] (list? AddressHolder.ofJson?) }

def toJson (allocation : IpAllocation) : Json :=
  .obj [("ip", .str allocation.ip), ("alloc_type_name", .str allocation.allocationType),
    ("interface_set", .arr (allocation.holders.map AddressHolder.toJson))]

end IpAllocation

namespace Tag

/-- Only the name is required. -/
def ofJson? (j : Json) : Option Tag := do
  let r ← Record.open? ["name", "comment"] j
  some { name := ← r.required "name" text?, comment := ← r.defaulted "comment" "" text? }

def toJson (tag : Tag) : Json :=
  .obj [("name", .str tag.name), ("comment", .str tag.comment)]

end Tag

namespace ComposedVm

/-- Only the system id is required. -/
def ofJson? (j : Json) : Option ComposedVm := do
  let r ← Record.open? ["system_id", "resource_uri"] j
  some {
    systemId := ← r.required "system_id" text?
    resourceUri := ← r.defaulted "resource_uri" "" text? }

def toJson (vm : ComposedVm) : Json :=
  .obj [("system_id", .str vm.systemId), ("resource_uri", .str vm.resourceUri)]

end ComposedVm

end MachineProvisioning.Maas
