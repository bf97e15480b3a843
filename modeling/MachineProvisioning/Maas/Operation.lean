import MachineProvisioning.Maas.Call
import MachineProvisioning.Maas.Codec

/-! # Calls as documents

A call is written as its name followed by its arguments, and read from an object that gives the name
and the arguments by name, of which missing ones are empty. A value that a call returns is written as
MAAS would write it.
-/

namespace MachineProvisioning.Maas

open Json

def LinkParams.toJson (params : LinkParams) : Json :=
  .obj [("mode", .str params.mode.param), ("subnet", .str params.subnet),
    ("ip_address", ofOption .str params.ipAddress),
    ("default_gateway", .bool params.defaultGateway)]

def AllocateParams.toJson (params : AllocateParams) : Json :=
  .obj [("system_id", ofOption .str params.systemId),
    ("cpu_count", ofOption ofWord32 params.cpuCount), ("mem", ofOption ofWord64 params.memory),
    ("zone", ofOption .str params.zone), ("pool", ofOption .str params.pool),
    ("tags", texts params.tags)]

def ComposeParams.toJson (params : ComposeParams) : Json :=
  .obj [("cores", ofWord32 params.cores), ("memory", ofWord64 params.memory),
    ("storage", ofOption .str params.storage), ("hostname", .str params.hostname),
    ("zone", ofOption ofWord64 params.zone), ("pool", ofOption ofWord64 params.pool),
    ("interfaces", ofOption .str params.interfaces)]

def BridgeParams.toJson (params : BridgeParams) : Json :=
  .obj [("name", .str params.name), ("stp", .bool params.stp),
    ("forward_delay", ofWord32 params.forwardDelay)]

namespace Call

/-- The arguments of a call, in order. -/
def arguments : Call → List Json
  | .allocate params => [params.toJson]
  | .getMachine systemId => [.str systemId]
  | .listMachines filters => [.arr (filters.map fun (name, value) => texts [name, value])]
  | .release systemId force => [.str systemId, .bool force]
  | .setSwapSize systemId bytes => [.str systemId, ofWord64 bytes]
  | .setHostname systemId hostname => [.str systemId, .str hostname]
  | .deploy systemId params =>
      [.str systemId, ofOption .str params.distroSeries, ofOption .str params.userData]
  | .powerOn systemId => [.str systemId]
  | .listVmHosts => []
  | .getVmHost id => [ofWord64 id]
  | .compose hostId params => [ofWord64 hostId, params.toJson]
  | .listHostVms hostId => [ofWord64 hostId]
  | .listInterfaces systemId => [.str systemId]
  | .getInterface systemId interfaceId => [.str systemId, ofWord64 interfaceId]
  | .linkSubnet systemId interfaceId params =>
      [.str systemId, ofWord64 interfaceId, params.toJson]
  | .unlinkSubnet systemId interfaceId linkId =>
      [.str systemId, ofWord64 interfaceId, ofWord64 linkId]
  | .bindBootInterface systemId params => [.str systemId, params.toJson]
  | .createBridge systemId params => [.str systemId, params.toJson]
  | .getIpAddress ip => [.str ip]
  | .releaseIpAddress ip force => [.str ip, .bool force]
  | .createTag name => [.str name]
  | .assignTag name systemId => [.str name, .str systemId]

def toJson (call : Call) : Json := .arr (.str call.name :: call.arguments)

def valueToJson : (call : Call) → call.Value → Json
  | .allocate _, machine => machine.toJson
  | .getMachine _, machine => machine.toJson
  | .listMachines _, machines => .arr (machines.map Machine.toJson)
  | .release _ _, _ => .null
  | .setSwapSize _ _, machine => machine.toJson
  | .setHostname _ _, machine => machine.toJson
  | .deploy _ _, machine => machine.toJson
  | .powerOn _, machine => machine.toJson
  | .listVmHosts, hosts => .arr (hosts.map VmHost.toJson)
  | .getVmHost _, host => host.toJson
  | .compose _ _, vm => vm.toJson
  | .listHostVms _, machines => .arr (machines.map Machine.toJson)
  | .listInterfaces _, interfaces => .arr (interfaces.map Interface.toJson)
  | .getInterface _ _, iface => iface.toJson
  | .linkSubnet _ _ _, iface => iface.toJson
  | .unlinkSubnet _ _ _, iface => iface.toJson
  | .bindBootInterface _ _, iface => iface.toJson
  | .createBridge _ _, iface => iface.toJson
  | .getIpAddress _, allocation => ofOption IpAllocation.toJson allocation
  | .releaseIpAddress _ _, _ => .null
  | .createTag _, tag => tag.toJson
  | .assignTag _ _, _ => .null

/-- The text of this name, unless it is missing. -/
def text? (j : Json) (name : String) : Option String := (j.get? name).bind Json.text?

def text (j : Json) (name : String) : String := (text? j name).getD ""

def number? (j : Json) (name : String) : Option UInt64 := (j.get? name).bind word64?

def number (j : Json) (name : String) : UInt64 := (number? j name).getD 0

def flag (j : Json) (name : String) : Bool := ((j.get? name).bind bool?).getD false

def textList (j : Json) (name : String) : List String :=
  ((j.get? name).bind (list? Json.text?)).getD []

def pairList (j : Json) (name : String) : List (String × String) :=
  let pairs := ((j.get? name).bind (list? (list? Json.text?))).getD []
  pairs.filterMap fun pair =>
    match pair with
    | [key, value] => some (key, value)
    | _ => none

def linkParams? (j : Json) : Option LinkParams := do
  let mode ← (j.get? "mode").bind LinkMode.ofJson?
  some
    { mode
      subnet := text j "subnet"
      ipAddress := text? j "ip_address"
      defaultGateway := flag j "default_gateway" }

def allocateParams (j : Json) : AllocateParams :=
  { systemId := text? j "system_id"
    cpuCount := (number? j "cpu_count").map UInt64.toUInt32
    memory := number? j "mem"
    zone := text? j "zone"
    pool := text? j "pool"
    tags := textList j "tags" }

def composeParams (j : Json) : ComposeParams :=
  { cores := (number j "cores").toUInt32
    memory := number j "memory"
    storage := text? j "storage"
    hostname := text j "hostname"
    zone := number? j "zone"
    pool := number? j "pool"
    interfaces := text? j "interfaces" }

def ofJson? (j : Json) : Option Call :=
  let systemId := text j "system_id"
  match text j "call" with
  | "allocate" => some (.allocate (allocateParams j))
  | "get_machine" => some (.getMachine systemId)
  | "list_machines" => some (.listMachines (pairList j "filters"))
  | "release_machine" => some (.release systemId (flag j "force"))
  | "set_swap_size" => some (.setSwapSize systemId (number j "bytes"))
  | "set_hostname" => some (.setHostname systemId (text j "hostname"))
  | "deploy" => some (.deploy systemId ⟨text? j "distro_series", text? j "user_data"⟩)
  | "power_on" => some (.powerOn systemId)
  | "list_vm_hosts" => some .listVmHosts
  | "get_vm_host" => some (.getVmHost (number j "host_id"))
  | "compose_vm" => some (.compose (number j "host_id") (composeParams j))
  | "list_host_vms" => some (.listHostVms (number j "host_id"))
  | "list_interfaces" => some (.listInterfaces systemId)
  | "get_interface" => some (.getInterface systemId (number j "interface_id"))
  | "link_subnet" => (linkParams? j).map (.linkSubnet systemId (number j "interface_id"))
  | "unlink_subnet" =>
      some (.unlinkSubnet systemId (number j "interface_id") (number j "link_id"))
  | "set_boot_interface_static_ip" => (linkParams? j).map (.bindBootInterface systemId)
  | "create_bridge_on_boot_interface" =>
      some (.createBridge systemId
        ⟨text j "name", flag j "stp", (number j "forward_delay").toUInt32⟩)
  | "get_ip_address" => some (.getIpAddress (text j "ip"))
  | "release_ip_address" => some (.releaseIpAddress (text j "ip") (flag j "force"))
  | "create_tag" => some (.createTag (text j "name"))
  | "assign_tag" => some (.assignTag (text j "name") systemId)
  | _ => none

end Call

end MachineProvisioning.Maas
