import MachineProvisioning.Maas.Error
import MachineProvisioning.Maas.Model

/-! # Operations of MAAS

A call names one operation with its arguments; its reply type says what a success returns.
-/

namespace MachineProvisioning.Maas

inductive Call where
  | allocate (params : AllocateParams)
  | getMachine (systemId : String)
  | listMachines (filters : List (String × String))
  /-- Release a machine; by force, whatever its state. -/
  | release (systemId : String) (force : Bool)
  | setSwapSize (systemId : String) (bytes : UInt64)
  | setHostname (systemId hostname : String)
  | deploy (systemId : String) (params : DeployParams)
  | powerOn (systemId : String)
  | listVmHosts
  | getVmHost (id : UInt64)
  /-- Compose a virtual machine. Composing twice makes two. -/
  | compose (hostId : UInt64) (params : ComposeParams)
  | listHostVms (hostId : UInt64)
  | listInterfaces (systemId : String)
  | getInterface (systemId : String) (interfaceId : UInt64)
  | linkSubnet (systemId : String) (interfaceId : UInt64) (params : LinkParams)
  | unlinkSubnet (systemId : String) (interfaceId linkId : UInt64)
  | bindBootInterface (systemId : String) (params : LinkParams)
  | createBridge (systemId : String) (params : BridgeParams)
  | getIpAddress (ip : String)
  | releaseIpAddress (ip : String) (force : Bool)
  /-- Create a tag. One that exists already is a success. -/
  | createTag (name : String)
  | assignTag (name systemId : String)
  deriving Repr, DecidableEq

namespace Call

def name : Call → String
  | .allocate _ => "allocate"
  | .getMachine _ => "get_machine"
  | .listMachines _ => "list_machines"
  | .release _ _ => "release_machine"
  | .setSwapSize _ _ => "set_swap_size"
  | .setHostname _ _ => "set_hostname"
  | .deploy _ _ => "deploy"
  | .powerOn _ => "power_on"
  | .listVmHosts => "list_vm_hosts"
  | .getVmHost _ => "get_vm_host"
  | .compose _ _ => "compose_vm"
  | .listHostVms _ => "list_host_vms"
  | .listInterfaces _ => "list_interfaces"
  | .getInterface _ _ => "get_interface"
  | .linkSubnet _ _ _ => "link_subnet"
  | .unlinkSubnet _ _ _ => "unlink_subnet"
  | .bindBootInterface _ _ => "set_boot_interface_static_ip"
  | .createBridge _ _ => "create_bridge_on_boot_interface"
  | .getIpAddress _ => "get_ip_address"
  | .releaseIpAddress _ _ => "release_ip_address"
  | .createTag _ => "create_tag"
  | .assignTag _ _ => "assign_tag"

@[reducible] def Value : Call → Type
  | .allocate _ | .getMachine _ | .setSwapSize _ _ | .setHostname _ _ | .deploy _ _
  | .powerOn _ => Machine
  | .listMachines _ | .listHostVms _ => List Machine
  | .release _ _ | .releaseIpAddress _ _ | .assignTag _ _ => Unit
  | .listVmHosts => List VmHost
  | .getVmHost _ => VmHost
  | .compose _ _ => ComposedVm
  | .listInterfaces _ => List Interface
  | .getInterface _ _ | .linkSubnet _ _ _ | .unlinkSubnet _ _ _ | .bindBootInterface _ _
  | .createBridge _ _ => Interface
  | .getIpAddress _ => Option IpAllocation
  | .createTag _ => Tag

abbrev Reply (call : Call) : Type := Except Error call.Value

/-- The call changes nothing. -/
def isRead : Call → Bool
  | .getMachine _ | .listMachines _ | .listVmHosts | .getVmHost _ | .listHostVms _
  | .listInterfaces _ | .getInterface _ _ | .getIpAddress _ => true
  | _ => false

end Call

end MachineProvisioning.Maas
