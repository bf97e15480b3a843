import MachineProvisioning.Maas.Model
import MachineProvisioning.Text.Numeral

/-! # Typical equipment

Machines, hosts and interfaces with the usual values for whatever is not given.
-/

namespace MachineProvisioning.Maas

/-- A fully qualified name in the default domain. -/
def domainName (hostname : String) : String := hostname ++ ".maas"

/-- A machine without power in a lifecycle state. -/
def Machine.idle (systemId hostname statusName : String) : Machine :=
  { systemId, hostname, statusName
    fqdn := domainName hostname
    cpuCount := 4
    memory := 8192
    powerState := "off" }

/-- A container host with room. -/
def VmHost.roomy (id : UInt64) (name : String) (zone : NamedRef) (pool : Option NamedRef)
    (machine : Option String) : VmHost :=
  { id, name, pool, machine
    kind := "lxd"
    zone := some zone
    available := { cores := 16, memory := 65536, localStorage := 500 * 1024 * 1024 * 1024 }
    tags := [] }

/-- A subnet that nothing more is known of. -/
def Subnet.plain (id : UInt64) (name cidr : String) : Subnet :=
  { id, name, cidr, gatewayIp := none, vlan := none }

/-- The hardware address of the interface with this number. -/
def hardwareAddress (id : UInt64) : String :=
  "52:54:00:00:" ++ Text.hexPadded 2 ((id >>> 8) &&& 0xff).toNat ++ ":" ++
    Text.hexPadded 2 (id &&& 0xff).toNat

def Interface.physical (id : UInt64) (name : String) (links : List Link) : Interface :=
  { id, name, links
    kind := "physical"
    macAddress := some (hardwareAddress id)
    enabled := true }

/-- An address that a user has reserved and these interfaces hold. -/
def IpAllocation.reserved (ip : String) (holders : List AddressHolder) : IpAllocation :=
  { ip, holders, allocationType := "User reserved" }

end MachineProvisioning.Maas
