import MachineProvisioning.Maas.Model
import MachineProvisioning.StaticIp.Declaration

/-! # Networks of a virtual machine

A virtual machine with two declared networks has the management network on `eth0` and the workload
network on `eth1`. A network is declared by the name of a subnet, a CIDR or the name of a VLAN.
-/

namespace MachineProvisioning.Wiring

open Net Text
open Maas (Subnet Machine)

/-- The network as MAAS expects it: a CIDR is marked as one, a name stands for itself. -/
def specifier (network : String) : String :=
  let cs := trimChars network.toList
  if (Block.ofChars? cs).isSome then "cidr:" ++ String.ofList cs else String.ofList cs

/-- The wiring of one interface, with the static address if it belongs there. -/
def entry (name network : String) (address : Option String) : String :=
  name ++ ":subnet=" ++ specifier network ++
    match address with
    | some text => ",ip=" ++ text
    | none => ""

/-- The wiring of two networks. The static address goes to the interface that its declaration names,
    or to the workload network. -/
def constraints (networks : List String) (staticIp : Option StaticIp.Declaration) :
    Option String :=
  match networks with
  | [management, workload] =>
      let addressOn (name : String) : Option String := do
        let ip ← staticIp
        if ip.interface.getD "eth1" = name then some ip.address.toText else none
      some (entry "eth0" management (addressOn "eth0") ++ ";" ++
        entry "eth1" workload (addressOn "eth1"))
  | _ => none

/-- The part of a name before its first dot. -/
def shortName (name : String) : String :=
  match splitFirst '.' name.toList with
  | some (before, _) => String.ofList before
  | none => name

/-- The machine has the hostname, in full or as the short name of its hostname or of its FQDN. -/
def hostnameMatches (machine : Machine) (hostname : String) : Bool :=
  machine.hostname == hostname || shortName machine.hostname == hostname ||
    (machine.fqdn != "" && shortName machine.fqdn == hostname)

/-- The subnet is the declared network: by name, by its CIDR as written or as a block, or by the
    name of its VLAN. -/
def subnetMatches (subnet : Subnet) (network : String) : Bool :=
  let cs := trimChars network.toList
  let name := String.ofList cs
  let sameBlock :=
    match Block.ofChars? (trimChars subnet.cidr.toList), Block.ofChars? cs with
    | some a, some b => a.network == b.network
    | _, _ => false
  subnet.name == name || subnet.cidr == name || sameBlock ||
    match subnet.vlan with
    | some vlan => vlan.name != "" && vlan.name == name
    | none => false

end MachineProvisioning.Wiring
