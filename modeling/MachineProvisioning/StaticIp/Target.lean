import MachineProvisioning.Maas.Model
import MachineProvisioning.StaticIp.Declaration

/-! # Where a static address is bound

The named interface, or the first one with a link on a subnet that contains the address, or the boot
interface. An interface carries the address already when a static link has it on the right subnet.
-/

namespace MachineProvisioning.StaticIp

open Net Text
open Maas (Interface Link)

/-- The block of a subnet, if its CIDR can be read. -/
def blockOf? (cidr : String) : Option Block :=
  (Block.ofChars? (trimChars cidr.toList)).map Block.network

/-- The block that a link is on. -/
def linkBlock? (link : Link) : Option Block :=
  link.subnet.bind fun subnet => blockOf? subnet.cidr

def linkContains (address : Address) (link : Link) : Bool :=
  match linkBlock? link with
  | some block => block.contains address
  | none => false

/-- The links of an interface on subnets that contain the address. -/
def linksContaining (iface : Interface) (address : Address) : List Link :=
  iface.links.filter (linkContains address)

/-- The link is a static one and carries the address. -/
def carries (address : Address) (link : Link) : Bool :=
  link.mode == .static && link.ipAddress.bind Address.ofText? == some address

/-- The interface carries the address as a static link on the declared subnet. -/
def isBound (iface : Interface) (ip : Declaration) : Bool :=
  (linksContaining iface ip.address).any fun link =>
    carries ip.address link && (!ip.explicitCidr || linkBlock? link == some ip.network)

/-- Where to bind. -/
inductive Target where
  | interface (iface : Interface)
  /-- The boot interface, which MAAS knows. -/
  | boot
  deriving Repr, DecidableEq

/-- The interface to bind the address on. A declaration that names a missing interface is refused. -/
def selectTarget (interfaces : List Interface) (bootId : Option UInt64) (ip : Declaration) :
    Except ProvisioningFailure Target :=
  match ip.interface with
  | some name =>
      match interfaces.find? (·.name == name) with
      | some iface => .ok (.interface iface)
      | none =>
          .error (.new .networkConfiguration
            ("interface " ++ name ++ " not found for static IP " ++ ip.address.toText))
  | none =>
      match interfaces.find? fun iface => !(linksContaining iface ip.address).isEmpty with
      | some iface => .ok (.interface iface)
      | none =>
          match bootId.bind fun id => interfaces.find? (·.id == id) with
          | some iface => .ok (.interface iface)
          | none => .ok .boot

/-- The subnet to link: the first known one that contains the address, by number, or the declared
    block as a CIDR. -/
def subnetSpecifier (interfaces : List Interface) (ip : Declaration) : String :=
  let known := interfaces.flatMap (linksContaining · ip.address)
  match known.findSome? (·.subnet) with
  | some subnet => decimal subnet.id.toNat
  | none => "cidr:" ++ ip.network.toText

end MachineProvisioning.StaticIp
