import MachineProvisioning.Failure
import MachineProvisioning.Net.Block
import MachineProvisioning.Resource.Model
import MachineProvisioning.Text.Blank

/-! # Validating a declared static address

A declaration is lawful when its texts can be read, address and gateway are of one family, the
address lies in the subnet and in no reserved range, and an IPv4 gateway lies in the subnet. The
rules are tried in a fixed order, and the first one that fails names the fault.
-/

namespace MachineProvisioning.StaticIp

open Net Text
open Resource (StaticIpSpec)

/-- A lawful static address. -/
structure Declaration where
  address : Address
  gateway : Address
  /-- The subnet with its host bits cleared. -/
  network : Block
  /-- The subnet was given as a CIDR, not as a mask or a number of bits. -/
  explicitCidr : Bool
  dnsServers : List Address
  interface : Option String
  deriving Repr, DecidableEq

/-- An address with blanks around it. -/
def addressOf? (text : String) : Option Address :=
  Address.ofChars? (trimChars text.toList)

/-- A non-empty run of ASCII digits. -/
def isDigits (cs : List Char) : Bool :=
  !cs.isEmpty && cs.all Char.isDigit

/-- A subnet given as `base/bits` with something before the slash. -/
def isCidr (cs : List Char) : Bool :=
  match splitFirst '/' cs with
  | some (base, _) => !base.isEmpty
  | none => false

/-- A number of bits without the slash that may stand before it. -/
def withoutSlash : List Char → List Char
  | '/' :: rest => rest
  | cs => cs

/-- The block of `address` that a subnet text names, and whether the text is a CIDR. -/
def subnetOf (address : Address) (text : String) : Except StaticIpFault (Block × Bool) :=
  let cs := trimChars text.toList
  let invalid : Except StaticIpFault (Block × Bool) :=
    .error (.invalidSubnet (String.ofList cs))
  if isCidr cs then
    match Block.ofChars? cs with
    | some block =>
        if block.base.family = address.family then .ok (block.network, true) else invalid
    | none => invalid
  else if isDigits (withoutSlash cs) then
    match (readUnsigned? 255 (withoutSlash cs)).bind (Block.ofAddress? address) with
    | some block => .ok (block.network, false)
    | none => invalid
  else
    match Address.quad? cs with
    | none => invalid
    | some mask =>
        if address.family = .v6 then invalid
        else
          match Block.maskBits? mask with
          | none => .error (.nonContiguousMask (Address.quadText mask))
          | some bits =>
              match Block.ofAddress? address bits with
              | some block => .ok (block.network, false)
              | none => invalid

/-- Addresses that no machine may have: this network, loopback, link-local, multicast and reserved
    ones of IPv4; the unspecified, loopback, link-local and multicast ones of IPv6. -/
def isReserved (a : Address) : Bool :=
  match a.family with
  | .v4 =>
      let first := a.value / Nat.pow 2 24
      first == 0 || first == 127 || a.value / Nat.pow 2 16 == 169 * 256 + 254 || first ≥ 224
  | .v6 =>
      a.value == 0 || a.value == 1 || a.value / Nat.pow 2 118 == 0xFE80 / 64 ||
        a.value / Nat.pow 2 120 == 0xFF

/-- The DNS servers of a declaration, up to the first that cannot be read. -/
def dnsServersOf : List String → Except StaticIpFault (List Address)
  | [] => .ok []
  | text :: rest =>
      match addressOf? text with
      | none => .error (.invalidDnsServer text)
      | some a => (dnsServersOf rest).map (a :: ·)

/-- The lawful address that a declaration names, or the fault of the first rule that fails. -/
def validate (spec : StaticIpSpec) : Except StaticIpFault Declaration :=
  match addressOf? spec.address with
  | none => .error (.invalidAddress spec.address)
  | some address =>
  match addressOf? spec.gateway with
  | none => .error (.invalidGateway spec.gateway)
  | some gateway =>
  if gateway.family ≠ address.family then
    .error (.invalidGateway (spec.gateway ++ " is not in the address family of " ++ spec.address))
  else
  match subnetOf address spec.subnet with
  | .error fault => .error fault
  | .ok (network, explicitCidr) =>
  if !network.contains address then
    .error (.notInSubnet address.toText network.toText)
  else if isReserved address then
    .error (.reservedRange address.toText)
  else if address.family = .v4 && !network.contains gateway then
    .error (.gatewayNotInSubnet gateway.toText network.toText)
  else
  match dnsServersOf spec.dnsServers with
  | .error fault => .error fault
  | .ok dnsServers =>
      .ok { address, gateway, network, explicitCidr, dnsServers, interface := spec.interface }

end MachineProvisioning.StaticIp
