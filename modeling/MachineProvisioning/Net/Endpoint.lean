import MachineProvisioning.Net.Address

/-! # Endpoints

An address to listen on: `address:port`, with an IPv6 address and its zone in brackets.
-/

namespace MachineProvisioning.Net

open Text

/-- An address and a port. The zone counts for IPv6 only; zero is no zone. -/
structure Endpoint where
  address : Address
  zone : Nat
  port : Nat
  deriving Repr, DecidableEq

namespace Endpoint

/-- A port: any number of digits, at most 65535. -/
def port? (cs : List Char) : Option Nat :=
  (readDecimal? cs).filter (· ≤ maxWord16)

/-- An IPv6 address with an optional zone number. -/
def zoned? (cs : List Char) : Option (Address × Nat) :=
  match splitFirst '%' cs with
  | none => (Address.v6OfChars? cs).map (·, 0)
  | some (address, zone) => do
      let a ← Address.v6OfChars? address
      let z ← (readDecimal? zone).filter (· ≤ maxWord32)
      some (a, z)

/-- The text before the first closing bracket and the text after the colon that follows it. -/
def bracketed? (cs : List Char) : Option (List Char × List Char) := do
  let (inside, after) ← splitFirst ']' cs
  match after with
  | ':' :: port => some (inside, port)
  | _ => none

/-- `address:port` or `[address]:port`. -/
def ofChars? : List Char → Option Endpoint
  | '[' :: rest => do
      let (inside, port) ← bracketed? rest
      let (address, zone) ← zoned? inside
      some ⟨address, zone, ← port? port⟩
  | cs => do
      let (address, port) ← splitFirst ':' cs
      some ⟨← Address.v4OfChars? address, 0, ← port? port⟩

def ofText? (s : String) : Option Endpoint :=
  ofChars? s.toList

/-- The shortest text of an endpoint. -/
def toText (e : Endpoint) : String :=
  match e.address.family with
  | .v4 => e.address.toText ++ ":" ++ decimal e.port
  | .v6 =>
      let zone := if e.zone = 0 then "" else "%" ++ decimal e.zone
      "[" ++ e.address.toText ++ zone ++ "]:" ++ decimal e.port

end Endpoint

end MachineProvisioning.Net
