import MachineProvisioning.Net.Address

/-! # Address blocks

A block `address/bits` holds the addresses of one family that share the first `bits` bits. Reading a
block keeps the bits after those; `network` clears them.
-/

namespace MachineProvisioning.Net

open Text

/-- An address together with the number of leading bits that name its block. -/
structure Block where
  base : Address
  bits : Nat
  bits_le : bits ≤ base.family.width
  deriving Repr, DecidableEq

namespace Block

def size (b : Block) : Nat := Nat.pow 2 (b.base.family.width - b.bits)

/-- The block of an address, unless there are fewer bits. -/
def ofAddress? (a : Address) (bits : Nat) : Option Block :=
  if h : bits ≤ a.family.width then some ⟨a, bits, h⟩ else none

/-- The block with the bits after the leading ones cleared. -/
def network (b : Block) : Block :=
  ⟨Address.ofValue b.base.family (b.base.value / b.size * b.size), b.bits, b.bits_le⟩

def contains (b : Block) (a : Address) : Bool :=
  a.family == b.base.family && a.value / b.size == b.base.value / b.size

/-- The number of leading ones of an IPv4 mask that has only zeros after them. -/
def maskBits? (mask : Nat) : Option Nat :=
  (List.range 33).find? fun bits => mask == Nat.pow 2 32 - Nat.pow 2 (32 - bits)

/-- The number of bits of an IPv4 block: a number or a contiguous mask. -/
def v4Bits? (cs : List Char) : Option Nat :=
  match Address.quad? cs with
  | some mask => maskBits? mask
  | none => readUnsigned? 255 cs

/-- The address and what follows the only slash. -/
def parts? (cs : List Char) : Option (List Char × Option (List Char)) :=
  match splitFirst '/' cs with
  | none => some (cs, none)
  | some (address, bits) => if bits.contains '/' then none else some (address, some bits)

/-- An IPv4 block; without bits it holds one address. -/
def v4OfChars? (cs : List Char) : Option Block := do
  let (address, bits) ← parts? cs
  let a ← Address.v4OfChars? address
  match bits with
  | none => ofAddress? a a.family.width
  | some bits => ofAddress? a (← v4Bits? bits)

/-- An IPv6 block; without bits it holds one address. -/
def v6OfChars? (cs : List Char) : Option Block := do
  let (address, bits) ← parts? cs
  let a ← Address.v6OfChars? address
  match bits with
  | none => ofAddress? a a.family.width
  | some bits => ofAddress? a (← readUnsigned? 255 bits)

/-- A block of either family. -/
def ofChars? (cs : List Char) : Option Block :=
  match v4OfChars? cs with
  | some b => some b
  | none => v6OfChars? cs

def ofText? (s : String) : Option Block :=
  ofChars? s.toList

/-- The text `address/bits`. -/
def toText (b : Block) : String :=
  b.base.toText ++ "/" ++ decimal b.bits

end Block

end MachineProvisioning.Net
