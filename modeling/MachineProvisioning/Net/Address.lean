import MachineProvisioning.Text.Split
import MachineProvisioning.Text.Numeral

/-! # IP addresses

An address is a number below `2 ^ 32` or `2 ^ 128`. The text of an IPv4 address is four decimal
octets without leading zeros. The text of an IPv6 address is eight groups of hexadecimal digits, of
which one run of zeros may be left out at `::`, and the last two may be written as an IPv4 address.
-/

namespace MachineProvisioning.Net

open Text

inductive Family where
  | v4
  | v6
  deriving Repr, DecidableEq

def Family.width : Family → Nat
  | .v4 => 32
  | .v6 => 128

structure Address where
  family : Family
  value : Nat
  value_lt : value < Nat.pow 2 family.width
  deriving Repr, DecidableEq

namespace Address

/-- The address with this value, which counts modulo the number of addresses. -/
def ofValue (family : Family) (value : Nat) : Address :=
  ⟨family, value % Nat.pow 2 family.width, Nat.mod_lt _ (Nat.two_pow_pos _)⟩

@[simp] theorem ofValue_value (a : Address) : ofValue a.family a.value = a := by
  obtain ⟨family, value, h⟩ := a
  unfold ofValue
  simp only [Nat.mod_eq_of_lt h]

/-- The number whose digits in the given base these are, the first digit being the greatest. -/
def ofDigits (base : Nat) (digits : List Nat) : Nat :=
  digits.foldl (fun n d => n * base + d) 0

/-- The four octets of an IPv4 value. -/
def octets (value : Nat) : List Nat :=
  [value / Nat.pow 2 24 % 256, value / Nat.pow 2 16 % 256, value / Nat.pow 2 8 % 256, value % 256]

/-- The eight groups of an IPv6 value. -/
def groups (value : Nat) : List Nat :=
  (List.range 8).map fun i => value / Nat.pow 2 (16 * (7 - i)) % 65536

/-- An octet: up to three digits without a leading zero, at most 255. -/
def octet? (cs : List Char) : Option Nat :=
  match cs with
  | ['0'] => some 0
  | '0' :: _ => none
  | _ => if cs.length ≤ 3 then (readDecimal? cs).filter (· ≤ 255) else none

/-- The value of a dotted quad. -/
def quad? (cs : List Char) : Option Nat := do
  let octets ← (splitChars '.' cs).mapM octet?
  if octets.length = 4 then some (ofDigits 256 octets) else none

def v4OfChars? (cs : List Char) : Option Address :=
  (quad? cs).map (ofValue .v4)

/-- A group: one to four hexadecimal digits. -/
def group? (cs : List Char) : Option Nat :=
  if cs.length ≤ 4 then readHex? cs else none

/-- The groups of one side of `::`. The last piece may be a dotted quad, which makes two groups. -/
def groups? (quadAllowed : Bool) : List (List Char) → Option (List Nat)
  | [] => some []
  | [last] =>
      match group? last with
      | some g => some [g]
      | none => if quadAllowed then (quad? last).map fun q => [q / 65536, q % 65536] else none
  | piece :: rest => do
      let g ← group? piece
      let gs ← groups? quadAllowed rest
      some (g :: gs)

/-- The groups of a text between colons, none for the empty text. -/
def side? (quadAllowed : Bool) (cs : List Char) : Option (List Nat) :=
  if cs.isEmpty then some [] else groups? quadAllowed (splitChars ':' cs)

/-- The parts before and after the first `::`. -/
def splitGap : List Char → Option (List Char × List Char)
  | ':' :: ':' :: rest => some ([], rest)
  | c :: rest => (splitGap rest).map fun (before, after) => (c :: before, after)
  | [] => none

/-- The eight groups of an IPv6 address. A `::` stands for at least one group. -/
def v6Groups? (cs : List Char) : Option (List Nat) :=
  match splitGap cs with
  | some (before, after) => do
      let head ← side? false before
      let tail ← side? true after
      if head.length + tail.length ≤ 7 then
        some (head ++ List.replicate (8 - (head.length + tail.length)) 0 ++ tail)
      else none
  | none => do
      let all ← side? true cs
      if all.length = 8 then some all else none

def v6OfChars? (cs : List Char) : Option Address :=
  (v6Groups? cs).map fun gs => ofValue .v6 (ofDigits 65536 gs)

/-- An address of either family. -/
def ofChars? (cs : List Char) : Option Address :=
  match v4OfChars? cs with
  | some a => some a
  | none => v6OfChars? cs

def ofText? (s : String) : Option Address :=
  ofChars? s.toList

def quadText (value : Nat) : String :=
  join "." ((octets value).map decimal)

/-- The length of the run of zeros at the head. -/
def zeroRun : List Nat → Nat
  | 0 :: rest => zeroRun rest + 1
  | _ => 0

/-- Start and length of the longest run of zeros, the first one of several, after a position. -/
def longestZeroRun : Nat → List Nat → Nat × Nat
  | _, [] => (0, 0)
  | start, g :: rest =>
      let here := zeroRun (g :: rest)
      let later := longestZeroRun (start + 1) rest
      if here ≥ later.2 then (start, here) else later

def groupsText (gs : List Nat) : String :=
  join ":" (gs.map hex)

/-- Groups with their longest run of at least two zeros left out; an embedded IPv4 address is
    written as a dotted quad. -/
def v6Text (value : Nat) : String :=
  if value / Nat.pow 2 32 = 65535 then "::ffff:" ++ quadText (value % Nat.pow 2 32)
  else
    let gs := groups value
    let (start, length) := longestZeroRun 0 gs
    if length > 1 then groupsText (gs.take start) ++ "::" ++ groupsText (gs.drop (start + length))
    else groupsText gs

/-- The shortest text of an address. -/
def toText (a : Address) : String :=
  match a.family with
  | .v4 => quadText a.value
  | .v6 => v6Text a.value

end Address

end MachineProvisioning.Net
