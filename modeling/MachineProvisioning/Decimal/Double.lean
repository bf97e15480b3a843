import MachineProvisioning.Text.Numeral

/-! # Doubles in decimal notation

A double is written positionally with the fewest digits that read back to it; of two such numerals
the nearer one is taken, and the larger one of two that are equally near. All arithmetic is exact:
a double is decoded to a natural number of units that are a power of two, and compared with points
of a decimal grid.
-/

namespace MachineProvisioning.Decimal

open Text

/-- A positive rational number. -/
structure Ratio where
  num : Nat
  den : Nat

/-- `n` units of `2 ^ exponent`. -/
def Ratio.binary (n : Nat) (exponent : Int) : Ratio :=
  ⟨n * Nat.pow 2 exponent.toNat, Nat.pow 2 (-exponent).toNat⟩

/-- `n` units of `10 ^ exponent`. -/
def Ratio.decimal (n : Nat) (exponent : Int) : Ratio :=
  ⟨n * Nat.pow 10 exponent.toNat, Nat.pow 10 (-exponent).toNat⟩

def Ratio.compare (a b : Ratio) : Ordering :=
  Ord.compare (a.num * b.den) (b.num * a.den)

/-- The exponent of the leading decimal digit of a positive number. -/
def Ratio.leadingExponent (a : Ratio) : Int :=
  if a.den ≤ a.num then (Nat.toDigits 10 (a.num / a.den)).length - 1
  else -(Nat.toDigits 10 ((a.den - 1) / a.num)).length

/-- The size of a finite double in units of `2 ^ exponent`. -/
structure Binary where
  units : Nat
  exponent : Int
  /-- The next smaller double is half as far away as the next larger one. -/
  narrowBelow : Bool

def Binary.ofBits (bits : UInt64) : Binary :=
  let biased := ((bits >>> 52) &&& 0x7FF).toNat
  let fraction := (bits &&& 0xFFFFFFFFFFFFF).toNat
  if biased = 0 then ⟨fraction, -1074, false⟩
  else ⟨Nat.pow 2 52 + fraction, biased - 1075, fraction == 0 && biased > 1⟩

/-- Whether the number rounds to the double. The ends of the interval do if its unit count is even. -/
def Binary.readsBack (b : Binary) (a : Ratio) : Bool :=
  let low := Ratio.binary (4 * b.units - if b.narrowBelow then 1 else 2) (b.exponent - 2)
  let high := Ratio.binary (4 * b.units + 2) (b.exponent - 2)
  let inclusive := b.units % 2 == 0
  let aboveLow := match low.compare a with
    | .lt => true
    | .eq => inclusive
    | .gt => false
  let belowHigh := match a.compare high with
    | .lt => true
    | .eq => inclusive
    | .gt => false
  aboveLow && belowHigh

/-- The point of the grid `10 ^ exponent` that reads back, if there is one: of the two neighbours
    of the double the nearer one, or the larger one of equally near ones. -/
def Binary.onGrid? (b : Binary) (exponent : Int) : Option Nat :=
  let value := Ratio.binary b.units b.exponent
  let below := (value.num * Nat.pow 10 (-exponent).toNat) / (value.den * Nat.pow 10 exponent.toNat)
  let belowOk := b.readsBack (.decimal below exponent)
  let aboveOk := b.readsBack (.decimal (below + 1) exponent)
  let nearerBelow :=
    (Ratio.binary (2 * b.units) b.exponent).compare (.decimal (2 * below + 1) exponent) == .lt
  if belowOk && (nearerBelow || !aboveOk) then some below
  else if aboveOk then some (below + 1)
  else none

/-- The numeral with the fewest digits, from `digits` on and with at most `more` more. A carry into
    one more place leaves a zero at the end, which is dropped. -/
def Binary.search (b : Binary) (leading : Int) (digits : Nat) : Nat → Option (Nat × Int)
  | 0 => none
  | more + 1 =>
      let exponent := leading - digits + 1
      match b.onGrid? exponent with
      | some n => some (if n % 10 = 0 then (n / 10, exponent + 1) else (n, exponent))
      | none => b.search leading (digits + 1) more

def positional (n : Nat) (exponent : Int) : String :=
  let digits := Nat.toDigits 10 n
  if 0 ≤ exponent then String.ofList (digits ++ List.replicate exponent.toNat '0')
  else
    let places := (-exponent).toNat
    let digits := List.replicate (places + 1 - digits.length) '0' ++ digits
    let whole := digits.length - places
    String.ofList (digits.take whole ++ '.' :: digits.drop whole)

/-- `n` units of `10 ^ exponent` in a notation that always shows a point or an exponent: positional
    from `10 ^ -5` on and below `10 ^ 16`, and with the point after the first digit elsewhere. -/
def scientificNumeral (n : Nat) (exponent : Int) : String :=
  let digits := Nat.toDigits 10 n
  let point := digits.length + exponent
  if -5 < point ∧ point ≤ 16 then positional n exponent ++ (if 0 ≤ exponent then ".0" else "")
  else
    String.ofList (digits.take 1 ++ (if digits.length = 1 then [] else '.' :: digits.drop 1)) ++ "e" ++
      decimalInt (point - 1)

/-- The numeral of a finite double, with `write` for the digits of its size. -/
def numeralWith (write : Nat → Int → String) (x : Float) : String :=
  let bits := x.toBits
  let b := Binary.ofBits bits
  let size :=
    if b.units = 0 then write 0 0
    else
      match b.search (Ratio.binary b.units b.exponent).leadingExponent 1 17 with
      | some (n, exponent) => write n exponent
      | none => write 0 0
  if bits >>> 63 = 1 then "-" ++ size else size

def double (x : Float) : String := numeralWith positional x

/-- The numeral of a finite double that is told from an integer by its point or exponent. -/
def scientific (x : Float) : String := numeralWith scientificNumeral x

/-- The double nearest to a numeral with an optional sign, fraction and exponent, unless it is
    beyond all doubles. The numeral is known to be too large or to stand for zero by its leading
    digit alone when that is more than 400 places away from the point. -/
def readDouble? (text : String) : Option Float := do
  let (negative, cs) := match text.toList with
    | '-' :: rest => (true, rest)
    | cs => (false, cs)
  let isMark (c : Char) : Bool := c = 'e' || c = 'E'
  let mantissa := cs.takeWhile (!isMark ·)
  let exponent ← match (cs.dropWhile (!isMark ·)).drop 1 with
    | [] => some (0 : Int)
    | '-' :: rest => (readDecimal? rest).map fun n => -(n : Int)
    | '+' :: rest => (readDecimal? rest).map Int.ofNat
    | rest => (readDecimal? rest).map Int.ofNat
  let whole := mantissa.takeWhile (· ≠ '.')
  let fraction := (mantissa.dropWhile (· ≠ '.')).drop 1
  let units ← readDecimal? (whole ++ fraction)
  let exponent := exponent - fraction.length
  let magnitude := (Nat.toDigits 10 units).length + exponent
  let size ←
    if units = 0 ∨ magnitude < -400 then some 0
    else if 400 < magnitude then none
    else (some (Float.ofScientific units (exponent < 0) exponent.natAbs)).filter Float.isFinite
  some (if negative then -size else size)

end MachineProvisioning.Decimal
