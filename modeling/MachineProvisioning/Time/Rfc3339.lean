import MachineProvisioning.Time.Instant
import MachineProvisioning.Text.Blank
import MachineProvisioning.Text.Numeral

/-! # Timestamps as text

Timestamps are written as RFC 3339 asks, in UTC with `Z`, with the fewest of 0, 3, 6 or 9 fraction
digits that are exact, or without a fraction where only seconds are kept. They are read with any offset;
months, days and times may leave out a leading zero, blanks may stand between the parts, and the date and
the time may be separated by a blank.
-/

namespace MachineProvisioning.Instant

open Text

/-- The fraction of a second: nothing, milliseconds, microseconds or nanoseconds. -/
def fraction (nanos : Nat) : String :=
  if nanos = 0 then ""
  else if nanos % 1000000 = 0 then "." ++ decimalPadded 3 (nanos / 1000000)
  else if nanos % 1000 = 0 then "." ++ decimalPadded 6 (nanos / 1000)
  else "." ++ decimalPadded 9 nanos

/-- Four digits, or a sign and at least four digits outside the years 0 to 9999. -/
def yearText : Int → String
  | .ofNat year => (if year ≤ 9999 then "" else "+") ++ decimalPadded 4 year
  | .negSucc year => "-" ++ decimalPadded 4 (year + 1)

/-- One in a leap second, which is the sixtieth of its minute. -/
def leap (t : Instant) : Nat := if t.nanos ≥ 1000000000 then 1 else 0

/-- Date and time of day in UTC, without the fraction of the second. -/
def clockText (t : Instant) : String :=
  let date := CivilDate.ofDays (t.seconds.fdiv 86400)
  let second := (t.seconds.fmod 86400).toNat
  yearText date.year ++ "-" ++ decimalPadded 2 date.month ++ "-" ++ decimalPadded 2 date.day ++ "T" ++
    decimalPadded 2 (second / 3600) ++ ":" ++ decimalPadded 2 (second / 60 % 60) ++ ":" ++
    decimalPadded 2 (second % 60 + t.leap)

/-- The instant in UTC. -/
def toText (t : Instant) : String :=
  t.clockText ++ fraction (t.nanos - t.leap * 1000000000) ++ "Z"

/-- The second of the instant in UTC. -/
def toSecondText (t : Instant) : String := t.clockText ++ "Z"

/-- At least one and at most `most` digits. -/
def number (most : Nat) (cs : List Char) : Option (Nat × List Char) := do
  let found := (cs.take most).takeWhile Char.isDigit
  let n ← readDecimal? found
  some (n, cs.drop found.length)

/-- Leading blanks and then a number of at most two digits. -/
def twoDigits (cs : List Char) : Option (Nat × List Char) :=
  number 2 (dropBlanks cs)

/-- Leading blanks and then this character. -/
def mark (c : Char) (cs : List Char) : Option (List Char) :=
  match dropBlanks cs with
  | d :: rest => if d = c then some rest else none
  | [] => none

/-- Up to four digits, or a sign and any number of digits. -/
def yearPart (cs : List Char) : Option (Int × List Char) :=
  match dropBlanks cs with
  | '-' :: rest => (number rest.length rest).map fun (n, rest) => (-(n : Int), rest)
  | '+' :: rest => (number rest.length rest).map fun (n, rest) => ((n : Int), rest)
  | rest => (number 4 rest).map fun (n, rest) => ((n : Int), rest)

/-- The nanoseconds after a point, of which digits beyond the ninth are dropped. -/
def nanosPart : List Char → Option (Nat × List Char)
  | '.' :: rest => do
      let found := rest.takeWhile Char.isDigit
      let kept := found.take 9
      let n ← readDecimal? kept
      some (n * Nat.pow 10 (9 - kept.length), rest.drop found.length)
  | rest => some (0, rest)

def exactlyTwo : List Char → Option (Nat × List Char)
  | a :: b :: rest => do
      let high ← digitValue? a
      let low ← digitValue? b
      some (high * 10 + low, rest)
  | _ => none

/-- An offset in seconds east of UTC: `Z`, `UTC`, or a sign, hours and minutes. -/
def offsetPart (cs : List Char) : Option (Int × List Char) :=
  match cs with
  | u :: t :: c :: rest =>
      if [u, t, c].map Char.toUpper = ['U', 'T', 'C'] then some (0, rest) else signed (u :: t :: c :: rest)
  | rest => signed rest
where
  /-- `Z`, or a sign, hours and minutes. -/
  signed : List Char → Option (Int × List Char)
    | 'Z' :: rest => some (0, rest)
    | 'z' :: rest => some (0, rest)
    | '+' :: rest => hoursMinutes rest
    | '-' :: rest => (hoursMinutes rest).map fun (n, rest) => (-n, rest)
    | '\u2212' :: rest => (hoursMinutes rest).map fun (n, rest) => (-n, rest)
    | _ => none
  /-- Two digits, any colons and blanks, and two digits below sixty. -/
  hoursMinutes (cs : List Char) : Option (Int × List Char) := do
    let (hours, rest) ← exactlyTwo cs
    let (minutes, rest) ← exactlyTwo (rest.dropWhile fun c => c == ':' || isBlank c)
    if minutes < 60 then some (((hours * 60 + minutes) * 60 : Nat), rest) else none

/-- The years in which timestamps can be read, by their own date and in UTC. -/
def isYearInRange (year : Int) : Bool := -262143 ≤ year && year ≤ 262142

/-- The instant of a date and a time of day, as a clock shows them that is `offset` seconds ahead of
    UTC. The sixtieth second of a minute is a leap second. -/
def ofCivil? (date : CivilDate) (hour minute second nanos : Nat) (offset : Int) : Option Instant :=
  let leap := if second = 60 then 1 else 0
  let seconds := date.toDays * 86400 + (hour * 3600 + minute * 60 + (second - leap) : Nat) - offset
  if date.isValid && hour < 24 && minute < 60 && second ≤ 60 && offset.natAbs < 86400 &&
      isYearInRange date.year && isYearInRange (CivilDate.ofDays (seconds.fdiv 86400)).year then
    some ⟨seconds, nanos + leap * 1000000000⟩
  else none

/-- A timestamp with its offset. -/
def ofChars? (cs : List Char) : Option Instant := do
  let (year, rest) ← yearPart cs
  let (month, rest) ← twoDigits (← mark '-' rest)
  let (day, rest) ← twoDigits (← mark '-' rest)
  let rest ← match rest with
    | 't' :: rest => some rest
    | 'T' :: rest => some rest
    | ' ' :: rest => some rest
    | _ => none
  let (hour, rest) ← twoDigits rest
  let (minute, rest) ← twoDigits (← mark ':' rest)
  let (second, rest) ← twoDigits (← mark ':' rest)
  let (nanos, rest) ← nanosPart rest
  let (offset, rest) ← offsetPart (dropBlanks rest)
  if (dropBlanks rest).isEmpty then
    ofCivil? ⟨year, month, day⟩ hour minute second nanos offset
  else none

def ofText? (s : String) : Option Instant :=
  ofChars? s.toList

end MachineProvisioning.Instant
