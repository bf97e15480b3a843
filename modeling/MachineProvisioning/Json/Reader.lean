import MachineProvisioning.Json.Basic
import MachineProvisioning.Text.Numeral

/-! # Reading JSON text

`Json.read?` reads a whole text as one value with white space around it. The readers of parts take
the text that remains and give back what they leave of it. Nesting is bounded only by the length of
the text.
-/

namespace MachineProvisioning.Json

open Text

/-- The white space of JSON. -/
def isSpace (c : Char) : Bool :=
  c == ' ' || c == '\t' || c == '\n' || c == '\r'

def dropSpace (cs : List Char) : List Char :=
  cs.dropWhile isSpace

/-- A part of a string: a character, or an escaped UTF-16 unit. -/
inductive StringPart where
  | char (c : Char)
  | unit (n : Nat)

def escaped? : Char → Option Char
  | '"' => some '"'
  | '\\' => some '\\'
  | '/' => some '/'
  | 'b' => some '\x08'
  | 'f' => some '\x0c'
  | 'n' => some '\n'
  | 'r' => some '\r'
  | 't' => some '\t'
  | _ => none

/-- The parts of a string up to its closing quote. -/
def stringParts : List Char → Option (List StringPart × List Char)
  | [] => none
  | '"' :: rest => some ([], rest)
  | '\\' :: 'u' :: a :: b :: c :: d :: rest => do
      let unit ← readHex? [a, b, c, d]
      let (parts, rest) ← stringParts rest
      some (.unit unit :: parts, rest)
  | '\\' :: e :: rest => do
      let c ← escaped? e
      let (parts, rest) ← stringParts rest
      some (.char c :: parts, rest)
  | c :: rest =>
      if c.toNat < 0x20 then none
      else do
        let (parts, rest) ← stringParts rest
        some (.char c :: parts, rest)

/-- The first unit of a surrogate pair. -/
def isHighUnit (n : Nat) : Bool := 0xD800 ≤ n && n < 0xDC00

/-- The second unit of a surrogate pair. -/
def isLowUnit (n : Nat) : Bool := 0xDC00 ≤ n && n < 0xE000

/-- The text of the parts. A surrogate that has no partner stands for no text. -/
def textOfParts : List StringPart → Option (List Char)
  | [] => some []
  | .char c :: rest => (textOfParts rest).map (c :: ·)
  | .unit high :: .unit low :: rest =>
      if isHighUnit high then
        if isLowUnit low then
          (textOfParts rest).map
            (Char.ofNat (0x10000 + (high - 0xD800) * 0x400 + (low - 0xDC00)) :: ·)
        else none
      else if isLowUnit high then none
      else (textOfParts (.unit low :: rest)).map (Char.ofNat high :: ·)
  | .unit n :: rest =>
      if isHighUnit n || isLowUnit n then none else (textOfParts rest).map (Char.ofNat n :: ·)

/-- A string after its opening quote: the text it stands for, if any, and what follows. -/
def string (cs : List Char) : Option (Option String × List Char) := do
  let (parts, rest) ← stringParts cs
  some ((textOfParts parts).map String.ofList, rest)

def digits (cs : List Char) : List Char × List Char :=
  (cs.takeWhile Char.isDigit, cs.dropWhile Char.isDigit)

/-- The digits before the point: no leading zero unless the number is zero. -/
def wholePart (cs : List Char) : Option (List Char × List Char) :=
  match digits cs with
  | ([], _) => none
  | (['0'], rest) => some (['0'], rest)
  | ('0' :: _, _) => none
  | found => some found

/-- The point and at least one digit, or nothing. -/
def fractionPart : List Char → Option (List Char × List Char)
  | '.' :: rest =>
      match digits rest with
      | ([], _) => none
      | (found, rest) => some ('.' :: found, rest)
  | cs => some ([], cs)

/-- The exponent with an optional sign and at least one digit, or nothing. -/
def exponentPart : List Char → Option (List Char × List Char)
  | e :: rest =>
      if e = 'e' ∨ e = 'E' then
        let (sign, rest) := match rest with
          | '+' :: rest => (['+'], rest)
          | '-' :: rest => (['-'], rest)
          | rest => ([], rest)
        match digits rest with
        | ([], _) => none
        | (found, rest) => some (e :: sign ++ found, rest)
      else some ([], e :: rest)
  | [] => some ([], [])

/-- The number with this sign and these digits, if it fits a word and is not a negative zero. -/
def integer? (negative : Bool) (whole : List Char) : Option Int := do
  let n ← readDecimal? whole
  if negative then
    if n = 0 ∨ n > Nat.pow 2 63 then none else some (-(n : Int))
  else if n > maxWord64 then none else some (n : Int)

/-- A number: an integer where it has neither fraction nor exponent and fits a word. -/
def number (cs : List Char) : Option (Json × List Char) := do
  let (negative, unsigned) := match cs with
    | '-' :: rest => (true, rest)
    | _ => (false, cs)
  let (whole, rest) ← wholePart unsigned
  let (fraction, rest) ← fractionPart rest
  let (exponent, rest) ← exponentPart rest
  let written := (if negative then ['-'] else []) ++ whole ++ fraction ++ exponent
  let real := Json.real (String.ofList written)
  if fraction.isEmpty && exponent.isEmpty then
    some (((integer? negative whole).map Json.int).getD real, rest)
  else some (real, rest)

/-- An object with these members, unless one of the keys stands for no text. -/
def ofMembers (members : List (Option String × Json)) : Json :=
  match members.mapM fun (key, value) => key.map (·, value) with
  | some fields => .obj fields
  | none => .garbled

mutual
/-- A value and what follows it. Each value inside another takes one unit of `fuel`. -/
def value : Nat → List Char → Option (Json × List Char)
  | 0, _ => none
  | fuel + 1, cs =>
      match dropSpace cs with
      | '\x7b' :: rest =>
          match dropSpace rest with
          | '\x7d' :: rest => some (.obj [], rest)
          | rest => do
              let (members, rest) ← membersFrom fuel rest
              some (ofMembers members, rest)
      | '[' :: rest =>
          match dropSpace rest with
          | ']' :: rest => some (.arr [], rest)
          | rest => do
              let (items, rest) ← itemsFrom fuel rest
              some (.arr items, rest)
      | '"' :: rest => do
          let (text, rest) ← string rest
          some ((text.map Json.str).getD .garbled, rest)
      | 't' :: 'r' :: 'u' :: 'e' :: rest => some (.bool true, rest)
      | 'f' :: 'a' :: 'l' :: 's' :: 'e' :: rest => some (.bool false, rest)
      | 'n' :: 'u' :: 'l' :: 'l' :: rest => some (.null, rest)
      | rest => number rest

/-- The items of an array up to its closing bracket, of which there is at least one. -/
def itemsFrom : Nat → List Char → Option (List Json × List Char)
  | 0, _ => none
  | fuel + 1, cs => do
      let (item, rest) ← value fuel cs
      match dropSpace rest with
      | ',' :: rest => do
          let (items, rest) ← itemsFrom fuel rest
          some (item :: items, rest)
      | ']' :: rest => some ([item], rest)
      | _ => none

/-- The members of an object up to its closing brace, of which there is at least one. -/
def membersFrom : Nat → List Char → Option (List (Option String × Json) × List Char)
  | 0, _ => none
  | fuel + 1, cs => do
      match dropSpace cs with
      | '"' :: rest => do
          let (key, rest) ← string rest
          match dropSpace rest with
          | ':' :: rest => do
              let (item, rest) ← value fuel rest
              match dropSpace rest with
              | ',' :: rest => do
                  let (members, rest) ← membersFrom fuel rest
                  some ((key, item) :: members, rest)
              | '\x7d' :: rest => some ([(key, item)], rest)
              | _ => none
          | _ => none
      | _ => none
end

/-- A whole text as one value. -/
def readChars? (cs : List Char) : Option Json := do
  let (result, rest) ← value (2 * cs.length + 1) cs
  if (dropSpace rest).isEmpty then some result else none

def read? (s : String) : Option Json :=
  readChars? s.toList

end MachineProvisioning.Json
