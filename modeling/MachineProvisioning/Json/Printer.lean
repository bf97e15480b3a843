import MachineProvisioning.Json.Basic
import MachineProvisioning.Text.Numeral

/-! # Writing JSON text

Values are written without white space, fields in the order in which they stand.
-/

namespace MachineProvisioning.Json

open Text

def escapeChar (c : Char) : List Char :=
  if c = '"' then ['\\', '"']
  else if c = '\\' then ['\\', '\\']
  else if c = '\n' then ['\\', 'n']
  else if c = '\r' then ['\\', 'r']
  else if c = '\t' then ['\\', 't']
  else if c = '\x08' then ['\\', 'b']
  else if c = '\x0c' then ['\\', 'f']
  else if c.toNat < 0x20 then ['\\', 'u'] ++ (hexPadded 4 c.toNat).toList
  else [c]

def writeString (s : String) : List Char :=
  '"' :: s.toList.flatMap escapeChar ++ ['"']

mutual
def write : Json → List Char
  | .null => "null".toList
  | .bool true => "true".toList
  | .bool false => "false".toList
  | .int n => (decimalInt n).toList
  | .real text => text.toList
  | .str s => writeString s
  | .arr [] => ['[', ']']
  | .arr (item :: rest) => '[' :: write item ++ writeItems rest
  | .obj [] => ['\x7b', '\x7d']
  | .obj ((key, item) :: rest) => '\x7b' :: writeString key ++ ':' :: write item ++ writeFields rest
  | .garbled => "null".toList

/-- The items after the first one, and the closing bracket. -/
def writeItems : List Json → List Char
  | [] => [']']
  | item :: rest => ',' :: write item ++ writeItems rest

/-- The fields after the first one, and the closing brace. -/
def writeFields : List (String × Json) → List Char
  | [] => ['\x7d']
  | (key, item) :: rest => ',' :: writeString key ++ ':' :: write item ++ writeFields rest
end

/-- The text of a value, its keys in increasing order. -/
def compact (j : Json) : String :=
  String.ofList (write j.canonical)

end MachineProvisioning.Json
