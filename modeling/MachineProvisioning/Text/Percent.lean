import MachineProvisioning.Text.Utf8
import MachineProvisioning.Text.Split

/-! # Percent-encoding and form bodies

In paths and queries every byte outside the unreserved characters `A-Z a-z 0-9 - _ . ~` is written
as `%` and two upper-case hexadecimal digits. Form bodies keep `*` in place of `~` and write a
space as `+`.
-/

namespace MachineProvisioning.Text

def upperHexDigit (n : Nat) : Char :=
  if n < 10 then Char.ofNat (n + 48) else Char.ofNat (n + 55)

def percentByte (b : Nat) : List Char :=
  ['%', upperHexDigit (b / 16), upperHexDigit (b % 16)]

/-- The characters that paths and queries keep as they are. -/
def isUnreserved (c : Char) : Bool :=
  c.isAlphanum || c == '-' || c == '_' || c == '.' || c == '~'

def percentChar (c : Char) : List Char :=
  if isUnreserved c then [c] else (utf8Char c).flatMap percentByte

/-- A text as a path segment, or as a key or value of a query. -/
def percentEncode (s : String) : String :=
  String.ofList (s.toList.flatMap percentChar)

/-- The characters that form bodies keep as they are. -/
def isFormSafe (c : Char) : Bool :=
  c.isAlphanum || c == '*' || c == '-' || c == '.' || c == '_'

def formChar (c : Char) : List Char :=
  if c = ' ' then ['+'] else if isFormSafe c then [c] else (utf8Char c).flatMap percentByte

/-- A text as a key or value of a form body. -/
def formEncode (s : String) : String :=
  String.ofList (s.toList.flatMap formChar)

/-- Fields as `key=value` pairs joined by `&`, in order and with repeated keys kept. -/
def encodePairs (encode : String → String) (fields : List (String × String)) : String :=
  join "&" (fields.map fun (key, value) => encode key ++ "=" ++ encode value)

/-- A query string without the question mark. -/
def queryString (filters : List (String × String)) : String :=
  encodePairs percentEncode filters

/-- A body of type `application/x-www-form-urlencoded`. -/
def formBody (fields : List (String × String)) : String :=
  encodePairs formEncode fields

end MachineProvisioning.Text
