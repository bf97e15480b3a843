/-! # Request targets

A request asks for a path, perhaps with a query after a question mark. What follows a number sign is
for the reader of an answer and is not sent. Some characters of ASCII have no place in a path or a
query; all others do.
-/

namespace MachineProvisioning.Net

/-- Why a text is no target. -/
inductive RequestTarget.Fault where
  /-- A character has no place where it stands. -/
  | character
  | length
  deriving Repr, DecidableEq

def RequestTarget.Fault.message : RequestTarget.Fault → String
  | .character => "invalid uri character"
  | .length => "uri too long"

/-- A path and the query after it, which is empty when there is none. -/
structure RequestTarget where
  path : String
  query : String
  deriving Repr, DecidableEq

namespace RequestTarget

/-- A character that may stand in a path: none of `#`, `<`, `>`, `?` and the backtick, and no blank or
    control character of ASCII. -/
def isPathChar (c : Char) : Bool :=
  0x21 ≤ c.toNat && c.toNat != 0x7F && !(['#', '<', '>', '?', '\x60'].contains c)

/-- A character that may stand in a query: no quote, none of `#`, `<` and `>`, and no blank or
    control character of ASCII. -/
def isQueryChar (c : Char) : Bool :=
  0x21 ≤ c.toNat && c.toNat != 0x7F && !(['"', '#', '<', '>'].contains c)

/-- The greatest number of bytes of a target. -/
def maxLength : Nat := 65534

/-- The target that a text names. -/
def ofText (s : String) : Except Fault RequestTarget :=
  if s.utf8ByteSize > maxLength then .error .length
  else
    let sent := s.toList.takeWhile (· ≠ '#')
    let path := sent.takeWhile (· ≠ '?')
    let query := (sent.dropWhile (· ≠ '?')).drop 1
    if path.all isPathChar && query.all isQueryChar then
      .ok ⟨String.ofList path, String.ofList query⟩
    else .error .character

end RequestTarget

end MachineProvisioning.Net
