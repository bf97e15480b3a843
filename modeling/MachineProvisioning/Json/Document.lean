import MachineProvisioning.Decimal.Double
import MachineProvisioning.Json.Basic

/-! # Documents of any form

Where a value of any form is wanted, its strings have to stand for texts and its numbers have to be in
the range of doubles. It is kept in canonical form, with a number that is no integer written as the
double that it stands for.
-/

namespace MachineProvisioning.Json

mutual
/-- The value with its numbers as they are kept. -/
def withNumbers? : Json → Option Json
  | .real text => (Decimal.readDouble? text).map fun x => .real (Decimal.scientific x)
  | .arr items => (itemsWithNumbers? items).map .arr
  | .obj fields => (fieldsWithNumbers? fields).map .obj
  | .garbled => none
  | other => some other

def itemsWithNumbers? : List Json → Option (List Json)
  | [] => some []
  | item :: rest => do some ((← withNumbers? item) :: (← itemsWithNumbers? rest))

def fieldsWithNumbers? : List (String × Json) → Option (List (String × Json))
  | [] => some []
  | (key, value) :: rest => do some ((key, ← withNumbers? value) :: (← fieldsWithNumbers? rest))
end

/-- A value of any form, as it is kept. -/
def document? (j : Json) : Option Json :=
  (withNumbers? j).map canonical

/-- How many arrays and objects may stand inside one another in what is kept of a text. -/
def maxDepth : Nat := 127

end MachineProvisioning.Json
