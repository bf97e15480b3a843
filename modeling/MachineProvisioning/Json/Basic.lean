import MachineProvisioning.Table

/-! # JSON values

A value keeps the order and the repetitions of its object's keys, and tells integers from other
numbers, so that a decoder can be as strict as it has to be. `canonical` gives the form in which
repetitions are gone and keys increase.
-/

namespace MachineProvisioning

inductive Json where
  | null
  | bool (value : Bool)
  /-- A number written without fraction and exponent that fits a 64-bit word. -/
  | int (value : Int)
  /-- Any other number, as written. -/
  | real (text : String)
  | str (value : String)
  | arr (items : List Json)
  | obj (fields : List (String × Json))
  /-- A string, or an object with a key, that has half a surrogate pair and so stands for no
      text. It is well formed, and no decoder accepts it. -/
  | garbled
  deriving Repr, Inhabited

namespace Json

/-- The value of the last field with this key. -/
def field? (key : String) : List (String × Json) → Option Json
  | [] => none
  | (k, v) :: rest =>
      match field? key rest with
      | some later => some later
      | none => if k = key then some v else none

def get? (key : String) : Json → Option Json
  | .obj fields => field? key fields
  | _ => none

/-- An optional text: an absent one is null. -/
def ofOption {α : Type} (encode : α → Json) : Option α → Json
  | none => .null
  | some value => encode value

mutual
/-- Objects have increasing keys; of repeated keys the last one counts. -/
def canonical : Json → Json
  | .arr items => .arr (canonicalItems items)
  | .obj fields => .obj (Table.ofList (canonicalFields fields)).entries
  | other => other

def canonicalItems : List Json → List Json
  | [] => []
  | item :: rest => canonical item :: canonicalItems rest

def canonicalFields : List (String × Json) → List (String × Json)
  | [] => []
  | (key, value) :: rest => (key, canonical value) :: canonicalFields rest
end

mutual
/-- How many arrays and objects stand inside one another. -/
def depth : Json → Nat
  | .arr items => itemsDepth items + 1
  | .obj fields => fieldsDepth fields + 1
  | _ => 0

def itemsDepth : List Json → Nat
  | [] => 0
  | item :: rest => max (depth item) (itemsDepth rest)

def fieldsDepth : List (String × Json) → Nat
  | [] => 0
  | (_, value) :: rest => max (depth value) (fieldsDepth rest)
end

end Json

end MachineProvisioning
