import MachineProvisioning.Json.Basic
import MachineProvisioning.Text.Numeral

/-! # Records in JSON

A record is decoded from an object, in which unknown fields are passed over and no known field
stands twice, or from an array that lists the values of the fields in their declared order. A field
is required, or it has a default and may be missing, or it is optional and may also be null.

A loose record is decoded from an object only. A field may be missing or null and may stand more than
once: each value has to be readable, and the last one counts.
-/

namespace MachineProvisioning.Json

open Text

/-- The known fields that a value gives, by name. -/
structure Record where
  fields : List (String × Json)
  /-- The fields were listed in an array. -/
  isListed : Bool

namespace Record

/-- The fields of a value that are among `names`. -/
def open? (names : List String) : Json → Option Record
  | .obj fields =>
      let known := fields.filter fun field => names.contains field.1
      if (known.map Prod.fst).Nodup then some ⟨known, false⟩ else none
  | .arr items => if items.length ≤ names.length then some ⟨names.zip items, true⟩ else none
  | _ => none

def get? (r : Record) (name : String) : Option Json :=
  Table.lookup name r.fields

/-- A field that has to be there. -/
def required {α : Type} (r : Record) (name : String) (decode : Json → Option α) : Option α :=
  (r.get? name).bind decode

/-- A field that stands for `value` when it is missing. -/
def defaulted {α : Type} (r : Record) (name : String) (value : α) (decode : Json → Option α) :
    Option α :=
  match r.get? name with
  | none => some value
  | some j => decode j

/-- A field that may be missing or null. -/
def optional {α : Type} (r : Record) (name : String) (decode : Json → Option α) :
    Option (Option α) :=
  match r.get? name with
  | none => some none
  | some .null => some none
  | some j => (decode j).map some

/-- A field that may be null, and that may be missing from an object. -/
def nullable {α : Type} (r : Record) (name : String) (decode : Json → Option α) :
    Option (Option α) :=
  if r.isListed && (r.get? name).isNone then none else r.optional name decode

end Record

/-- The fields of an object, in which a field may stand more than once. -/
structure LooseRecord where
  fields : List (String × Json)

namespace LooseRecord

def open? : Json → Option LooseRecord
  | .obj fields => some ⟨fields⟩
  | _ => none

/-- The last value of a field. Every value has to be readable or null. -/
def last {α : Type} (r : LooseRecord) (name : String) (decode : Json → Option α) :
    Option (Option α) := do
  let values ← (r.fields.filter (·.1 = name)).mapM fun (_, value) =>
    match value with
    | .null => some none
    | value => (decode value).map some
  some values.getLast?.join

end LooseRecord

def text? : Json → Option String
  | .str s => some s
  | _ => none

def bool? : Json → Option Bool
  | .bool b => some b
  | _ => none

/-- An integer that fits an unsigned 16-bit word. -/
def word16? : Json → Option UInt16
  | .int (.ofNat n) => if n ≤ maxWord16 then some (UInt16.ofNat n) else none
  | _ => none

def word32? : Json → Option UInt32
  | .int (.ofNat n) => if n ≤ maxWord32 then some (UInt32.ofNat n) else none
  | _ => none

def word64? : Json → Option UInt64
  | .int (.ofNat n) => if n ≤ maxWord64 then some (UInt64.ofNat n) else none
  | _ => none

/-- An array, item by item. -/
def list? {α : Type} (decode : Json → Option α) : Json → Option (List α)
  | .arr items => items.mapM decode
  | _ => none

/-- An object whose keys are names of the caller's choice; a later field replaces an earlier one. -/
def table? {α : Type} (decode : Json → Option α) : Json → Option (Table String α)
  | .obj fields => do
      let entries ← fields.mapM fun (key, value) => (decode value).map (key, ·)
      some (Table.ofList entries)
  | _ => none

/-- One of a list of names, alone or as the only key of an object with the value null. -/
def oneOf? {α : Type} (names : List (String × α)) : Json → Option α
  | .str name => Table.lookup name names
  | .obj [(name, .null)] => Table.lookup name names
  | _ => none

def ofWord32 (n : UInt32) : Json := .int n.toNat

def ofWord64 (n : UInt64) : Json := .int n.toNat

def texts (items : List String) : Json := .arr (items.map .str)

/-- The fields of an optional value: none when it is absent. -/
def present {α : Type} (name : String) (encode : α → Json) : Option α → List (String × Json)
  | none => []
  | some value => [(name, encode value)]

/-- The fields of a list: none when it is empty. -/
def nonEmpty {α : Type} (name : String) (encode : α → Json) : List α → List (String × Json)
  | [] => []
  | items => [(name, .arr (items.map encode))]

end MachineProvisioning.Json
