import MachineProvisioning.Proofs.Json.Equality

/-! # Merge patches

A merge patch that is an object changes the fields that it names: null removes a field, an object is
merged into what is there, and anything else takes its place. A patch that is no object takes the place
of the whole value.
-/

namespace MachineProvisioning.Json

/-- The fields of an object; other values have none. -/
def fields : Json → List (String × Json)
  | .obj fields => fields
  | _ => []

def without (name : String) (fields : List (String × Json)) : List (String × Json) :=
  fields.filter fun field => field.1 ≠ name

mutual
def mergePatch : (target patch : Json) → Json
  | target, .obj patch => .obj (mergeFields target.fields patch)
  | _, patch => patch

def mergeFields : (target patch : List (String × Json)) → List (String × Json)
  | target, [] => target
  | target, (name, .null) :: rest => mergeFields (without name target) rest
  | target, (name, value) :: rest =>
      let merged := mergePatch ((field? name target).getD .null) value
      mergeFields (without name target ++ [(name, merged)]) rest
end

/-- What a patch makes of a field, when it says this about it. -/
def mergeField (target : Option Json) : (patch : Option Json) → Option Json
  | none => target
  | some .null => none
  | some value => some (mergePatch (target.getD .null) value)

variable {name : String} {target patch : List (String × Json)}

theorem field?_without_self : field? name (without name target) = none :=
  field?_eq_none (by simp [without])

theorem field?_without {other : String} (differs : other ≠ name) :
    field? name (without other target) = field? name target :=
  field?_filter (p := fun key => key ≠ other) (by simpa using Ne.symm differs)

theorem mergeFields_cons (value : Json) (rest : List (String × Json)) :
    mergeFields target ((name, value) :: rest) =
      mergeFields (without name target ++
        present name id (mergeField (field? name target) (some value))) rest := by
  cases value <;> simp [mergeFields, mergeField, present]

/-- A patch that names no field twice changes each field as it says. -/
theorem field?_mergeFields (unique : (patch.map Prod.fst).Nodup) :
    field? name (mergeFields target patch) =
      mergeField (field? name target) (field? name patch) := by
  induction patch generalizing target with
  | nil => rfl
  | cons entry rest ih =>
      obtain ⟨key, value⟩ := entry
      rw [List.map_cons, List.nodup_cons] at unique
      rw [mergeFields_cons, ih unique.2, field?_append, field?_present, field?_cons]
      by_cases same : key = name
      · -- The rest of the patch does not name the field again.
        subst same
        rw [field?_eq_none unique.1, field?_without_self]
        simp [mergeField]
      · rw [field?_without same]
        simp [same]

theorem get?_eq_field? (j : Json) : j.get? name = field? name j.fields := by
  cases j <;> rfl

theorem get?_mergePatch {target : Json} (unique : (patch.map Prod.fst).Nodup) :
    (mergePatch target (.obj patch)).get? name =
      mergeField (target.get? name) (field? name patch) := by
  rw [get?_eq_field?, get?_eq_field?, mergePatch]
  exact field?_mergeFields unique

theorem mergeField_of_not_obj {found : Option Json} {value : Json} (given : value ≠ .null)
    (plain : ∀ fields, value ≠ .obj fields) : mergeField found (some value) = some value := by
  cases value with
  | null => exact absurd rfl given
  | obj fields => exact absurd rfl (plain fields)
  | _ => rfl

/-- The value at the end of a path of field names. -/
def at? : List String → Json → Option Json
  | [], j => some j
  | name :: rest, j => (j.get? name).bind (at? rest)

theorem Same.found {a b : Json} (same : Same a b) (name : String) :
    SameField (a.get? name) (b.get? name) := by
  cases b with
  | obj fields =>
      obtain ⟨fields', rfl, alike⟩ := same.obj
      exact alike name
  | _ => cases a <;> first | rfl | simp [Same, canonical] at same

/-- Values that are the same have the same at the end of every path. -/
theorem Same.at? {a b : Json} (same : Same a b) (path : List String) :
    SameField (at? path a) (at? path b) := by
  induction path generalizing a b with
  | nil => exact congrArg some same
  | cons name rest ih =>
      have found := same.found name
      simp only [Json.at?]
      cases there : b.get? name with
      | none =>
          rw [there] at found
          rw [found.eq_none]
          rfl
      | some value =>
          rw [there] at found
          obtain ⟨value', here, alike⟩ := found.eq_some
          rw [here]
          exact ih alike

/-- The patch says nothing about the value at the end of the path, about what holds it or about what
    it holds. -/
def Misses : List String → Json → Prop
  | name :: rest, .obj patch =>
      (patch.map Prod.fst).Nodup ∧ ∀ value ∈ field? name patch, Misses rest value
  | _, _ => False

/-- Values that a patch misses stay. -/
theorem at?_mergePatch {path : List String} {target patch : Json} (misses : Misses path patch) :
    at? path (mergePatch target patch) = at? path target := by
  induction path generalizing target patch with
  | nil => exact misses.elim
  | cons name rest ih =>
      cases patch with
      | obj patch =>
          obtain ⟨unique, inner⟩ := misses
          simp only [at?, get?_mergePatch unique]
          cases found : field? name patch with
          | none => rfl
          | some value =>
              have missed := inner value found
              cases rest with
              | nil => exact missed.elim
              | cons next rest =>
                  cases value with
                  | obj fields =>
                      -- A missing object is merged into as null, at which no path ends.
                      refine (ih missed).trans ?_
                      cases target.get? name <;> rfl
                  | _ => exact missed.elim
      | _ => exact misses.elim

end MachineProvisioning.Json
