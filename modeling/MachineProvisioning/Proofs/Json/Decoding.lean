import MachineProvisioning.Proofs.Json.Equality
import MachineProvisioning.Proofs.Json.Printing

/-! # Values that are decoded again

An encoder writes the fields of a value in the order in which they are declared, and a text with
increasing keys has them in another one. A decoder that restores a value gets it from both.
-/

namespace MachineProvisioning.Json

variable {α : Type} {decode : Json → Option α} {written j : Json} {x : α}
  {fields : List (String × Json)} {name : String}

attribute [simp] IsPlain.null IsPlain.bool IsPlain.str

@[simp] theorem isPlain_arr {items : List Json} :
    (arr items).IsPlain ↔ ∀ item ∈ items, item.IsPlain :=
  ⟨fun (.arr _ each) => each, .arr items⟩

@[simp] theorem isPlain_obj : (obj fields).IsPlain ↔ ∀ field ∈ fields, field.2.IsPlain :=
  ⟨fun (.obj _ each) => each, .obj fields⟩

theorem isPlain_ofNat {n : Nat} (fits : n ≤ Text.maxWord64) : (int n).IsPlain := by
  have low : -Int.pow 2 63 ≤ 0 := by decide
  exact .int n ⟨Int.le_trans low (Int.natCast_nonneg n), Int.ofNat_le.mpr fits⟩

@[simp] theorem isPlain_ofWord32 (n : UInt32) : (ofWord32 n).IsPlain :=
  isPlain_ofNat (Nat.le_trans (Nat.le_of_lt_succ n.toNat_lt) (by decide))

@[simp] theorem isPlain_ofWord64 (n : UInt64) : (ofWord64 n).IsPlain :=
  isPlain_ofNat (Nat.le_of_lt_succ n.toNat_lt)

@[simp] theorem isPlain_texts (items : List String) : (texts items).IsPlain := by simp [texts]

@[simp] theorem isPlain_ofOption {encode : α → Json} {value : Option α} :
    (ofOption encode value).IsPlain ↔ ∀ x ∈ value, (encode x).IsPlain := by
  cases value <;> simp [ofOption]

/-- A written value as it stands, or with its keys in increasing order. -/
inductive Form (written : Json) : Json → Prop where
  | asWritten : Form written written
  | inOrder : Form written written.canonical

/-- What is written is decoded as `x`, whichever form it has. -/
def Restores (decode : Json → Option α) (written : Json) (x : α) : Prop :=
  ∀ j, Form written j → decode j = some x

theorem Form.null (form : Form .null j) : j = .null := by cases form <;> rfl

theorem Form.bool {b : Bool} (form : Form (.bool b) j) : j = .bool b := by cases form <;> rfl

theorem Form.int {n : Int} (form : Form (.int n) j) : j = .int n := by cases form <;> rfl

theorem Form.str {s : String} (form : Form (.str s) j) : j = .str s := by cases form <;> rfl

theorem Form.ne_null (form : Form written j) (given : written ≠ .null) : j ≠ .null := by
  cases form with
  | asWritten => exact given
  | inOrder =>
      cases written with
      | null => exact absurd rfl given
      | _ => simp [canonical]

theorem Form.arr {items : List Json} (form : Form (.arr items) j) :
    ∃ items', j = .arr items' ∧ List.Forall₂ Form items items' := by
  cases form with
  | asWritten => exact ⟨items, rfl, List.forall₂_same.mpr fun _ _ => .asWritten⟩
  | inOrder =>
      refine ⟨_, rfl, ?_⟩
      rw [canonicalItems_eq_map, List.forall₂_map_right_iff]
      exact List.forall₂_same.mpr fun _ _ => .inOrder

theorem Form.obj (form : Form (.obj fields) j) (unique : (fields.map Prod.fst).Nodup) :
    ∃ fields', j = .obj fields' ∧ (fields'.map Prod.fst).Nodup ∧
      ∀ name, Option.Rel Form (field? name fields) (field? name fields') := by
  cases form with
  | asWritten =>
      refine ⟨fields, rfl, unique, fun name => ?_⟩
      cases field? name fields with
      | none => exact .none
      | some value => exact .some .asWritten
  | inOrder =>
      have ordered := Table.ordered_ofList (canonicalFields fields)
      refine ⟨_, rfl, ordered.nodup, fun name => ?_⟩
      have found : field? name (Table.ofList (canonicalFields fields)).entries =
          (field? name fields).map canonical := by
        rw [← lookup_eq_field? ordered.nodup, ← field?_canonicalFields]
        exact get?_ofList _
      rw [found]
      cases field? name fields with
      | none => exact .none
      | some value => exact .some .inOrder

theorem restores_text (s : String) : Restores text? (.str s) s := by
  intro j form
  rw [form.str]
  rfl

theorem restores_bool (b : Bool) : Restores bool? (.bool b) b := by
  intro j form
  rw [form.bool]
  rfl

theorem restores_word32 (n : UInt32) : Restores word32? (ofWord32 n) n := by
  intro j form
  rw [form.int]
  have small : n.toNat ≤ Text.maxWord32 := Nat.le_of_lt_succ n.toNat_lt
  simp [word32?, small]

theorem restores_word64 (n : UInt64) : Restores word64? (ofWord64 n) n := by
  intro j form
  rw [form.int]
  have small : n.toNat ≤ Text.maxWord64 := Nat.le_of_lt_succ n.toNat_lt
  simp [word64?, small]

theorem restores_list {encode : α → Json} {items : List α}
    (each : ∀ item ∈ items, Restores decode (encode item) item) :
    Restores (list? decode) (.arr (items.map encode)) items := by
  intro j form
  obtain ⟨given, rfl, forms⟩ := form.arr
  rw [list?]
  clear form
  induction items generalizing given with
  | nil =>
      cases forms
      rfl
  | cons item rest ih =>
      cases forms with
      | cons first others =>
          have more := ih (fun item mem => each item (.tail _ mem)) _ others
          rw [List.mapM_cons, each item (.head _) _ first, more]
          rfl

theorem restores_texts (items : List String) : Restores (list? text?) (texts items) items :=
  restores_list fun text _ => restores_text text

/-- A name that the list gives the value for stands for it. -/
theorem restores_oneOf {names : List (String × α)} (listed : Table.lookup name names = some x) :
    Restores (oneOf? names) (.str name) x := by
  intro j form
  rw [form.str]
  exact listed

/-- The record has what is written under each of its names. -/
def Record.Holds (r : Record) (names : List String) (fields : List (String × Json)) : Prop :=
  ∀ name ∈ names, Option.Rel Form (field? name fields) (r.get? name)

theorem restores_record {names : List String} {build : Record → Option α}
    (unique : (fields.map Prod.fst).Nodup)
    (reads : ∀ r : Record, r.Holds names fields → build r = some x) :
    Restores (fun j => (Record.open? names j).bind build) (.obj fields) x := by
  intro j form
  obtain ⟨given, rfl, nodup, found⟩ := form.obj unique
  have known : ((given.filter fun field => names.contains field.1).map Prod.fst).Nodup :=
    nodup.sublist (List.filter_sublist.map _)
  obtain ⟨r, opened⟩ : ∃ r, Record.open? names (.obj given) = some r := ⟨_, if_pos known⟩
  dsimp only
  rw [opened, Option.bind_some]
  refine reads r fun name mem => ?_
  rw [get?_of_open opened mem]
  exact found name

variable {r : Record}

theorem Record.required_eq (found : Option.Rel Form (some written) (r.get? name))
    (restores : Restores decode written x) : r.required name decode = some x := by
  generalize given : r.get? name = value at found
  cases found with
  | some form => simp [Record.required, given, restores _ form]

theorem Record.defaulted_eq {value : α} (found : Option.Rel Form (some written) (r.get? name))
    (restores : Restores decode written x) : r.defaulted name value decode = some x := by
  generalize given : r.get? name = value at found
  cases found with
  | some form => simp [Record.defaulted, given, restores _ form]

theorem Record.optional_eq (found : Option.Rel Form (some written) (r.get? name))
    (given : written ≠ .null) (restores : Restores decode written x) :
    r.optional name decode = some (some x) := by
  generalize there : r.get? name = value at found
  cases found with
  | @some _ j form =>
      have present := form.ne_null given
      unfold Record.optional
      rw [there]
      split
      · next missing => cases missing
      · next null => exact absurd (Option.some.inj null) present
      · next other same =>
          cases same
          rw [restores _ form]
          rfl

/-- An optional field that is left out when it is absent. -/
theorem Record.optional_of_map {encode : α → Json} {value : Option α}
    (found : Option.Rel Form (value.map encode) (r.get? name))
    (restores : ∀ x ∈ value, encode x ≠ .null ∧ Restores decode (encode x) x) :
    r.optional name decode = some value := by
  cases value with
  | some x => exact optional_eq found (restores x rfl).1 (restores x rfl).2
  | none =>
      generalize there : r.get? name = nothing at found
      cases found
      simp [Record.optional, there]

theorem Record.text_of_map {value : Option String}
    (found : Option.Rel Form (value.map .str) (r.get? name)) : r.optional name text? = some value :=
  optional_of_map found fun text _ => ⟨nofun, restores_text text⟩

/-- An optional field that is null when it is absent. -/
theorem Record.optional_of_ofOption {encode : α → Json} {value : Option α}
    (found : Option.Rel Form (some (ofOption encode value)) (r.get? name))
    (restores : ∀ x ∈ value, encode x ≠ .null ∧ Restores decode (encode x) x) :
    r.optional name decode = some value := by
  cases value with
  | some x => exact optional_eq found (restores x rfl).1 (restores x rfl).2
  | none =>
      generalize there : r.get? name = nothing at found
      cases found with
      | some form =>
          rw [form.null] at there
          simp [Record.optional, there]

theorem Record.text_of_ofOption {value : Option String}
    (found : Option.Rel Form (some (ofOption .str value)) (r.get? name)) :
    r.optional name text? = some value :=
  optional_of_ofOption found fun text _ => ⟨nofun, restores_text text⟩

/-- What is written of a list that is left out when it is empty. -/
def unlessEmpty (encode : α → Json) (items : List α) : Option Json :=
  if items ≠ [] then some (.arr (items.map encode)) else none

/-- A list that is left out when it is empty. -/
theorem Record.list_of_nonEmpty {encode : α → Json} {items : List α}
    (found : Option.Rel Form (unlessEmpty encode items) (r.get? name))
    (each : ∀ item ∈ items, Restores decode (encode item) item) :
    r.defaulted name [] (list? decode) = some items := by
  cases items with
  | cons item rest => exact defaulted_eq found (restores_list each)
  | nil =>
      generalize there : r.get? name = nothing at found
      cases found
      simp [Record.defaulted, there]

theorem Record.texts_of_nonEmpty {items : List String}
    (found : Option.Rel Form (unlessEmpty .str items) (r.get? name)) :
    r.defaulted name [] (list? text?) = some items :=
  list_of_nonEmpty found fun text _ => restores_text text

/-- The fields of a list of names that have a value. -/
def given (entries : List (String × Option Json)) : List (String × Json) :=
  entries.filterMap fun entry => entry.2.map (entry.1, ·)

theorem given_nil : given [] = [] := rfl

theorem given_present {encode : α → Json} {value : Option α} {rest : List (String × Option Json)} :
    given ((name, value.map encode) :: rest) = present name encode value ++ given rest := by
  cases value <;> simp [given, present]

theorem given_some {value : Json} {rest : List (String × Option Json)} :
    given ((name, some value) :: rest) = (name, value) :: given rest := by
  simp [given]

theorem given_nonEmpty {encode : α → Json} {items : List α} {rest : List (String × Option Json)} :
    given ((name, unlessEmpty encode items) :: rest) = nonEmpty name encode items ++ given rest := by
  cases items <;> simp [given, nonEmpty, unlessEmpty]

theorem keys_given (entries : List (String × Option Json)) :
    ((given entries).map Prod.fst).Sublist (entries.map Prod.fst) := by
  induction entries with
  | nil => exact .slnil
  | cons entry rest ih =>
      obtain ⟨name, value⟩ := entry
      cases value with
      | none => simpa [given] using ih.cons name
      | some value => simpa [given] using ih.cons_cons name

theorem field?_given {entries : List (String × Option Json)} (unique : (entries.map Prod.fst).Nodup) :
    field? name (given entries) = (Table.lookup name entries).join := by
  induction entries with
  | nil => rfl
  | cons entry rest ih =>
      obtain ⟨key, value⟩ := entry
      rw [List.map_cons, List.nodup_cons] at unique
      rw [Table.lookup]
      split
      · next same =>
        subst same
        have absent : field? key (given rest) = none :=
          field?_eq_none fun mem => unique.1 ((keys_given rest).subset mem)
        cases value with
        | none => simpa [given] using absent
        | some value => simp [given_some, field?_cons, absent]
      · next differs =>
        rw [← ih unique.2]
        cases value with
        | none => simp [given]
        | some value => simp [given_some, field?_cons, differs]

theorem isPlain_given {entries : List (String × Option Json)} :
    (obj (given entries)).IsPlain ↔ ∀ entry ∈ entries, ∀ j ∈ entry.2, j.IsPlain := by
  rw [isPlain_obj]
  constructor
  · exact fun all entry mem j value =>
      all (entry.1, j) (List.mem_filterMap.mpr ⟨entry, mem, congrArg _ value⟩)
  · intro all field mem
    obtain ⟨entry, listed, same⟩ := List.mem_filterMap.mp mem
    obtain ⟨j, value, rfl⟩ := Option.map_eq_some_iff.mp same
    exact all entry listed j value

@[simp] theorem unlessEmpty_eq_some {encode : α → Json} {items : List α} {j : Json} :
    unlessEmpty encode items = some j ↔ items ≠ [] ∧ .arr (items.map encode) = j := by
  simp [unlessEmpty]

theorem restores_given {names : List String} {entries : List (String × Option Json)}
    {build : Record → Option α} (unique : (entries.map Prod.fst).Nodup)
    (reads : ∀ r : Record, (∀ name ∈ names,
      Option.Rel Form (Table.lookup name entries).join (r.get? name)) → build r = some x) :
    Restores (fun j => (Record.open? names j).bind build) (.obj (given entries)) x := by
  refine restores_record (unique.sublist (keys_given entries)) fun r holds => reads r ?_
  intro name mem
  rw [← field?_given unique]
  exact holds name mem

end MachineProvisioning.Json
