import MachineProvisioning.Json.Record
import Mathlib.Data.List.Forall2

/-! # Equal JSON values

Two values are the same when they differ in nothing but the order and the repetitions of keys. Fields
are found again in a value that is the same, and a decoder that is steady reads the same from it.
-/

namespace MachineProvisioning

namespace Json

variable {α β : Type} {name : String} {fields : List (String × Json)}

theorem field?_cons (key : String) (value : Json) (rest : List (String × Json)) :
    field? name ((key, value) :: rest) =
      (field? name rest).or (if key = name then some value else none) := by
  simp only [field?]
  cases field? name rest <;> rfl

theorem field?_nil : field? name [] = none := rfl

theorem field?_append (first rest : List (String × Json)) :
    field? name (first ++ rest) = (field? name rest).or (field? name first) := by
  induction first with
  | nil => simp [field?]
  | cons entry others ih =>
      obtain ⟨key, value⟩ := entry
      rw [List.cons_append, field?_cons, ih, field?_cons, Option.or_assoc]

theorem field?_eq_none (absent : name ∉ fields.map Prod.fst) : field? name fields = none := by
  induction fields with
  | nil => rfl
  | cons entry rest ih =>
      obtain ⟨key, value⟩ := entry
      simp only [List.map_cons, List.mem_cons, not_or] at absent
      rw [field?_cons, ih absent.2, if_neg (Ne.symm absent.1)]
      rfl

@[simp] theorem field?_present (key : String) (encode : α → Json) (value : Option α) :
    field? name (present key encode value) = if key = name then value.map encode else none := by
  cases value <;> simp [present, field?]

@[simp] theorem field?_nonEmpty (key : String) (encode : α → Json) (items : List α) :
    field? name (nonEmpty key encode items) =
      if key = name ∧ items ≠ [] then some (.arr (items.map encode)) else none := by
  cases items <;> simp [nonEmpty, field?]

/-- The first field of a name is the last one when no name stands twice. -/
theorem lookup_eq_field? (unique : (fields.map Prod.fst).Nodup) :
    Table.lookup name fields = field? name fields := by
  induction fields with
  | nil => rfl
  | cons entry rest ih =>
      obtain ⟨key, value⟩ := entry
      rw [List.map_cons, List.nodup_cons] at unique
      rw [field?_cons, Table.lookup, ih unique.2]
      split
      · next same =>
          subst same
          rw [field?_eq_none unique.1]
          rfl
      · simp

theorem field?_filter {p : String → Bool} (keeps : p name = true) :
    field? name (fields.filter fun field => p field.1) = field? name fields := by
  induction fields with
  | nil => rfl
  | cons entry rest ih =>
      obtain ⟨key, value⟩ := entry
      rw [field?_cons]
      cases kept : p key with
      | true => rw [List.filter_cons_of_pos (by simpa using kept), field?_cons, ih]
      | false =>
          have differs : key ≠ name := by
            rintro rfl
            rw [keeps] at kept
            cases kept
          rw [List.filter_cons_of_neg (by simp [kept]), ih, if_neg differs]
          simp

theorem field?_canonicalFields (fields : List (String × Json)) :
    field? name (canonicalFields fields) = (field? name fields).map canonical := by
  induction fields with
  | nil => rfl
  | cons entry rest ih =>
      obtain ⟨key, value⟩ := entry
      rw [canonicalFields, field?_cons, ih, field?_cons]
      cases field? name rest with
      | none => simp only [Option.map_none, Option.none_or]; split <;> rfl
      | some later => rfl

/-- A table of fields holds the last one of every name. -/
theorem get?_ofList (fields : List (String × Json)) :
    (Table.ofList fields).get? name = field? name fields := by
  have inserted : ∀ t : Table String Json,
      (fields.foldl (fun t field => t.insert field.1 field.2) t).get? name =
        (field? name fields).or (t.get? name) := by
    induction fields with
    | nil => simp [field?]
    | cons entry rest ih =>
        intro t
        obtain ⟨key, value⟩ := entry
        rw [List.foldl_cons, ih, field?_cons, Table.get?_insert, Option.or_assoc]
        split <;> simp
  simpa [Table.ofList] using inserted .empty

mutual
def equal : Json → Json → Bool
  | .null, .null | .garbled, .garbled => true
  | .bool a, .bool b => a == b
  | .int a, .int b => a == b
  | .real a, .real b | .str a, .str b => a == b
  | .arr a, .arr b => equalItems a b
  | .obj a, .obj b => equalFields a b
  | _, _ => false

def equalItems : List Json → List Json → Bool
  | [], [] => true
  | a :: as, b :: bs => equal a b && equalItems as bs
  | _, _ => false

def equalFields : List (String × Json) → List (String × Json) → Bool
  | [], [] => true
  | (name, a) :: as, (name', b) :: bs => name == name' && equal a b && equalFields as bs
  | _, _ => false
end

mutual
theorem equal_iff (a b : Json) : equal a b = true ↔ a = b := by
  cases a with
  | arr as => cases b <;> simp [equal, equalItems_iff as]
  | obj as => cases b <;> simp [equal, equalFields_iff as]
  | _ => cases b <;> simp [equal]

theorem equalItems_iff (as bs : List Json) : equalItems as bs = true ↔ as = bs := by
  cases as with
  | nil => cases bs <;> simp [equalItems]
  | cons a as => cases bs <;> simp [equalItems, equal_iff a, equalItems_iff as]

theorem equalFields_iff (as bs : List (String × Json)) : equalFields as bs = true ↔ as = bs := by
  cases as with
  | nil => cases bs <;> simp [equalFields]
  | cons field as =>
      cases bs <;> simp [equalFields, Prod.ext_iff, equal_iff field.2, equalFields_iff as]
end

instance : DecidableEq Json := fun a b => decidable_of_iff (equal a b = true) (equal_iff a b)

/-! ## Values that are the same -/

def Same (a b : Json) : Prop := a.canonical = b.canonical

instance (a b : Json) : Decidable (Same a b) := inferInstanceAs (Decidable (_ = _))

/-- What is found under a name, or nothing, is the same. -/
def SameField (a b : Option Json) : Prop := a.map canonical = b.map canonical

theorem Same.null {j : Json} (same : Same j .null) : j = .null := by
  cases j <;> simp_all [Same, canonical]

theorem Same.bool {j : Json} {value : Bool} (same : Same j (.bool value)) : j = .bool value := by
  cases j <;> simp_all [Same, canonical]

theorem Same.str {j : Json} {text : String} (same : Same j (.str text)) : j = .str text := by
  cases j <;> simp_all [Same, canonical]

theorem Same.arr {j : Json} {items : List Json} (same : Same j (.arr items)) :
    ∃ items', j = .arr items' ∧ List.Forall₂ Same items' items := by
  cases j with
  | arr items' =>
      refine ⟨items', rfl, ?_⟩
      have each : canonicalItems items' = canonicalItems items := by
        simpa [Same, canonical] using same
      clear same
      induction items' generalizing items with
      | nil => cases items <;> simp_all [canonicalItems]
      | cons item rest ih =>
          cases items with
          | nil => simp [canonicalItems] at each
          | cons other others =>
              simp only [canonicalItems, List.cons.injEq] at each
              exact .cons each.1 (ih each.2)
  | _ => simp [Same, canonical] at same

theorem Same.field {a b : List (String × Json)} (same : Same (.obj a) (.obj b)) (name : String) :
    SameField (field? name a) (field? name b) := by
  have tables : Table.ofList (canonicalFields a) = Table.ofList (canonicalFields b) := by
    have entries : (Table.ofList (canonicalFields a)).entries =
        (Table.ofList (canonicalFields b)).entries := by
      simpa [Same, canonical] using same
    exact congrArg Table.mk entries
  unfold SameField
  rw [← field?_canonicalFields, ← field?_canonicalFields, ← get?_ofList, ← get?_ofList, tables]

theorem Same.obj {j : Json} (same : Same j (.obj fields)) :
    ∃ fields', j = .obj fields' ∧ ∀ name, SameField (field? name fields') (field? name fields) := by
  cases j with
  | obj fields' => exact ⟨fields', rfl, same.field⟩
  | _ => simp [Same, canonical] at same

theorem SameField.eq_none {found : Option Json} (same : SameField found none) : found = none := by
  cases found with
  | none => rfl
  | some j => cases same

theorem SameField.eq_some {found : Option Json} {written : Json} (same : SameField found (some written)) :
    ∃ j, found = some j ∧ Same j written := by
  cases found with
  | none => cases same
  | some j => exact ⟨j, rfl, Option.some.inj same⟩

/-! ## Decoding -/

/-- Whoever decodes a value that is the same as this one gets `x`. -/
def Means (decode : Json → Option α) (written : Json) (x : α) : Prop :=
  ∀ j y, Same j written → decode j = some y → y = x

/-- What is decoded does not depend on the order of keys. -/
def Steady (decode : Json → Option α) : Prop :=
  ∀ written x, decode written = some x → Means decode written x

theorem means_text (text : String) : Means text? (.str text) text := by
  intro j y same reads
  cases same.str
  exact (Option.some.inj reads).symm

theorem means_bool (value : Bool) : Means bool? (.bool value) value := by
  intro j y same reads
  cases same.bool
  exact (Option.some.inj reads).symm

/-- Items that mean something make an array that means the list of it. -/
theorem means_list {decode : Json → Option α} {items : List Json} {xs : List α}
    (each : List.Forall₂ (Means decode) items xs) : Means (list? decode) (.arr items) xs := by
  intro j ys same reads
  obtain ⟨items', rfl, alike⟩ := same.arr
  have decoded : items'.mapM decode = some ys := reads
  clear same reads
  induction alike generalizing xs ys with
  | nil =>
      cases each
      simpa using decoded.symm
  | cons first _ ih =>
      cases each with
      | cons means others =>
          simp only [List.mapM_cons, Option.pure_def, Option.bind_eq_bind,
            Option.bind_eq_some_iff] at decoded
          obtain ⟨y, one, rest, more, same⟩ := decoded
          cases same
          rw [means _ y first one, ih others rest more]

theorem steady_text : Steady text? := by
  intro written x reads
  cases written with
  | str text =>
      cases reads
      exact means_text _
  | _ => cases reads

theorem steady_bool : Steady bool? := by
  intro written x reads
  cases written with
  | bool b =>
      cases reads
      exact means_bool _
  | _ => cases reads

theorem steady_oneOf {names : List (String × α)} : Steady (oneOf? names) := by
  intro written x reads j y same reads'
  unfold oneOf? at reads
  split at reads
  · cases same.str
    exact Option.some.inj (reads'.symm.trans reads)
  · next name =>
      obtain ⟨fields, rfl, alike⟩ := same.obj
      unfold oneOf? at reads'
      split at reads'
      · next other => cases other
      · next name' single =>
          cases single
          -- The only key of the one object is found in the other one.
          obtain rfl : name = name' := by
            have found := alike name'
            simp only [field?_cons, field?_nil, Option.none_or, if_true] at found
            by_contra differs
            simp [differs, SameField] at found
          exact Option.some.inj (reads'.symm.trans reads)
      · cases reads'
  · cases reads

theorem steady_list {decode : Json → Option α} (steady : Steady decode) : Steady (list? decode) := by
  intro written xs reads
  cases written with
  | arr items =>
      refine means_list ?_
      have decoded : items.mapM decode = some xs := reads
      clear reads
      induction items generalizing xs with
      | nil =>
          cases decoded
          exact .nil
      | cons item rest ih =>
          simp only [List.mapM_cons, Option.pure_def, Option.bind_eq_bind,
            Option.bind_eq_some_iff] at decoded
          obtain ⟨y, one, others, more, same⟩ := decoded
          cases same
          exact .cons (steady item y one) (ih others more)
  | _ => cases reads

/-! ## Fields of records -/

/-- What a field that may be missing or null is read as when this is found. -/
def ReadsOptional (decode : Json → Option α) (found : Option Json) (x : Option α) : Prop :=
  (match found with
    | none => some none
    | some .null => some none
    | some j => (decode j).map some) = some x

/-- What a field with a default is read as when this is found. -/
def ReadsDefault (value : α) (decode : Json → Option α) (found : Option Json) (x : α) : Prop :=
  (match found with
    | none => some value
    | some j => decode j) = some x

/-- What a field that has to be there is read as when this is found. -/
def ReadsRequired (decode : Json → Option α) (found : Option Json) (x : α) : Prop :=
  found.bind decode = some x

theorem get?_of_open {names : List String} {r : Record}
    (opened : Record.open? names (.obj fields) = some r) (known : name ∈ names) :
    r.get? name = field? name fields := by
  simp only [Record.open?] at opened
  split at opened
  · next unique =>
      cases opened
      exact (lookup_eq_field? unique).trans (field?_filter (List.contains_iff_mem.mpr known))
  · cases opened

theorem field?_eq_getLast? :
    field? name fields = (fields.filter (·.1 = name)).getLast?.map Prod.snd := by
  induction fields with
  | nil => rfl
  | cons entry rest ih =>
      obtain ⟨key, value⟩ := entry
      rw [field?_cons, ih, List.filter_cons]
      split
      · next same =>
          rw [if_pos (by simpa using same), List.getLast?_cons]
          cases (rest.filter (·.1 = name)).getLast? <;> rfl
      · next differs => simp [show ¬key = name by simpa using differs]

/-- A field that may stand more than once is read as the last one of its name. -/
theorem LooseRecord.reads_of_last {r : LooseRecord} {decode : Json → Option α} {x : Option α}
    (reads : r.last name decode = some x) : ReadsOptional decode (field? name r.fields) x := by
  unfold LooseRecord.last at reads
  rw [field?_eq_getLast?]
  obtain ⟨values, decoded, last⟩ := Option.bind_eq_some_iff.mp reads
  cases last
  rcases List.eq_nil_or_concat (r.fields.filter (·.1 = name)) with none | ⟨init, entry, some⟩
  · rw [none] at decoded ⊢
    cases decoded
    rfl
  · rw [some, List.concat_eq_append] at decoded ⊢
    rw [List.mapM_append] at decoded
    obtain ⟨first, -, decoded⟩ := Option.bind_eq_some_iff.mp decoded
    simp only [List.mapM_cons, List.mapM_nil, Option.pure_def, Option.bind_eq_bind,
      Option.bind_eq_some_iff, Option.some.injEq] at decoded
    obtain ⟨_, ⟨value, here, _, rfl, rfl⟩, rfl⟩ := decoded
    simp only [List.getLast?_append, List.getLast?_singleton, Option.some_or, Option.join_some,
      Option.map_some]
    generalize entry.2 = found at here ⊢
    cases found <;> exact here
theorem isListed_of_open {names : List String} {r : Record}
    (opened : Record.open? names (.obj fields) = some r) : r.isListed = false := by
  simp only [Record.open?] at opened
  split at opened
  · cases opened
    rfl
  · cases opened

theorem sameField_zip {items items' : List Json} (alike : List.Forall₂ Same items' items)
    (names : List String) :
    SameField (Table.lookup name (names.zip items')) (Table.lookup name (names.zip items)) := by
  induction alike generalizing names with
  | nil => simp [SameField]
  | cons first _ ih =>
      cases names with
      | nil => rfl
      | cons known others =>
          simp only [List.zip_cons_cons, Table.lookup]
          split
          · exact congrArg some first
          · exact ih others

/-- Records of values that are the same give the same fields. -/
theorem Same.get? {a b : Json} {names : List String} {r r' : Record} (same : Same a b)
    (opened : Record.open? names a = some r) (opened' : Record.open? names b = some r')
    (known : name ∈ names) : SameField (r.get? name) (r'.get? name) := by
  cases b with
  | obj fields =>
      obtain ⟨fields', rfl, alike⟩ := same.obj
      rw [get?_of_open opened known, get?_of_open opened' known]
      exact alike name
  | arr items =>
      obtain ⟨items', rfl, alike⟩ := same.arr
      simp only [Record.open?] at opened opened'
      split at opened
      · split at opened'
        · cases opened
          cases opened'
          exact sameField_zip alike names
        · cases opened'
      · cases opened
  | _ => cases opened'

variable {decode : Json → Option α} {found old : Option Json} {x y : Option α}

theorem readsOptional_none : ReadsOptional decode none x ↔ x = none := by
  simp [ReadsOptional, eq_comm]

theorem readsOptional_some {j : Json} (given : j ≠ .null) :
    ReadsOptional decode (some j) x ↔ ∃ y, decode j = some y ∧ x = some y := by
  have decodes : ReadsOptional decode (some j) x ↔ (decode j).map some = some x := by
    cases j with
    | null => exact absurd rfl given
    | _ => exact Iff.rfl
  rw [decodes, Option.map_eq_some_iff]
  exact exists_congr fun y => and_congr_right fun _ => eq_comm

theorem ReadsOptional.eq_none (reads : ReadsOptional decode found x)
    (absent : found = none ∨ found = some .null) : x = none := by
  rcases absent with rfl | rfl <;> simpa [ReadsOptional, eq_comm] using reads

/-- A field that is written new, or else is the same as an old one. -/
theorem ReadsOptional.or (encode : α → Json) {new : Option α} (steady : Steady decode)
    (means : ∀ z ∈ new, encode z ≠ .null ∧ Means decode (encode z) z)
    (same : SameField found ((new.map encode).or old)) (reads : ReadsOptional decode found x)
    (readsOld : ReadsOptional decode old y) : x = new.or y := by
  cases new with
  | some z =>
      obtain ⟨given, means⟩ := means z rfl
      obtain ⟨j, rfl, alike⟩ := same.eq_some
      have there : j ≠ .null := by
        rintro rfl
        exact given (Same.null (Eq.symm alike))
      obtain ⟨value, decodes, rfl⟩ := (readsOptional_some there).mp reads
      exact congrArg some (means j value alike decodes)
  | none =>
      -- What is found is the same as the old field, which may be missing, null or a value.
      rw [Option.map_none, Option.none_or] at same
      rw [Option.none_or]
      cases old with
      | none =>
          cases same.eq_none
          rw [readsOptional_none.mp reads, readsOptional_none.mp readsOld]
      | some written =>
          obtain ⟨j, rfl, alike⟩ := same.eq_some
          by_cases null : written = .null
          · subst null
            cases alike.null
            rw [reads.eq_none (.inr rfl), readsOld.eq_none (.inr rfl)]
          · have there : j ≠ .null := by
              rintro rfl
              exact null (Same.null (Eq.symm alike))
            obtain ⟨value, decodes, rfl⟩ := (readsOptional_some there).mp reads
            obtain ⟨value', decodes', rfl⟩ := (readsOptional_some null).mp readsOld
            exact congrArg some (steady written value' decodes' j value alike decodes)

theorem ReadsOptional.or_text {new x y : Option String}
    (same : SameField found ((new.map .str).or old))
    (reads : ReadsOptional text? found x) (readsOld : ReadsOptional text? old y) : x = new.or y :=
  reads.or .str steady_text (fun text _ => ⟨nofun, means_text text⟩) same readsOld

theorem ReadsOptional.same (steady : Steady decode) (same : SameField found old)
    (reads : ReadsOptional decode found x) (readsOld : ReadsOptional decode old y) : x = y := by
  rw [← Option.none_or (o := y)]
  exact reads.or (fun _ => .null) steady nofun same readsOld

/-- An optional text is read as what is found, if that is a text. -/
theorem text_of_readsOptional {found found' : Option Json} {text : Option String}
    (same : SameField found found') (reads : ReadsOptional text? found text) :
    found'.bind text? = text := by
  cases found' with
  | none =>
      rw [same.eq_none] at reads
      exact (readsOptional_none.mp reads).symm
  | some j =>
      obtain ⟨j', rfl, alike⟩ := same.eq_some
      cases j' with
      | null =>
          cases Same.null (Eq.symm alike)
          exact (reads.eq_none (.inr rfl)).symm
      | str s =>
          cases Same.str (Eq.symm alike)
          exact Option.some.inj reads
      | _ => cases reads

theorem ReadsOptional.decodes (reads : ReadsOptional decode found x) {z : α} (mem : z ∈ x) :
    ∃ j, decode j = some z := by
  cases mem
  cases found with
  | none => cases readsOptional_none.mp reads
  | some j =>
      by_cases null : j = .null
      · cases reads.eq_none (.inr (congrArg some null))
      · obtain ⟨value, decodes, same⟩ := (readsOptional_some null).mp reads
        cases same
        exact ⟨j, decodes⟩

theorem ReadsRequired.eq {x y : α} {written : Json} (means : Means decode written x)
    (same : SameField found (some written)) (reads : ReadsRequired decode found y) : y = x := by
  obtain ⟨j, rfl, alike⟩ := same.eq_some
  exact means j y alike reads

theorem ReadsRequired.same {x y : α} (steady : Steady decode) (same : SameField found old)
    (reads : ReadsRequired decode found x) (readsOld : ReadsRequired decode old y) : x = y := by
  cases old with
  | none => cases readsOld
  | some written => exact reads.eq (steady written y readsOld) same

theorem ReadsDefault.eq {value x y : α} {written : Json} (means : Means decode written x)
    (same : SameField found (some written)) (reads : ReadsDefault value decode found y) :
    y = x := by
  obtain ⟨j, rfl, alike⟩ := same.eq_some
  exact means j y alike reads

theorem ReadsDefault.same {value x y : α} (steady : Steady decode) (same : SameField found old)
    (reads : ReadsDefault value decode found x) (readsOld : ReadsDefault value decode old y) :
    x = y := by
  cases old with
  | none =>
      cases same.eq_none
      exact Option.some.inj (reads.symm.trans readsOld)
  | some written => exact reads.eq (steady written y readsOld) same

theorem decodes_of_list {decode : Json → Option α} {j : Json} {xs : List α}
    (reads : list? decode j = some xs) {x : α} (mem : x ∈ xs) : ∃ item, decode item = some x := by
  cases j with
  | arr items =>
      have decoded : items.mapM decode = some xs := reads
      clear reads
      induction items generalizing xs with
      | nil =>
          cases decoded
          cases mem
      | cons item rest ih =>
          simp only [List.mapM_cons, Option.pure_def, Option.bind_eq_bind,
            Option.bind_eq_some_iff] at decoded
          obtain ⟨y, one, others, more, same⟩ := decoded
          cases same
          cases mem with
          | head => exact ⟨item, one⟩
          | tail _ mem => exact ih mem more
  | _ => cases reads

theorem ReadsDefault.decodes {decode : Json → Option α} {xs : List α}
    (reads : ReadsDefault [] (list? decode) found xs) {x : α} (mem : x ∈ xs) :
    ∃ item, decode item = some x := by
  cases found with
  | none =>
      cases reads
      cases mem
  | some j => exact decodes_of_list reads mem

end Json

end MachineProvisioning
