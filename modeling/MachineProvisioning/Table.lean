/-! # Tables

A table holds at most one entry per key and lists its entries by increasing key.
-/

namespace MachineProvisioning

/-- Entries by increasing key. -/
structure Table (κ α : Type) where
  entries : List (κ × α)
  deriving Repr, DecidableEq

namespace Table

variable {κ α β : Type}

def empty : Table κ α := ⟨[]⟩

instance : EmptyCollection (Table κ α) := ⟨empty⟩

instance : Inhabited (Table κ α) := ⟨empty⟩

/-- The keys, in increasing order. -/
def keys (t : Table κ α) : List κ := t.entries.map Prod.fst

/-- The values, by increasing key. -/
def values (t : Table κ α) : List α := t.entries.map Prod.snd

/-- The value of the first entry with this key. -/
def lookup [DecidableEq κ] (key : κ) : List (κ × α) → Option α
  | [] => none
  | (k, v) :: rest => if k = key then some v else lookup key rest

/-- The value at a key. -/
def get? [DecidableEq κ] (t : Table κ α) (key : κ) : Option α := lookup key t.entries

def contains [DecidableEq κ] (t : Table κ α) (key : κ) : Bool := (t.get? key).isSome

/-- Put an entry before the first larger key, in place of an entry with the same key. -/
def insertEntry [DecidableEq κ] [LT κ] [DecidableLT κ] (key : κ) (value : α) :
    List (κ × α) → List (κ × α)
  | [] => [(key, value)]
  | (k, v) :: rest =>
      if k = key then (key, value) :: rest
      else if key < k then (key, value) :: (k, v) :: rest
      else (k, v) :: insertEntry key value rest

/-- The table with `value` at `key`. -/
def insert [DecidableEq κ] [LT κ] [DecidableLT κ] (t : Table κ α) (key : κ) (value : α) :
    Table κ α :=
  ⟨insertEntry key value t.entries⟩

/-- The table without an entry for `key`. -/
def erase [DecidableEq κ] (t : Table κ α) (key : κ) : Table κ α :=
  ⟨t.entries.filter fun entry => entry.1 ≠ key⟩

/-- The table with the value at `key`, if there is one, replaced by its image. -/
def modify [DecidableEq κ] (t : Table κ α) (key : κ) (f : α → α) : Table κ α :=
  ⟨t.entries.map fun entry => if entry.1 = key then (entry.1, f entry.2) else entry⟩

/-- The table of a list of entries, of which a later one replaces an earlier one. -/
def ofList [DecidableEq κ] [LT κ] [DecidableLT κ] (entries : List (κ × α)) : Table κ α :=
  entries.foldl (fun t entry => t.insert entry.1 entry.2) empty

@[simp] theorem get?_empty [DecidableEq κ] (key : κ) : (empty : Table κ α).get? key = none := rfl

/-- An insertion changes the value at its own key only. -/
theorem get?_insert [DecidableEq κ] [LT κ] [DecidableLT κ] (t : Table κ α) (key other : κ)
    (value : α) :
    (t.insert key value).get? other = if key = other then some value else t.get? other := by
  obtain ⟨entries⟩ := t
  simp only [insert, get?]
  induction entries with
  | nil => simp [insertEntry, lookup]
  | cons entry rest ih =>
    obtain ⟨k, v⟩ := entry
    simp only [insertEntry]
    by_cases hk : k = key
    · subst hk
      by_cases ho : k = other <;> simp [lookup, ho]
    · by_cases hlt : key < k
      · simp [hk, hlt, lookup]
      · simp only [hk, hlt, if_false, lookup, ih]
        by_cases ho : k = other
        · have : key ≠ other := fun h => hk (ho.trans h.symm)
          simp [ho, this]
        · simp [ho]

/-- An erasure changes the value at its own key only. -/
theorem get?_erase [DecidableEq κ] (t : Table κ α) (key other : κ) :
    (t.erase key).get? other = if key = other then none else t.get? other := by
  obtain ⟨entries⟩ := t
  simp only [erase, get?]
  induction entries with
  | nil => simp [lookup]
  | cons entry rest ih =>
    obtain ⟨k, v⟩ := entry
    by_cases hk : k = key
    · subst hk
      by_cases ho : k = other <;> simp_all [lookup]
    · by_cases ho : k = other
      · subst ho
        simp [hk, lookup, Ne.symm hk]
      · simp_all [lookup]

/-- A modification changes the value at its own key only. -/
theorem get?_modify [DecidableEq κ] (t : Table κ α) (key other : κ) (f : α → α) :
    (t.modify key f).get? other = if key = other then (t.get? other).map f else t.get? other := by
  obtain ⟨entries⟩ := t
  simp only [modify, get?]
  induction entries with
  | nil => simp [lookup]
  | cons entry rest ih =>
    obtain ⟨k, v⟩ := entry
    by_cases hk : k = key
    · subst hk
      by_cases ho : k = other <;> simp_all [lookup]
    · by_cases ho : k = other
      · subst ho
        simp [hk, lookup, Ne.symm hk]
      · simp_all [lookup]

end Table

end MachineProvisioning
