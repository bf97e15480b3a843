import MachineProvisioning.Table
import Mathlib.Data.List.Induction

/-! # Ordered tables

In a table whose keys increase, every entry is found under its key. All operations keep it ordered.
-/

namespace MachineProvisioning.Table

section

variable {κ α : Type} [DecidableEq κ]

theorem mem_of_get? {t : Table κ α} {key : κ} {value : α} (found : t.get? key = some value) :
    (key, value) ∈ t.entries := by
  obtain ⟨entries⟩ := t
  unfold get? at found
  dsimp only at found ⊢
  induction entries with
  | nil => cases found
  | cons entry rest ih =>
      obtain ⟨k, v⟩ := entry
      unfold lookup at found
      split at found
      · next same =>
          cases found
          exact same ▸ .head rest
      · exact .tail _ (ih found)

variable [LT κ] [LE κ] [Std.IsLinearOrder κ] [Std.LawfulOrderLT κ] {key : κ} {value : α}
  {entries : List (κ × α)}

omit [Std.IsLinearOrder κ] in
theorem lookup_of_mem (increasing : entries.Pairwise fun a b => a.1 < b.1)
    (mem : (key, value) ∈ entries) : lookup key entries = some value := by
  induction increasing with
  | nil => cases mem
  | @cons entry rest first _ ih =>
      obtain ⟨k, v⟩ := entry
      unfold lookup
      cases mem with
      | head => exact if_pos rfl
      | tail _ mem =>
          have less : k < key := first (key, value) mem
          rw [if_neg (Std.ne_of_lt less)]
          exact ih mem

variable [DecidableLT κ]

omit [LE κ] [Std.IsLinearOrder κ] [Std.LawfulOrderLT κ] in
theorem mem_insertEntry {entry : κ × α} (mem : entry ∈ insertEntry key value entries) :
    entry = (key, value) ∨ entry ∈ entries := by
  induction entries with
  | nil => exact .inl (List.mem_singleton.mp mem)
  | cons first rest ih =>
      obtain ⟨k, v⟩ := first
      unfold insertEntry at mem
      split at mem
      · exact (List.mem_cons.mp mem).imp_right (.tail _)
      · split at mem
        · exact List.mem_cons.mp mem
        · rcases List.mem_cons.mp mem with rfl | mem
          · exact .inr (.head rest)
          · exact (ih mem).imp_right (.tail _)

omit [LE κ] [Std.IsLinearOrder κ] [Std.LawfulOrderLT κ] in
/-- An insertion at a new key adds the key. -/
theorem perm_keys_insert {t : Table κ α} (fresh : t.get? key = none) :
    (t.insert key value).keys.Perm (key :: t.keys) := by
  obtain ⟨entries⟩ := t
  unfold get? at fresh
  unfold insert keys
  dsimp only at fresh ⊢
  induction entries with
  | nil => exact .refl _
  | cons first rest ih =>
      obtain ⟨k, v⟩ := first
      unfold lookup at fresh
      split at fresh
      · cases fresh
      · next differs =>
          unfold insertEntry
          rw [if_neg differs]
          split
          · exact .refl _
          · exact ((ih fresh).cons k).trans (.swap key k _)

theorem pairwise_insertEntry (increasing : entries.Pairwise fun a b => a.1 < b.1) :
    (insertEntry key value entries).Pairwise fun a b => a.1 < b.1 := by
  induction increasing with
  | nil => exact List.pairwise_singleton _ _
  | @cons entry rest first others ih =>
      obtain ⟨k, v⟩ := entry
      unfold insertEntry
      split
      · next same =>
          subst same
          exact .cons first others
      · next differs =>
          split
          · next less =>
              refine .cons ?_ (.cons first others)
              intro other mem
              cases mem with
              | head => exact less
              | tail _ mem => exact Std.lt_trans less (first other mem)
          · next notLess =>
              refine .cons ?_ ih
              intro other mem
              rcases mem_insertEntry mem with rfl | mem
              · exact ((Std.lt_trichotomy k key).resolve_right fun h => h.elim differs notLess)
              · exact first other mem

end

variable {α : Type}

/-- The keys increase. -/
def Ordered (t : Table String α) : Prop := t.entries.Pairwise fun a b => a.1 < b.1

theorem Ordered.get?_of_mem {t : Table String α} (ordered : t.Ordered) {key : String} {value : α}
    (mem : (key, value) ∈ t.entries) : t.get? key = some value := lookup_of_mem ordered mem

theorem ordered_empty : (empty : Table String α).Ordered := .nil

theorem Ordered.insert {t : Table String α} (ordered : t.Ordered) (key : String) (value : α) :
    (t.insert key value).Ordered := pairwise_insertEntry ordered

theorem Ordered.erase {t : Table String α} (ordered : t.Ordered) (key : String) :
    (t.erase key).Ordered :=
  List.Pairwise.sublist List.filter_sublist ordered

theorem Ordered.modify {t : Table String α} (ordered : t.Ordered) (key : String) (f : α → α) :
    (t.modify key f).Ordered := by
  refine List.Pairwise.map _ (fun a b less => ?_) ordered
  split <;> split <;> exact less

/-- No key of an ordered table stands twice. -/
theorem Ordered.nodup {t : Table String α} (ordered : t.Ordered) : (t.entries.map Prod.fst).Nodup :=
  List.Pairwise.map _ (fun _ _ less => Std.ne_of_lt less) ordered

/-- The first value of a kind has the least key of those of its kind. -/
theorem Ordered.least_of_find? {t : Table String α} (ordered : t.Ordered) {p : α → Bool} {value : α}
    (found : t.values.find? p = some value) : ∃ key, t.get? key = some value ∧
      ∀ other rival, t.get? other = some rival → p rival = true → ¬other < key := by
  unfold values at found
  rw [List.find?_map] at found
  obtain ⟨⟨key, _⟩, first, rfl⟩ := Option.map_eq_some_iff.mp found
  obtain ⟨-, before, after, split, passed⟩ := List.find?_eq_some_iff_append.mp first
  refine ⟨key, ordered.get?_of_mem (split ▸ List.mem_append_right _ (.head _)), ?_⟩
  intro other rival known is less
  have mem := mem_of_get? known
  rw [split] at mem
  unfold Ordered at ordered
  rw [split] at ordered
  rcases List.mem_append.mp mem with early | late
  · have not := passed _ early
    simp [is] at not
  · rcases List.mem_cons.mp late with same | later
    · cases same
      exact Std.lt_irrefl less
    · have greater := List.rel_of_pairwise_cons (List.pairwise_append.mp ordered).2.1 later
      exact Std.lt_irrefl (Std.lt_trans less greater)

theorem ofList_concat (entries : List (String × α)) (key : String) (value : α) :
    ofList (entries ++ [(key, value)]) = (ofList entries).insert key value := by
  simp [ofList]

theorem ordered_ofList (entries : List (String × α)) : (ofList entries).Ordered := by
  induction entries using List.reverseRecOn with
  | nil => exact ordered_empty
  | append_singleton entries entry ih =>
      rw [ofList_concat]
      exact ih.insert entry.1 entry.2

theorem mem_ofList {entries : List (String × α)} {entry : String × α}
    (mem : entry ∈ (ofList entries).entries) : entry ∈ entries := by
  induction entries using List.reverseRecOn with
  | nil => cases mem
  | append_singleton entries last ih =>
      rw [ofList_concat] at mem
      rcases mem_insertEntry mem with rfl | mem
      · exact List.mem_append_right _ (.head _)
      · exact List.mem_append_left _ (ih mem)

end MachineProvisioning.Table
