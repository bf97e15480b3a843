import Mathlib.Data.List.Basic
import MachineProvisioning.Proofs.Text.Clue

/-! # What stands in a text

A reader that goes from one place of a text to another has read what stands between them. Words are read
in any case, marks as they are. Two characters outside ASCII are letters of ASCII in another case.
-/

namespace MachineProvisioning.Text

variable {c d : Char}

/-- The characters outside ASCII that are letters of ASCII in another case. -/
def IsFolded (c : Char) : Prop := c = '\u017f' ∨ c = '\u212a'

instance (c : Char) : Decidable (IsFolded c) := inferInstanceAs (Decidable (_ ∨ _))

theorem foldCase_of_not_isFolded (plain : ¬IsFolded c) : foldCase c = c.toLower := by
  unfold foldCase
  rw [if_neg fun same => plain (.inl same), if_neg fun same => plain (.inr same)]

theorem foldCase_eq_iff (other : d.isAlpha = false) (plain : ¬IsFolded d) :
    foldCase c = d ↔ c = d := by
  by_cases folded : IsFolded c
  · have letter : (foldCase c).isAlpha = true := by
      rcases folded with rfl | rfl <;> decide
    constructor
    · rintro rfl
      rw [letter] at other
      cases other
    · rintro rfl
      exact absurd folded plain
  · rw [foldCase_of_not_isFolded folded, toLower_eq_iff other]

/-- A character that is a letter or a digit in some case stands inside words. -/
theorem isWordChar_of_foldCase (alphanumeric : (foldCase c).isAlphanum = true) :
    isWordChar c = true := by
  by_cases folded : IsFolded c
  · rcases folded with rfl | rfl <;> decide +kernel
  · rw [foldCase_of_not_isFolded folded] at alphanumeric
    rw [← isWordChar_toLower]
    exact isWordChar_of_isAlphanum alphanumeric

theorem not_isWordChar_of_isBlank (blank : isBlank c = true) : isWordChar c = false := by
  have codes : ∀ n ∈ [9, 10, 11, 12, 13, 0x20, 0x85, 0xA0, 0x1680, 0x2000, 0x2001, 0x2002, 0x2003,
      0x2004, 0x2005, 0x2006, 0x2007, 0x2008, 0x2009, 0x200A, 0x2028, 0x2029, 0x202F, 0x205F,
      0x3000], isWordChar (Char.ofNat n) = false := by decide +kernel
  have code := codes c.toNat (by simp [isBlank] at blank ⊢; omega)
  rwa [Char.ofNat_toNat] at code

/-- The place in a text after a part of it. -/
structure Place.Follows (p : Place) (text read : List Char) : Prop where
  split : text = read ++ p.rest
  before : p.before = read.getLast?

namespace Place.Follows

variable {p q : Place} {text read : List Char}

theorem step {before : Option Char} {rest : List Char}
    (follows : Place.Follows ⟨before, c :: rest⟩ text read) :
    Place.Follows ⟨some c, rest⟩ text (read ++ [c]) :=
  ⟨by simpa using follows.split, by simp⟩

/-- A word is read in some case. -/
theorem afterWord {word : List Char} (follows : p.Follows text read)
    (found : Place.afterWord word p = some q) :
    ∃ spelling, spelling.map foldCase = word ∧ q.Follows text (read ++ spelling) := by
  induction word generalizing p read with
  | nil =>
      cases found
      exact ⟨[], rfl, by simpa using follows⟩
  | cons w word ih =>
      obtain ⟨before, rest⟩ := p
      cases rest with
      | nil => cases found
      | cons c rest =>
          unfold Place.afterWord at found
          split at found
          · next same =>
              obtain ⟨spelling, spelled, after⟩ := ih follows.step found
              exact ⟨c :: spelling, by simp [same, spelled], by simpa using after⟩
          · cases found

/-- A mark that is no letter is read as it is. -/
theorem afterMark {mark : Char} (other : mark.isAlpha = false) (plain : ¬IsFolded mark)
    (follows : p.Follows text read) (found : Place.afterWord [mark] p = some q) :
    q.Follows text (read ++ [mark]) := by
  obtain ⟨spelling, spelled, after⟩ := follows.afterWord found
  obtain ⟨c, rest, rfl, same, nothing⟩ := List.map_eq_cons_iff.mp spelled
  obtain rfl := List.map_eq_nil_iff.mp nothing
  rwa [(foldCase_eq_iff other plain).mp same] at after

theorem afterAll {test : Char → Bool} {before : Option Char} {rest : List Char}
    (follows : Place.Follows ⟨before, rest⟩ text read) :
    ∃ run, (∀ c ∈ run, test c = true) ∧
      (Place.afterAll test before rest).Follows text (read ++ run) := by
  induction rest generalizing before read with
  | nil => exact ⟨[], by simp, by simpa [Place.afterAll] using follows⟩
  | cons c rest ih =>
      unfold Place.afterAll
      split
      · next here =>
          obtain ⟨run, tests, after⟩ := ih follows.step
          exact ⟨c :: run, List.forall_mem_cons.mpr ⟨here, tests⟩, by simpa using after⟩
      · exact ⟨[], by simp, by simpa using follows⟩

theorem afterBlanks (follows : p.Follows text read) :
    ∃ gap, (∀ c ∈ gap, isBlank c = true) ∧ p.afterBlanks.Follows text (read ++ gap) :=
  afterAll follows

theorem afterSomeBlanks (follows : p.Follows text read) (found : p.afterSomeBlanks = some q) :
    ∃ gap, gap ≠ [] ∧ (∀ c ∈ gap, isBlank c = true) ∧ q.Follows text (read ++ gap) := by
  obtain ⟨before, rest⟩ := p
  cases rest with
  | nil => cases found
  | cons c rest =>
      simp only [Place.afterSomeBlanks] at found
      split at found
      · next blank =>
          cases found
          obtain ⟨gap, blanks, after⟩ := @afterAll text _ isBlank _ _ follows.step
          exact ⟨c :: gap, by simp, List.forall_mem_cons.mpr ⟨blank, blanks⟩, by simpa using after⟩
      · cases found

end Place.Follows

/-- The middle one of three parts of a text is a whole word. -/
structure IsWord (before word after : List Char) : Prop where
  chars : ∀ c ∈ word, isWordChar c = true
  opens : isWordAt before.getLast? = false
  closes : isWordAt after.head? = false

theorem isWordAt_head? {run after : List Char} {within : Bool} (nonempty : run ≠ [])
    (all : ∀ c ∈ run, isWordChar c = within) : isWordAt (run ++ after).head? = within := by
  obtain ⟨c, run, rfl⟩ := List.exists_cons_of_ne_nil nonempty
  exact all c List.mem_cons_self

theorem isWordAt_getLast? {before run : List Char} {within : Bool} (nonempty : run ≠ [])
    (all : ∀ c ∈ run, isWordChar c = within) : isWordAt (before ++ run).getLast? = within := by
  rw [List.getLast?_append_of_ne_nil _ nonempty, List.getLast?_eq_some_getLast nonempty]
  exact all _ (List.getLast_mem nonempty)

namespace Place.Follows

variable {p q : Place} {text read word : List Char} (start : p.Follows text read)
  (stop : q.Follows text (read ++ word)) (nonempty : word ≠ [])
  (chars : ∀ c ∈ word, isWordChar c = true)
include stop nonempty chars

include start in
/-- The boundary before a word. -/
theorem opens_of_isBoundary (boundary : p.isBoundary = true) :
    isWordAt read.getLast? = false := by
  have pending : p.rest = word ++ q.rest := by
    have split := start.split.symm.trans stop.split
    rwa [List.append_assoc, List.append_right_inj] at split
  have within : isWordAt p.rest.head? = true := by
    rw [pending]
    exact isWordAt_head? nonempty chars
  rw [← start.before]
  simpa [isBoundary, isWordBoundary, within] using boundary

/-- The boundary after a word. -/
theorem closes_of_isBoundary (boundary : q.isBoundary = true) :
    isWordAt q.rest.head? = false := by
  have within : isWordAt q.before = true := by
    rw [stop.before]
    exact isWordAt_getLast? nonempty chars
  simpa [isBoundary, isWordBoundary, within] using boundary

end Place.Follows

end MachineProvisioning.Text
