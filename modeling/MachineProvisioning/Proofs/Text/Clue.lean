import Mathlib.Logic.Basic
import MachineProvisioning.Text.Ascii
import MachineProvisioning.Text.Clue
import MachineProvisioning.Text.Digit

/-! # Clues in any case

A text shows the same clues whatever the case of its ASCII letters. Each reader of a place commutes
with putting the text in lower case, and a test of a place does not change with it.
-/

namespace MachineProvisioning.Text

variable {c : Char}

theorem isUpper_iff : c.isUpper = true ↔ 65 ≤ c.toNat ∧ c.toNat ≤ 90 := decide_eq_true_iff

theorem isLower_iff : c.isLower = true ↔ 97 ≤ c.toNat ∧ c.toNat ≤ 122 :=
  Bool.and_eq_true_iff.trans (and_congr decide_eq_true_iff decide_eq_true_iff)

theorem isAlpha_iff : c.isAlpha = true ↔ c.isUpper = true ∨ c.isLower = true := Bool.or_eq_true_iff

/-- A capital becomes a small letter, and nothing else changes. -/
theorem toLower_cases (c : Char) :
    c.toLower = c ∨ c.isUpper = true ∧ c.toLower.isLower = true := by
  unfold Char.toLower
  split
  · next capital =>
      have upper : 65 ≤ c.toNat ∧ c.toNat ≤ 90 := capital
      let moved := c.val + ('a'.val - 'A'.val)
      have shifted : moved.toNat = (c.toNat + 32) % 2 ^ 32 := UInt32.toNat_add ..
      refine .inr ⟨isUpper_iff.mpr upper, isLower_iff.mpr ?_⟩
      change 97 ≤ moved.toNat ∧ moved.toNat ≤ 122
      omega
  · exact .inl rfl

/-- Only letters change in lower case, and they stay letters. -/
theorem toLower_eq_or_isAlpha (c : Char) :
    c.toLower = c ∨ c.isAlpha = true ∧ c.toLower.isAlpha = true :=
  (toLower_cases c).imp_right fun ⟨upper, lower⟩ =>
    ⟨isAlpha_iff.mpr (.inl upper), isAlpha_iff.mpr (.inr lower)⟩

/-- A small letter is no capital, and stays. -/
theorem toLower_toLower (c : Char) : c.toLower.toLower = c.toLower := by
  obtain same | ⟨-, lower⟩ := toLower_cases c
  · rw [same, same]
  · obtain same | ⟨upper, -⟩ := toLower_cases c.toLower
    · exact same
    · rw [isUpper_iff] at upper
      rw [isLower_iff] at lower
      omega

/-- What all letters have in common does not change in lower case. -/
theorem toLower_invariant {α : Type} {f : Char → α} {a : α}
    (letters : ∀ c : Char, c.isAlpha = true → f c = a) (c : Char) : f c.toLower = f c := by
  obtain same | ⟨letter, lower⟩ := toLower_eq_or_isAlpha c
  · rw [same]
  · rw [letters c letter, letters _ lower]

theorem toNat_of_isAlpha (letter : c.isAlpha = true) :
    65 ≤ c.toNat ∧ c.toNat ≤ 90 ∨ 97 ≤ c.toNat ∧ c.toNat ≤ 122 :=
  (isAlpha_iff.mp letter).imp isUpper_iff.mp isLower_iff.mp

theorem toLower_eq_iff {d : Char} (other : d.isAlpha = false) : c.toLower = d ↔ c = d := by
  obtain same | ⟨letter, lower⟩ := toLower_eq_or_isAlpha c
  · rw [same]
  · constructor
    · rintro rfl
      rw [lower] at other
      cases other
    · rintro rfl
      rw [letter] at other
      cases other

@[simp] theorem isWordChar_toLower (c : Char) : isWordChar c.toLower = isWordChar c :=
  toLower_invariant (f := isWordChar)
    (fun c letter => isWordChar_of_isAlphanum (by simp [Char.isAlphanum, letter])) c

@[simp] theorem isBlank_toLower (c : Char) : isBlank c.toLower = isBlank c := by
  refine toLower_invariant (a := false) (fun c letter => ?_) c
  have letters := toNat_of_isAlpha letter
  simp only [isBlank, Bool.or_eq_false_iff, Bool.and_eq_false_iff, decide_eq_false_iff_not,
    beq_eq_false_iff_ne]
  omega

theorem isDecimalDigit_of_isAlpha (letter : c.isAlpha = true) : isDecimalDigit c = false := by
  have letters := toNat_of_isAlpha letter
  have beyond : inRanges digitRanges c.toNat = false := if_pos (by omega)
  simp only [isDecimalDigit, beyond, Char.isDigit, UInt32.le_iff_toNat_le, ge_iff_le]
  simp only [Bool.or_false, Bool.and_eq_false_iff, decide_eq_false_iff_not]
  change ¬(48 ≤ c.toNat) ∨ ¬(c.toNat ≤ 57)
  omega

@[simp] theorem isDecimalDigit_toLower (c : Char) : isDecimalDigit c.toLower = isDecimalDigit c :=
  toLower_invariant (fun _ => isDecimalDigit_of_isAlpha) c

@[simp] theorem isDigit_toLower (c : Char) : c.toLower.isDigit = c.isDigit := by
  refine toLower_invariant (f := Char.isDigit) (a := false) (fun c letter => ?_) c
  have other := isDecimalDigit_of_isAlpha letter
  simp only [isDecimalDigit, Bool.or_eq_false_iff] at other
  exact other.1

/-- A decimal digit has no other case. -/
theorem toLower_of_isDecimalDigit (digit : isDecimalDigit c = true) : c.toLower = c := by
  obtain same | ⟨letter, -⟩ := toLower_eq_or_isAlpha c
  · exact same
  · rw [isDecimalDigit_of_isAlpha letter] at digit
    cases digit

theorem foldCase_of_isAlpha (letter : c.isAlpha = true) : foldCase c = c.toLower := by
  unfold foldCase
  split
  · next same => subst same; cases letter
  · split
    · next same => subst same; cases letter
    · rfl

@[simp] theorem foldCase_toLower (c : Char) : foldCase c.toLower = foldCase c := by
  obtain same | ⟨letter, lower⟩ := toLower_eq_or_isAlpha c
  · rw [same]
  · rw [foldCase_of_isAlpha letter, foldCase_of_isAlpha lower, toLower_toLower]

@[simp] theorem isWordAt_map_toLower (here : Option Char) :
    isWordAt (here.map Char.toLower) = isWordAt here := by
  cases here with
  | none => rfl
  | some c => exact isWordChar_toLower c

namespace Place

/-- The place in the text in lower case. -/
def lower (p : Place) : Place := ⟨p.before.map Char.toLower, p.rest.map Char.toLower⟩

@[simp] theorem before_lower (p : Place) : p.lower.before = p.before.map Char.toLower := rfl

@[simp] theorem rest_lower (p : Place) : p.lower.rest = p.rest.map Char.toLower := rfl

@[simp] theorem isBoundary_lower (p : Place) : p.lower.isBoundary = p.isBoundary := by
  simp [isBoundary, isWordBoundary]

theorem afterWord_lower (word : List Char) (p : Place) :
    afterWord word p.lower = (afterWord word p).map lower := by
  induction word generalizing p with
  | nil => rfl
  | cons w word ih =>
      obtain ⟨before, rest⟩ := p
      cases rest with
      | nil => rfl
      | cons c rest =>
          change (if foldCase c.toLower = w then afterWord word (lower ⟨some c, rest⟩) else none) =
            (if foldCase c = w then afterWord word ⟨some c, rest⟩ else none).map lower
          rw [foldCase_toLower, ih]
          split <;> rfl

theorem afterAll_lower {test : Char → Bool} (same : ∀ c : Char, test c.toLower = test c)
    (before : Option Char) (rest : List Char) :
    afterAll test (before.map Char.toLower) (rest.map Char.toLower) =
      (afterAll test before rest).lower := by
  induction rest generalizing before with
  | nil => rfl
  | cons c rest ih =>
      change (if test c.toLower then afterAll test ((some c).map Char.toLower) (rest.map Char.toLower)
        else lower ⟨before, c :: rest⟩) =
          (if test c then afterAll test (some c) rest else ⟨before, c :: rest⟩).lower
      rw [same, ih]
      split <;> rfl

@[simp] theorem afterBlanks_lower (p : Place) : p.lower.afterBlanks = p.afterBlanks.lower :=
  afterAll_lower isBlank_toLower p.before p.rest

theorem afterSomeBlanks_lower (p : Place) :
    p.lower.afterSomeBlanks = p.afterSomeBlanks.map lower := by
  obtain ⟨before, rest⟩ := p
  cases rest with
  | nil => rfl
  | cons c rest =>
      have blanks := afterAll_lower isBlank_toLower (some c) rest
      change (if isBlank c.toLower then
          some (afterAll isBlank ((some c).map Char.toLower) (rest.map Char.toLower)) else none) =
        (if isBlank c then some (afterAll isBlank (some c) rest) else none).map lower
      rw [isBlank_toLower, blanks]
      split <;> rfl

variable {test : Place → Bool} (same : ∀ p : Place, test p.lower = test p)
include same

theorem anywhere_lower (before : Option Char) (rest : List Char) :
    anywhere test (before.map Char.toLower) (rest.map Char.toLower) = anywhere test before rest := by
  induction rest generalizing before with
  | nil => exact same ⟨before, []⟩
  | cons c rest ih => exact congrArg₂ (· || ·) (same ⟨before, c :: rest⟩) (ih (some c))

theorem onLine_lower (before : Option Char) (rest : List Char) :
    onLine test (before.map Char.toLower) (rest.map Char.toLower) = onLine test before rest := by
  induction rest generalizing before with
  | nil => exact same ⟨before, []⟩
  | cons c rest ih =>
      have ends : (c.toLower != '\n') = (c != '\n') := by
        rw [Bool.eq_iff_iff]
        simp [toLower_eq_iff (d := '\n') rfl]
      have here := same ⟨before, c :: rest⟩
      have later := ih (some c)
      change (test (lower ⟨before, c :: rest⟩) || (c.toLower != '\n' &&
        onLine test ((some c).map Char.toLower) (rest.map Char.toLower))) = _
      rw [here, later, ends]
      rfl

end Place

open Place (lower)

theorem Phrase.ends_lower (phrase : Phrase) (p : Place) :
    phrase.ends p.lower = (phrase.ends p).map lower := by
  unfold Phrase.ends
  rw [Place.isBoundary_lower]
  split
  · rfl
  · simp only [Place.afterWord_lower, List.filter_filterMap, List.map_filterMap]
    refine congrArg (List.filterMap · phrase.wordings) (funext fun wording => ?_)
    cases p.afterWord wording.toList with
    | none => rfl
    | some q =>
        simp only [Option.map_some, Option.filter_some, Place.isBoundary_lower]
        split <;> rfl

theorem Phrase.isEmpty_ends_lower (phrase : Phrase) (p : Place) :
    (phrase.ends p.lower).isEmpty = (phrase.ends p).isEmpty := by
  rw [Phrase.ends_lower, List.isEmpty_map]

namespace Clue

theorem isAt_lower (clue : Clue) (p : Place) : clue.isAt p.lower = clue.isAt p := by
  cases clue with
  | phrase only => exact congrArg (!·) (only.isEmpty_ends_lower p)
  | both first second =>
      have follows (q : Place) := @Place.onLine_lower (fun r => !(second.ends r).isEmpty)
        (fun r => congrArg (!·) (second.isEmpty_ends_lower r)) q.before q.rest
      simp only [isAt, Phrase.ends_lower, List.any_map]
      exact congrArg (List.any (first.ends p)) (funext follows)

/-- A clue stands in a text whatever the case of its letters. -/
theorem isIn_lower (clue : Clue) (text : List Char) :
    clue.isIn (text.map Char.toLower) = clue.isIn text :=
  Place.anywhere_lower clue.isAt_lower none text

end Clue

end MachineProvisioning.Text
