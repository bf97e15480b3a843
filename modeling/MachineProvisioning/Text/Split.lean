/-! # Splitting at a separator

A text with `n` separators has `n + 1` pieces, so the empty text has one empty piece. Joining the
pieces with the separator gives the text back.
-/

namespace MachineProvisioning.Text

/-- The pieces between the occurrences of `sep`, in order. -/
def splitChars (sep : Char) : List Char → List (List Char)
  | [] => [[]]
  | c :: rest =>
      if c = sep then [] :: splitChars sep rest
      else
        match splitChars sep rest with
        | [] => [[c]]
        | piece :: pieces => (c :: piece) :: pieces

/-- The parts before and after the first occurrence of `sep`. -/
def splitFirst (sep : Char) : List Char → Option (List Char × List Char)
  | [] => none
  | c :: rest =>
      if c = sep then some ([], rest)
      else (splitFirst sep rest).map fun (before, after) => (c :: before, after)

/-- The pieces with `sep` between neighbours. -/
def joinChars (sep : List Char) : List (List Char) → List Char
  | [] => []
  | [piece] => piece
  | piece :: pieces => piece ++ sep ++ joinChars sep pieces

/-- The pieces of a text between the occurrences of `sep`. -/
def split (sep : Char) (s : String) : List String :=
  (splitChars sep s.toList).map String.ofList

/-- The texts joined with `sep` between neighbours. -/
def join (sep : String) (pieces : List String) : String :=
  String.ofList (joinChars sep.toList (pieces.map String.toList))

/-- What follows `lead` in `cs`, if `cs` starts with it. -/
def dropLead : List Char → List Char → Option (List Char)
  | [], cs => some cs
  | l :: lead, c :: cs => if l = c then dropLead lead cs else none
  | _ :: _, [] => none

theorem splitChars_ne_nil (sep : Char) (cs : List Char) : splitChars sep cs ≠ [] := by
  cases cs with
  | nil => simp [splitChars]
  | cons c rest =>
    simp only [splitChars]
    split
    · simp
    · split <;> simp

/-- Joining the pieces restores the text. -/
theorem joinChars_splitChars (sep : Char) (cs : List Char) :
    joinChars [sep] (splitChars sep cs) = cs := by
  induction cs with
  | nil => rfl
  | cons c rest ih =>
    simp only [splitChars]
    cases h : splitChars sep rest with
    | nil => exact absurd h (splitChars_ne_nil sep rest)
    | cons piece pieces =>
      rw [h] at ih
      by_cases hc : c = sep
      · simp [hc, joinChars, ih]
      · cases pieces with
        | nil => simpa [hc, joinChars] using ih
        | cons p ps => simpa [hc, joinChars] using ih

theorem splitChars_of_not_mem {sep : Char} {piece : List Char} (free : sep ∉ piece) :
    splitChars sep piece = [piece] := by
  induction piece with
  | nil => rfl
  | cons c rest ih =>
    rw [List.mem_cons, not_or] at free
    simp [splitChars, Ne.symm free.1, ih free.2]

theorem splitChars_append {sep : Char} {piece : List Char} (free : sep ∉ piece) (rest : List Char) :
    splitChars sep (piece ++ sep :: rest) = piece :: splitChars sep rest := by
  induction piece with
  | nil => simp [splitChars]
  | cons c piece ih =>
    rw [List.mem_cons, not_or] at free
    simp [splitChars, Ne.symm free.1, ih free.2]

/-- Splitting restores pieces that are free of the separator, of which there is at least one. -/
theorem splitChars_joinChars {sep : Char} {pieces : List (List Char)} (nonempty : pieces ≠ [])
    (free : ∀ piece ∈ pieces, sep ∉ piece) : splitChars sep (joinChars [sep] pieces) = pieces := by
  induction pieces with
  | nil => exact absurd rfl nonempty
  | cons piece pieces ih =>
    have first : sep ∉ piece := free piece (.head _)
    cases pieces with
    | nil => exact splitChars_of_not_mem first
    | cons next pieces =>
      have rest := ih (by simp) fun other mem => free other (.tail _ mem)
      simp [joinChars, splitChars_append first, rest]

/-- A character of a joined text is the separator or one of a piece. -/
theorem mem_joinChars {sep c : Char} {pieces : List (List Char)}
    (mem : c ∈ joinChars [sep] pieces) : c = sep ∨ ∃ piece ∈ pieces, c ∈ piece := by
  induction pieces with
  | nil => cases mem
  | cons piece pieces ih =>
    cases pieces with
    | nil => exact .inr ⟨piece, .head _, mem⟩
    | cons next pieces =>
      simp only [joinChars, List.append_assoc, List.mem_append, List.mem_singleton] at mem
      rcases mem with here | same | later
      · exact .inr ⟨piece, .head _, here⟩
      · exact .inl same
      · rcases ih later with same | ⟨other, found, mem⟩
        · exact .inl same
        · exact .inr ⟨other, .tail _ found, mem⟩

theorem dropLead_eq_some_iff {lead cs rest : List Char} :
    dropLead lead cs = some rest ↔ cs = lead ++ rest := by
  induction lead generalizing cs with
  | nil => simp [dropLead]
  | cons l lead ih =>
    cases cs with
    | nil => simp [dropLead]
    | cons c cs =>
      by_cases h : l = c
      · simp [dropLead, h, ih]
      · simp [dropLead, h, Ne.symm h]

end MachineProvisioning.Text
