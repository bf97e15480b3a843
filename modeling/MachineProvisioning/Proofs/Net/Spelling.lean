import MachineProvisioning.Proofs.Net.Block

/-! # Blanks around an address

No text that reads as an address has a blank in it. A declared address is therefore what stands between
the blanks at the two ends of its text.
-/

namespace MachineProvisioning

namespace Text

variable {lead core trail : List Char}

theorem dropBlanks_append (blank : ∀ c ∈ lead, isBlank c = true) (rest : List Char) :
    dropBlanks (lead ++ rest) = dropBlanks rest :=
  List.dropWhile_append_of_pos blank

/-- Blanks at both ends are removed from what has none. -/
theorem trimChars_append (before : ∀ c ∈ lead, isBlank c = true)
    (after : ∀ c ∈ trail, isBlank c = true) (solid : ∀ c ∈ core, isBlank c = false) :
    trimChars (lead ++ core ++ trail) = core := by
  have blanks : ∀ c ∈ trail.reverse, isBlank c = true := fun c mem =>
    after c (List.mem_reverse.mp mem)
  have none : dropBlanks trail = [] := by
    rw [← List.append_nil trail, dropBlanks_append after]
    rfl
  rw [List.append_assoc, trimChars, dropBlanks_append before]
  cases core with
  | nil =>
      rw [List.nil_append, none]
      rfl
  | cons first rest =>
      have kept : dropBlanks (first :: rest ++ trail) = first :: rest ++ trail :=
        List.dropWhile_cons_of_neg (by simp [solid first (.head _)])
      rw [kept, List.reverse_append, dropBlanks_append blanks,
        dropBlanks_of_solid fun c mem => solid c (List.mem_reverse.mp mem), List.reverse_reverse]

/-- What is removed from a text are blanks at its ends. -/
theorem eq_append_trimChars (cs : List Char) : ∃ lead trail,
    cs = lead ++ trimChars cs ++ trail ∧ (∀ c ∈ lead, isBlank c = true) ∧
      ∀ c ∈ trail, isBlank c = true := by
  let tail := dropBlanks cs
  refine ⟨cs.takeWhile isBlank, (tail.reverse.takeWhile isBlank).reverse, ?_, ?_, ?_⟩
  · have ends : tail = trimChars cs ++ (tail.reverse.takeWhile isBlank).reverse := by
      rw [trimChars, ← List.reverse_append, dropBlanks, List.takeWhile_append_dropWhile,
        List.reverse_reverse]
    rw [List.append_assoc, ← ends]
    exact List.takeWhile_append_dropWhile.symm
  · exact List.all_eq_true.mp List.all_takeWhile
  · intro c mem
    exact List.all_eq_true.mp List.all_takeWhile c (List.mem_reverse.mp mem)

end Text

namespace Net.Address

open Text

variable {c : Char} {cs : List Char}

theorem not_mem_of_groups? {quadAllowed : Bool} {pieces : List (List Char)} {gs : List Nat}
    (stops : hexValue? c = none) (dot : c ≠ '.') (reads : groups? quadAllowed pieces = some gs) :
    ∀ piece ∈ pieces, c ∉ piece := by
  induction pieces generalizing gs with
  | nil => simp
  | cons piece rest ih =>
      intro other found mem
      cases rest with
      | nil =>
          obtain rfl := List.mem_singleton.mp found
          have unread := quad?_of_mem (isDigit_of_hexValue? stops) dot mem
          simp [groups?, group?_of_mem stops mem, unread] at reads
      | cons next rest =>
          simp only [groups?, Option.bind_eq_bind, Option.bind_eq_some_iff] at reads
          obtain ⟨g, first, others, reads, -⟩ := reads
          cases found with
          | head =>
              rw [group?_of_mem stops mem] at first
              cases first
          | tail _ found => exact ih reads other found mem

theorem not_mem_of_side? {quadAllowed : Bool} {gs : List Nat} (stops : hexValue? c = none)
    (colon : c ≠ ':') (dot : c ≠ '.') (reads : side? quadAllowed cs = some gs) : c ∉ cs := by
  unfold side? at reads
  split at reads
  · next empty => simp [List.isEmpty_iff.mp empty]
  · intro mem
    rw [← joinChars_splitChars ':' cs] at mem
    rcases mem_joinChars mem with same | ⟨piece, found, mem⟩
    · exact colon same
    · exact not_mem_of_groups? stops dot reads piece found mem

theorem eq_append_of_splitGap {before after : List Char}
    (parts : splitGap cs = some (before, after)) : cs = before ++ ':' :: ':' :: after := by
  induction cs using splitGap.induct generalizing before with
  | case1 rest =>
      cases parts
      rfl
  | case2 c rest other ih =>
      rw [splitGap.eq_2 _ _ other] at parts
      obtain ⟨⟨first, last⟩, found, whole⟩ := Option.map_eq_some_iff.mp parts
      cases whole
      exact congrArg (c :: ·) (ih found)
  | case3 => cases parts

/-- An address is read from hexadecimal digits, colons and dots. -/
theorem not_mem_of_ofChars? {a : Address} (stops : hexValue? c = none) (colon : c ≠ ':')
    (dot : c ≠ '.') (reads : ofChars? cs = some a) : c ∉ cs := by
  intro mem
  have unread : v4OfChars? cs = none := by
    rw [v4OfChars?, quad?_of_mem (isDigit_of_hexValue? stops) dot mem, Option.map_none]
  simp only [ofChars?, unread, v6OfChars?, Option.map_eq_some_iff] at reads
  obtain ⟨gs, reads, -⟩ := reads
  unfold v6Groups? at reads
  split at reads
  · next before after parts =>
      simp only [Option.bind_eq_bind, Option.bind_eq_some_iff] at reads
      obtain ⟨head, first, tail, last, -⟩ := reads
      rw [eq_append_of_splitGap parts] at mem
      simp only [List.mem_append, List.mem_cons] at mem
      rcases mem with mem | same | same | mem
      · exact not_mem_of_side? stops colon dot first mem
      · exact colon same
      · exact colon same
      · exact not_mem_of_side? stops colon dot last mem
  · simp only [Option.bind_eq_bind, Option.bind_eq_some_iff] at reads
    obtain ⟨all, reads, -⟩ := reads
    exact not_mem_of_side? stops colon dot reads mem

theorem solid_of_ofChars? {a : Address} (reads : ofChars? cs = some a) :
    ∀ c ∈ cs, isBlank c = false := by
  intro c mem
  rw [Bool.eq_false_iff]
  intro blank
  have colon : c ≠ ':' := by
    rintro rfl
    cases blank
  have dot : c ≠ '.' := by
    rintro rfl
    cases blank
  exact not_mem_of_ofChars? (hexValue?_of_isBlank blank) colon dot reads mem

end Net.Address

namespace StaticIp

open Net Text

/-- The text is one of the address, in any of its spellings, with blanks around it or without. -/
def Spells (text : String) (address : Address) : Prop :=
  ∃ lead core trail, text.toList = lead ++ core ++ trail ∧ (∀ c ∈ lead, isBlank c = true) ∧
    (∀ c ∈ trail, isBlank c = true) ∧ Address.ofChars? core = some address

/-- A text is read as the address that it spells. -/
theorem addressOf?_eq_some_iff {text : String} {address : Address} :
    addressOf? text = some address ↔ Spells text address := by
  constructor
  · intro reads
    obtain ⟨lead, trail, whole, before, after⟩ := eq_append_trimChars text.toList
    exact ⟨lead, _, trail, whole, before, after, reads⟩
  · rintro ⟨lead, core, trail, whole, before, after, reads⟩
    rw [addressOf?, whole, trimChars_append before after (Address.solid_of_ofChars? reads)]
    exact reads

/-- A text spells one address at most. -/
theorem Spells.unique {text : String} {address other : Address} (one : Spells text address)
    (another : Spells text other) : address = other :=
  Option.some.inj ((addressOf?_eq_some_iff.mpr one).symm.trans (addressOf?_eq_some_iff.mpr another))

/-- Different texts, with blanks or without, are of one address. -/
example : Spells " FD00:0:0:0:0:0:0.0.0.32\t" (Address.ofValue .v6 (0xFD00 * 2 ^ 112 + 32)) ∧
    Spells "fd00::20" (Address.ofValue .v6 (0xFD00 * 2 ^ 112 + 32)) := by
  simp only [← addressOf?_eq_some_iff]
  decide +kernel

end StaticIp

end MachineProvisioning
