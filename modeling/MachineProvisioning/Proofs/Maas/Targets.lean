import MachineProvisioning.Maas.Client
import MachineProvisioning.Proofs.Net.Block
import MachineProvisioning.Proofs.Text.Numeral
import MachineProvisioning.Proofs.Text.Percent

/-! # Targets that are read back

A path holds the id that it is about in one segment, and a query holds each filter in one part. Both are
found again by splitting at the separators and decoding, so no id and no filter leads elsewhere.
-/

namespace MachineProvisioning

namespace Text

/-- A text that joins pieces without the separator in them is split into these pieces. -/
theorem split_of_join {sep : Char} {s : String} {pieces : List String}
    (joins : s.toList = joinChars [sep] (pieces.map String.toList)) (nonempty : pieces ≠ [])
    (free : ∀ piece ∈ pieces, sep ∉ piece.toList) : split sep s = pieces := by
  have apart : ∀ piece ∈ pieces.map String.toList, sep ∉ piece := by
    simpa using free
  rw [split, joins, splitChars_joinChars (by simpa using nonempty) apart, List.map_map]
  simp [Function.comp_def]

/-- A part of a query, read as a key and its value. -/
def readField? (part : String) : Option (String × String) := do
  let (key, value) ← splitFirst '=' part.toList
  pure (← percentDecode? (String.ofList key), ← percentDecode? (String.ofList value))

/-- A query, read as its parts in order. -/
def readQuery? (query : String) : Option (List (String × String)) :=
  (split '&' query).mapM readField?

/-- A filter as it is written in a query. -/
def writtenField (filter : String × String) : String :=
  percentEncode filter.1 ++ "=" ++ percentEncode filter.2

theorem readField?_writtenField (filter : String × String) :
    readField? (writtenField filter) = some filter := by
  obtain ⟨key, value⟩ := filter
  have parts : splitFirst '=' (writtenField (key, value)).toList =
      some ((percentEncode key).toList, (percentEncode value).toList) := by
    have free := not_mem_percentEncode (c := '=') key (by decide) (by decide)
    simpa [writtenField] using splitFirst_append free (percentEncode value).toList
  simp [readField?, parts, percentDecode?_percentEncode]

theorem not_mem_writtenField (filter : String × String) : '&' ∉ (writtenField filter).toList := by
  have key := not_mem_percentEncode (c := '&') filter.1 (by decide) (by decide)
  have value := not_mem_percentEncode (c := '&') filter.2 (by decide) (by decide)
  simp [writtenField, key, value]

variable {filters : List (String × String)}

theorem split_queryString (nonempty : filters ≠ []) :
    split '&' (queryString filters) = filters.map writtenField := by
  refine split_of_join (String.toList_ofList) (by simpa using nonempty) fun piece mem => ?_
  obtain ⟨filter, -, rfl⟩ := List.mem_map.mp mem
  exact not_mem_writtenField filter

theorem mapM_writtenField (filters : List (String × String)) :
    (filters.map writtenField).mapM readField? = some filters := by
  induction filters with
  | nil => rfl
  | cons filter rest ih => simp [readField?_writtenField, ih]

/-- A query is read back as its filters. Without filters there is no query, but one empty part. -/
theorem readQuery?_queryString (nonempty : filters ≠ []) :
    readQuery? (queryString filters) = some filters := by
  rw [readQuery?, split_queryString nonempty, mapM_writtenField]

end Text

namespace Maas

open Text

variable {x y : String} {m n : UInt64}

theorem slash_not_mem_percentEncode (x : String) : '/' ∉ (percentEncode x).toList :=
  not_mem_percentEncode x (by decide) (by decide)

theorem split_machinePath (x : String) :
    split '/' (machinePath x) = ["", "machines", percentEncode x, ""] := by
  refine split_of_join (by simp [machinePath, joinChars]) (by simp) ?_
  simp [slash_not_mem_percentEncode]

theorem split_interfacePath (x : String) (n : UInt64) : split '/' (interfacePath x n) =
    ["", "nodes", percentEncode x, "interfaces", decimal n.toNat, ""] := by
  have number : '/' ∉ (decimal n.toNat).toList := (isNumeral_decimal n.toNat).not_mem rfl
  refine split_of_join (by simp [interfacePath, interfacesPath, joinChars]) (by simp) ?_
  simp [slash_not_mem_percentEncode, number]

theorem machinePath_injective : Function.Injective machinePath := by
  intro x y same
  have segments := split_machinePath x
  rw [same, split_machinePath y] at segments
  simp only [List.cons.injEq, true_and, and_true] at segments
  exact (percentEncode_injective segments).symm

theorem interfacePath_injective : Function.Injective2 interfacePath := by
  intro x y m n same
  have segments := split_interfacePath x m
  rw [same, split_interfacePath y n] at segments
  simp only [List.cons.injEq, true_and, and_true] at segments
  exact ⟨(percentEncode_injective segments.1).symm,
    (UInt64.toNat_inj.mp (decimal_injective segments.2)).symm⟩

/-- A path has the segments of its template, of which one is read as the id that it is about. Other
    ids have other paths, and a query is read as its filters. -/
theorem targets_read_back (x : String) (n : UInt64) {filters : List (String × String)}
    (nonempty : filters ≠ []) :
    (∃ segment, split '/' (machinePath x) = ["", "machines", segment, ""] ∧
      percentDecode? segment = some x) ∧
    (∃ segment, split '/' (interfacePath x n) =
        ["", "nodes", segment, "interfaces", decimal n.toNat, ""] ∧
      percentDecode? segment = some x) ∧
    (∀ y, machinePath y = machinePath x → y = x) ∧
    (∀ y m, interfacePath y m = interfacePath x n → y = x ∧ m = n) ∧
    readQuery? (queryString filters) = some filters := by
  refine ⟨⟨percentEncode x, split_machinePath x, percentDecode?_percentEncode x⟩,
    ⟨percentEncode x, split_interfacePath x n, percentDecode?_percentEncode x⟩, ?_, ?_, ?_⟩
  · intro y same
    exact machinePath_injective same
  · intro y m same
    exact interfacePath_injective same
  · exact readQuery?_queryString nonempty

/-- An id and filters that are full of separators. -/
theorem targets_read_back_separators :
    [("hostname", "a&b=c%3D"), ("", "ü")] ≠ [] ∧
    (∃ segment, split '/' (machinePath "m1/?op=release#") = ["", "machines", segment, ""] ∧
      percentDecode? segment = some "m1/?op=release#") ∧
    (∃ segment, split '/' (interfacePath "m1/?op=release#" 7) =
        ["", "nodes", segment, "interfaces", "7", ""] ∧
      percentDecode? segment = some "m1/?op=release#") ∧
    (∀ y, machinePath y = machinePath "m1/?op=release#" → y = "m1/?op=release#") ∧
    (∀ y m, interfacePath y m = interfacePath "m1/?op=release#" 7 →
      y = "m1/?op=release#" ∧ m = 7) ∧
    readQuery? (queryString [("hostname", "a&b=c%3D"), ("", "ü")]) =
      some [("hostname", "a&b=c%3D"), ("", "ü")] :=
  ⟨by simp, targets_read_back "m1/?op=release#" 7 (by simp)⟩

end Maas

end MachineProvisioning
