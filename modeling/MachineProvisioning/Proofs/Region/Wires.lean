import MachineProvisioning.Proofs.Net.Block
import MachineProvisioning.Region.Composition
import MachineProvisioning.Wiring

/-! # Wirings that are read back

A wiring puts two specifiers between separators as they are written. The region reads the two
interfaces back when no specifier has a separator of entries or attributes in it; what it reads as a
subnet never has one.
-/

namespace MachineProvisioning

namespace Text

variable {sep c : Char} {cs piece : List Char}

theorem mem_of_mem_splitChars (found : piece ∈ splitChars sep cs) (mem : c ∈ piece) : c ∈ cs := by
  induction cs generalizing piece with
  | nil =>
      obtain rfl := List.mem_singleton.mp found
      exact mem
  | cons first rest ih =>
      rw [splitChars] at found
      split at found
      · rcases List.mem_cons.mp found with rfl | found
        · cases mem
        · exact .tail _ (ih found mem)
      · split at found
        · obtain rfl := List.mem_singleton.mp found
          obtain rfl := List.mem_singleton.mp mem
          exact .head _
        · next before pieces parts =>
            rw [parts] at ih
            rcases List.mem_cons.mp found with rfl | found
            · rcases List.mem_cons.mp mem with rfl | mem
              · exact .head _
              · exact .tail _ (ih (.head _) mem)
            · exact .tail _ (ih (.tail _ found) mem)

theorem not_mem_of_mem_splitChars (found : piece ∈ splitChars sep cs) : sep ∉ piece := by
  induction cs generalizing piece with
  | nil =>
      obtain rfl := List.mem_singleton.mp found
      exact List.not_mem_nil
  | cons first rest ih =>
      rw [splitChars] at found
      split at found
      · rcases List.mem_cons.mp found with rfl | found
        · exact List.not_mem_nil
        · exact ih found
      · next differs =>
          split at found
          · obtain rfl := List.mem_singleton.mp found
            simpa using Ne.symm differs
          · next before pieces parts =>
              rw [parts] at ih
              rcases List.mem_cons.mp found with rfl | found
              · exact List.not_mem_cons_of_ne_of_not_mem (Ne.symm differs) (ih (.head _))
              · exact ih (.tail _ found)

end Text

namespace Region

open Text

/-- A text without the separators of entries and attributes. -/
structure Plain (text : String) : Prop where
  comma : ',' ∉ text.toList
  semicolon : ';' ∉ text.toList

theorem attribute?_eq_some {name value : String} {attributes : List (List Char)}
    (found : attribute? name attributes = some value) :
    ∃ written ∈ attributes, splitFirst '=' written = some (name.toList, value.toList) := by
  obtain ⟨written, mem, reads⟩ := List.mem_filterMap.mp (List.mem_of_getLast? found)
  obtain ⟨⟨key, rest⟩, parts, reads⟩ := Option.bind_eq_some_iff.mp reads
  obtain ⟨rfl, ⟨⟩⟩ := Option.ite_none_right_eq_some.mp reads
  exact ⟨written, mem, by simpa using parts⟩

/-- The subnet of a wire is between separators, so it has none. -/
theorem plain_of_readWire? {entry : List Char} {wire : Wire} (semicolon : ';' ∉ entry)
    (reads : readWire? entry = some wire) : Plain wire.subnet := by
  obtain ⟨⟨name, attributes⟩, parts, reads⟩ := Option.bind_eq_some_iff.mp reads
  obtain ⟨subnet, found, reads⟩ := Option.bind_eq_some_iff.mp reads
  cases reads
  obtain ⟨written, mem, value⟩ := attribute?_eq_some found
  obtain ⟨rfl, -⟩ := eq_append_of_splitFirst parts
  obtain ⟨rfl, -⟩ := eq_append_of_splitFirst value
  have within : ∀ c ∈ subnet.toList, c ∈ attributes := fun c here =>
    mem_of_mem_splitChars mem (List.mem_append_right _ (.tail _ here))
  refine ⟨fun here => ?_, fun here => ?_⟩
  · exact not_mem_of_mem_splitChars mem (List.mem_append_right _ (.tail _ here))
  · exact semicolon (List.mem_append_right _ (.tail _ (within _ here)))

theorem plain_of_mem_readWiring {wiring : String} {wire : Wire} (mem : wire ∈ readWiring wiring) :
    Plain wire.subnet := by
  obtain ⟨entry, piece, reads⟩ := List.mem_filterMap.mp mem
  exact plain_of_readWire? (not_mem_of_mem_splitChars piece) reads

end Region

namespace Wiring

open Net Text
open Region (Wire Plain readWire? readWiring attribute?)

/-- The static address is on the interface that its declaration names, or on `eth1`. -/
def addressOn (staticIp : Option StaticIp.Declaration) (name : String) : Option String :=
  match staticIp with
  | none => none
  | some ip =>
      match ip.interface with
      | none => if name = "eth1" then some ip.address.toText else none
      | some named => if name = named then some ip.address.toText else none

/-- The interface of a network, as it is declared. -/
def wireOf (staticIp : Option StaticIp.Declaration) (name network : String) : Wire :=
  ⟨name, specifier network, addressOn staticIp name⟩

variable {staticIp : Option StaticIp.Declaration} {name network : String}

theorem constraints_pair (management workload : String) (staticIp : Option StaticIp.Declaration) :
    constraints [management, workload] staticIp =
      some (entry "eth0" management (addressOn staticIp "eth0") ++ ";" ++
        entry "eth1" workload (addressOn staticIp "eth1")) := by
  have same : ∀ name, (staticIp.bind fun ip =>
      if ip.interface.getD "eth1" = name then some ip.address.toText else none) =
        addressOn staticIp name := by
    intro name
    cases staticIp with
    | none => rfl
    | some ip =>
        simp only [addressOn, Option.bind_some]
        cases ip.interface with
        | none => simp only [Option.getD_none, eq_comm]
        | some named => simp only [Option.getD_some, eq_comm]
  simp only [constraints, Option.bind_eq_bind, same]

/-- The text of an address has no separators. -/
theorem plain_of_mem_addressOn {text : String} (on : text ∈ addressOn staticIp name) :
    Plain text := by
  have plain : ∀ address : Address, Plain address.toText := fun address =>
    ⟨address.not_mem_toText (by decide) (by decide) (by decide),
      address.not_mem_toText (by decide) (by decide) (by decide)⟩
  unfold addressOn at on
  split at on
  · cases on
  · split at on
    all_goals
      obtain ⟨-, ⟨⟩⟩ := Option.ite_none_right_eq_some.mp on
      exact plain _

/-- An attribute as it is written in an entry. -/
def written (key value : String) : List Char := key.toList ++ '=' :: value.toList

/-- The attributes of the entry of a network. -/
def attributesOf (network : String) (address : Option String) : List (List Char) :=
  written "subnet" (specifier network) :: (address.map (written "ip")).toList

variable {address : Option String}

theorem toList_entry (name network : String) (address : Option String) :
    (entry name network address).toList =
      name.toList ++ ':' :: joinChars [','] (attributesOf network address) := by
  cases address <;> simp [entry, attributesOf, written, joinChars]

theorem splitFirst_written (key value : String) (short : '=' ∉ key.toList) :
    splitFirst '=' (written key value) = some (key.toList, value.toList) :=
  splitFirst_append short value.toList

theorem attribute?_subnet :
    attribute? "subnet" (attributesOf network address) = some (specifier network) := by
  have subnet := splitFirst_written "subnet" (specifier network) (by decide)
  have ip := fun text => splitFirst_written "ip" text (by decide)
  cases address <;> simp [attribute?, attributesOf, subnet, ip]

theorem attribute?_ip : attribute? "ip" (attributesOf network address) = address := by
  have subnet := splitFirst_written "subnet" (specifier network) (by decide)
  have ip := fun text => splitFirst_written "ip" text (by decide)
  cases address <;> simp [attribute?, attributesOf, subnet, ip]

section

variable (plain : Plain (specifier network)) (unseparated : ∀ text ∈ address, Plain text)

include plain unseparated

theorem not_mem_attributesOf : ∀ piece ∈ attributesOf network address, ',' ∉ piece ∧ ';' ∉ piece := by
  have whole : ∀ key value, Plain key → Plain value →
      ',' ∉ written key value ∧ ';' ∉ written key value := by
    intro key value named valued
    simp [written, named.comma, named.semicolon, valued.comma, valued.semicolon]
  refine List.forall_mem_cons.mpr ⟨whole _ _ ⟨by decide, by decide⟩ plain, fun piece mem => ?_⟩
  obtain ⟨text, given, rfl⟩ := Option.map_eq_some_iff.mp (Option.mem_toList.mp mem)
  exact whole _ _ ⟨by decide, by decide⟩ (unseparated text given)

theorem readWire?_entry (short : ':' ∉ name.toList) :
    readWire? (entry name network address).toList = some ⟨name, specifier network, address⟩ := by
  have free : ∀ piece ∈ attributesOf network address, ',' ∉ piece := fun piece mem =>
    (not_mem_attributesOf plain unseparated piece mem).1
  have pieces : splitChars ',' (joinChars [','] (attributesOf network address)) =
      attributesOf network address := splitChars_joinChars (List.cons_ne_nil _ _) free
  rw [toList_entry, readWire?, splitFirst_append short]
  simp only [Option.bind_eq_bind, Option.bind_some, pieces, attribute?_subnet, attribute?_ip,
    String.ofList_toList, Option.pure_def]

theorem semicolon_not_mem_entry (short : ';' ∉ name.toList) :
    ';' ∉ (entry name network address).toList := by
  intro mem
  rw [toList_entry, List.mem_append, List.mem_cons] at mem
  rcases mem with mem | same | mem
  · exact short mem
  · cases same
  · rcases mem_joinChars mem with same | ⟨piece, found, mem⟩
    · cases same
    · exact (not_mem_attributesOf plain unseparated piece found).2 mem

end

/-- The region reads the two interfaces as they were declared exactly when neither specifier has a
    separator in it. -/
theorem readWiring_constraints_iff (management workload : String)
    (staticIp : Option StaticIp.Declaration) :
    (constraints [management, workload] staticIp).map readWiring =
        some [wireOf staticIp "eth0" management, wireOf staticIp "eth1" workload] ↔
      Plain (specifier management) ∧ Plain (specifier workload) := by
  have first : ∀ text ∈ addressOn staticIp "eth0", Plain text := fun _ => plain_of_mem_addressOn
  have second : ∀ text ∈ addressOn staticIp "eth1", Plain text := fun _ => plain_of_mem_addressOn
  rw [constraints_pair, Option.map_some, Option.some_inj]
  constructor
  · intro reads
    have plain : ∀ wire ∈ [wireOf staticIp "eth0" management, wireOf staticIp "eth1" workload],
        Plain wire.subnet := reads ▸ fun _ => Region.plain_of_mem_readWiring
    exact ⟨plain _ (.head _), plain _ (.tail _ (.head _))⟩
  · rintro ⟨managed, worked⟩
    have text : (entry "eth0" management (addressOn staticIp "eth0") ++ ";" ++
        entry "eth1" workload (addressOn staticIp "eth1")).toList =
          (entry "eth0" management (addressOn staticIp "eth0")).toList ++ ';' ::
            (entry "eth1" workload (addressOn staticIp "eth1")).toList := by simp
    have wires : readWire? (entry "eth0" management (addressOn staticIp "eth0")).toList =
          some (wireOf staticIp "eth0" management) ∧
        readWire? (entry "eth1" workload (addressOn staticIp "eth1")).toList =
          some (wireOf staticIp "eth1" workload) :=
      ⟨readWire?_entry managed first (by decide), readWire?_entry worked second (by decide)⟩
    rw [readWiring, text, splitChars_append (semicolon_not_mem_entry managed first (by decide)),
      splitChars_of_not_mem (semicolon_not_mem_entry worked second (by decide))]
    simp only [List.filterMap_cons, List.filterMap_nil, wires]

/-- A comma in the name of a network gives its interface an address of its own. -/
example : (constraints ["office,ip=10.0.0.9", "data"] none).map readWiring =
    some [⟨"eth0", "office", some "10.0.0.9"⟩, ⟨"eth1", "data", none⟩] := by
  decide +kernel

end Wiring

end MachineProvisioning
