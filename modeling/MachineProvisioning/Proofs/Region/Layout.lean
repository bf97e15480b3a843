import MachineProvisioning.Proofs.Net.Block
import MachineProvisioning.Proofs.Region.Bookkeeping
import MachineProvisioning.Proofs.Region.Configuration
import Mathlib.Data.List.Nodup

/-! # The layout of a machine

The interfaces of a machine, the links of each, and the subnets that the links are on. Linking and
unlinking change the links of one interface and leave everything else of the layout alone.
-/

namespace MachineProvisioning.Region

open Maas (Interface Link LinkMode LinkParams Subnet)
open StaticIp (Declaration Target)
open Text

/-- The links without the first one of this number. -/
def withoutLink (links : List Link) (number : UInt64) : List Link := links.eraseP (·.id == number)

/-- The links without those of these numbers, taken away one after another. -/
def withoutLinks (links : List Link) (ids : List UInt64) : List Link := ids.foldl withoutLink links

theorem erase_eq_withoutLink {links : List Link} {link : Link} {number : UInt64}
    (found : links.find? (·.id == number) = some link) : links.erase link = withoutLink links number := by
  induction links with
  | nil => cases found
  | cons first rest ih =>
      unfold withoutLink at ih ⊢
      rw [List.find?_cons] at found
      split at found
      · next same =>
          cases found
          rw [List.erase_cons_head]
          exact (List.eraseP_cons_of_pos (p := fun link : Link => link.id == number) same).symm
      · next differs =>
          have other : first ≠ link := by
            rintro rfl
            rw [List.find?_some found] at differs
            cases differs
          rw [List.erase_cons_tail (by simpa using other), ih found]
          exact (List.eraseP_cons_of_neg (p := fun link : Link => link.id == number) (by simp [differs])).symm

theorem withoutLinks_sublist (links : List Link) (ids : List UInt64) :
    (withoutLinks links ids).Sublist links := by
  induction ids generalizing links with
  | nil => exact .refl links
  | cons number rest ih => exact (ih (withoutLink links number)).trans List.eraseP_sublist

theorem withoutLinks_own (links : List Link) : withoutLinks links (links.map (·.id)) = [] := by
  induction links with
  | nil => rfl
  | cons first rest ih =>
      have taken : withoutLink (first :: rest) first.id = rest := by simp [withoutLink]
      calc withoutLinks (first :: rest) ((first :: rest).map (·.id))
          = withoutLinks (withoutLink (first :: rest) first.id) (rest.map (·.id)) := rfl
        _ = withoutLinks rest (rest.map (·.id)) := by rw [taken]
        _ = [] := ih

theorem withoutLink_eq_filter {links : List Link} (distinct : (links.map (·.id)).Nodup)
    (number : UInt64) : withoutLink links number = links.filter (·.id != number) := by
  induction links with
  | nil => rfl
  | cons first rest ih =>
      rw [List.map_cons, List.nodup_cons] at distinct
      unfold withoutLink at ih ⊢
      by_cases same : first.id = number
      · have others : rest.filter (·.id != number) = rest := by
          refine List.filter_eq_self.mpr fun link mem => ?_
          have differs : link.id ≠ number := fun again =>
            distinct.1 (same ▸ again ▸ List.mem_map_of_mem mem)
          simpa using differs
        simp [same, others]
      · simp [same, ih distinct.2]

/-- Links with numbers of their own are taken away without touching the others. -/
theorem mem_withoutLinks {links : List Link} {link : Link} {ids : List UInt64}
    (distinct : (links.map (·.id)).Nodup) :
    link ∈ withoutLinks links ids ↔ link ∈ links ∧ link.id ∉ ids := by
  induction ids generalizing links with
  | nil => simp [withoutLinks]
  | cons number rest ih =>
      have fewer : ((withoutLink links number).map (·.id)).Nodup :=
        distinct.sublist (List.eraseP_sublist.map _)
      change link ∈ withoutLinks (withoutLink links number) rest ↔ _
      rw [ih fewer, withoutLink_eq_filter distinct, List.mem_filter]
      simp [and_assoc]

/-- The interfaces, with these links on the one of this number. -/
def relinked (number : UInt64) (links : List Link) (interfaces : List Interface) : List Interface :=
  interfaces.map fun iface => if iface.id = number then { iface with links } else iface

variable {number : UInt64} {links later : List Link} {interfaces : List Interface} {iface : Interface}

theorem relinked_relinked :
    relinked number later (relinked number links interfaces) = relinked number later interfaces := by
  unfold relinked
  rw [List.map_map]
  refine List.map_congr_left fun iface _ => ?_
  by_cases same : iface.id = number <;> simp [same]

theorem relinked_of_not_mem (absent : number ∉ interfaces.map (·.id)) :
    relinked number links interfaces = interfaces := by
  unfold relinked
  refine Eq.trans (List.map_congr_left fun iface mem => ?_) (List.map_id' interfaces)
  have differs : iface.id ≠ number := fun same => absent (same ▸ List.mem_map_of_mem mem)
  exact if_neg differs

theorem relinked_split {before rest : List Interface}
    (distinct : ((before ++ iface :: rest).map (·.id)).Nodup) :
    relinked iface.id links (before ++ iface :: rest) =
      before ++ { iface with links } :: rest := by
  rw [List.map_append, List.map_cons] at distinct
  have first : iface.id ∉ before.map (·.id) := fun mem =>
    List.disjoint_of_nodup_append distinct mem (.head _)
  have last : iface.id ∉ rest.map (·.id) := (List.nodup_cons.mp distinct.of_append_right).1
  calc relinked iface.id links (before ++ iface :: rest)
      = relinked iface.id links before ++ { iface with links } :: relinked iface.id links rest := by
        simp [relinked]
    _ = before ++ { iface with links } :: rest := by
        rw [relinked_of_not_mem first, relinked_of_not_mem last]

theorem relinked_self (distinct : (interfaces.map (·.id)).Nodup) (mem : iface ∈ interfaces) :
    relinked iface.id iface.links interfaces = interfaces := by
  unfold relinked
  refine Eq.trans (List.map_congr_left fun other listed => ?_) (List.map_id' interfaces)
  split
  · next same =>
      obtain rfl : other = iface := List.inj_on_of_nodup_map distinct listed mem same
      rfl
  · rfl

theorem find?_relinked {p : Interface → Bool}
    (plain : ∀ (iface : Interface) links, p { iface with links } = p iface) :
    (relinked number links interfaces).find? p = (interfaces.find? p).map fun iface =>
      if iface.id = number then { iface with links } else iface := by
  have same : (p ∘ fun iface : Interface => if iface.id = number then { iface with links } else iface) = p := by
    funext iface
    dsimp only [Function.comp]
    split
    · exact plain iface links
    · rfl
  unfold relinked
  rw [List.find?_map, same]

theorem find?_number (distinct : (interfaces.map (·.id)).Nodup) (mem : iface ∈ interfaces) :
    interfaces.find? (·.id == iface.id) = some iface := by
  cases found : interfaces.find? (·.id == iface.id) with
  | none => exact absurd (List.find?_eq_none.mp found iface mem) (by simp)
  | some other =>
      have same : other.id = iface.id := by simpa using List.find?_some found
      rw [List.inj_on_of_nodup_map distinct (List.mem_of_find?_eq_some found) mem same]

theorem mem_relinked {other : Interface} (distinct : (interfaces.map (·.id)).Nodup)
    (mem : iface ∈ interfaces) : other ∈ relinked iface.id links interfaces ↔
      other = { iface with links } ∨ other ∈ interfaces ∧ other.id ≠ iface.id := by
  unfold relinked
  rw [List.mem_map]
  constructor
  · rintro ⟨old, listed, rfl⟩
    split
    · next same => exact .inl (by rw [List.inj_on_of_nodup_map distinct listed mem same])
    · next differs => exact .inr ⟨listed, differs⟩
  · rintro (rfl | ⟨listed, differs⟩)
    · exact ⟨iface, mem, if_pos rfl⟩
    · exact ⟨other, listed, if_neg differs⟩

theorem replaceFirst_relinked (distinct : (interfaces.map (·.id)).Nodup) (mem : iface ∈ interfaces) :
    replaceFirst { iface with links := later } (relinked iface.id links interfaces) =
      relinked iface.id later interfaces := by
  induction interfaces with
  | nil => cases mem
  | cons first rest ih =>
      rw [List.map_cons, List.nodup_cons] at distinct
      unfold relinked replaceFirst
      rw [List.map_cons, List.map_cons]
      cases mem with
      | head =>
          have others : ∀ links, relinked iface.id links rest = rest := fun links => relinked_of_not_mem distinct.1
          unfold relinked at others
          simp [others]
      | tail _ mem =>
          have differs : first.id ≠ iface.id := fun same =>
            distinct.1 (same ▸ List.mem_map_of_mem mem)
          simp only [if_neg differs]
          exact congrArg _ (ih distinct.2 mem)

/-- A successful look changes nothing. -/
theorem region_of_read {region after : Region} {call : Maas.Call} {value : call.Value}
    (reads : call.isRead = true) (answers : region.answer call = (.ok value, after)) :
    after = region := by
  cases call with
  | listInterfaces x =>
      simp only [answer, listInterfaces] at answers
      repeat' split at answers
      all_goals (cases answers <;> rfl)
  | listHostVms hostId =>
      simp only [answer, listHostVms] at answers
      split at answers
      all_goals (cases answers <;> rfl)
  | getMachine x => exact congrArg Prod.snd answers.symm
  | getInterface x interfaceId => exact congrArg Prod.snd answers.symm
  | getVmHost hostId => exact congrArg Prod.snd answers.symm
  | listMachines filters => exact congrArg Prod.snd answers.symm
  | listVmHosts => exact congrArg Prod.snd answers.symm
  | getIpAddress ip => exact congrArg Prod.snd answers.symm
  | _ => cases reads

/-- No call plans a failure of a listing. -/
theorem plain_answer (region : Region) (call : Maas.Call)
    (plain : region.planted.listInterfaces = none) :
    (region.answer call).2.planted.listInterfaces = none := by
  rw [(region.answer_entered call).planted]
  cases call with
  | listInterfaces x => rfl
  | _ => exact plain

/-- Two inventories that differ in nothing that a layout depends on. -/
structure SameLayout (stock after : Inventory) : Prop where
  machines : after.machines = stock.machines
  bootInterfaces : after.bootInterfaces = stock.bootInterfaces
  subnets : after.subnets = stock.subnets
  interfaces : after.interfaces = stock.interfaces

/-- Of all that a layout depends on, the links of one interface have been replaced. -/
structure Relaid (x : String) (number : UInt64) (links : List Link) (stock after : Inventory) :
    Prop where
  machines : after.machines = stock.machines
  bootInterfaces : after.bootInterfaces = stock.bootInterfaces
  subnets : after.subnets = stock.subnets
  interfaces : after.interfacesOf x = relinked number links (stock.interfacesOf x)

variable {x : String} {stock after : Inventory} {linkId : UInt64} {params : LinkParams}

theorem relaid_self (distinct : ((stock.interfacesOf x).map (·.id)).Nodup)
    (mem : iface ∈ stock.interfacesOf x) : Relaid x iface.id iface.links stock stock :=
  ⟨rfl, rfl, rfl, (relinked_self distinct mem).symm⟩

theorem Relaid.trans {last : Inventory} (first : Relaid x number links stock after)
    (second : Relaid x number later after last) : Relaid x number later stock last where
  machines := second.machines.trans first.machines
  bootInterfaces := second.bootInterfaces.trans first.bootInterfaces
  subnets := second.subnets.trans first.subnets
  interfaces := by rw [second.interfaces, first.interfaces, relinked_relinked]

theorem Relaid.ids (relaid : Relaid x number links stock after) :
    (after.interfacesOf x).map (·.id) = (stock.interfacesOf x).map (·.id) := by
  rw [relaid.interfaces, relinked, List.map_map]
  refine List.map_congr_left fun other _ => ?_
  dsimp only [Function.comp]
  split <;> rfl

theorem Relaid.mem {other : Interface} (relaid : Relaid x iface.id links stock after)
    (distinct : ((stock.interfacesOf x).map (·.id)).Nodup) (mem : iface ∈ stock.interfacesOf x) :
    other ∈ after.interfacesOf x ↔
      other = { iface with links } ∨ other ∈ stock.interfacesOf x ∧ other.id ≠ iface.id := by
  rw [relaid.interfaces]
  exact mem_relinked distinct mem

/-- The interface whose links are replaced is still found under its number. -/
theorem Relaid.found (relaid : Relaid x iface.id links stock after)
    (distinct : ((stock.interfacesOf x).map (·.id)).Nodup) (mem : iface ∈ stock.interfacesOf x) :
    after.interface x iface.id = .ok { iface with links } := by
  unfold Inventory.interface
  rw [relaid.interfaces, find?_relinked fun _ _ => rfl, find?_number distinct mem]
  simp

theorem Relaid.put (relaid : Relaid x iface.id links stock after)
    (distinct : ((stock.interfacesOf x).map (·.id)).Nodup) (mem : iface ∈ stock.interfacesOf x)
    (later : List Link) :
    Relaid x iface.id later stock (after.putInterface x { iface with links := later }) where
  machines := relaid.machines
  bootInterfaces := relaid.bootInterfaces
  subnets := relaid.subnets
  interfaces := by
    rw [interfacesOf_putInterface, if_pos rfl, relaid.interfaces, replaceFirst_relinked distinct mem]

theorem Relaid.congr {last : Inventory} (relaid : Relaid x number links stock after)
    (alike : SameLayout after last) : Relaid x number links stock last where
  machines := alike.machines.trans relaid.machines
  bootInterfaces := alike.bootInterfaces.trans relaid.bootInterfaces
  subnets := alike.subnets.trans relaid.subnets
  interfaces := (interfacesOf_congr alike.interfaces x).trans relaid.interfaces

theorem resolveSubnet_congr (same : after.subnets = stock.subnets) (specifier : String) :
    after.resolveSubnet specifier = stock.resolveSubnet specifier := by
  unfold Inventory.resolveSubnet
  rw [same]

/-- Unlinking takes the link away. -/
theorem Relaid.unlink {region last : Region} {value : Interface}
    (relaid : Relaid x iface.id links stock region.inventory)
    (distinct : ((stock.interfacesOf x).map (·.id)).Nodup) (mem : iface ∈ stock.interfacesOf x)
    (answers : region.answer (.unlinkSubnet x iface.id linkId) = (.ok value, last)) :
    Relaid x iface.id (withoutLink links linkId) stock last.inventory := by
  have found := relaid.found distinct mem
  simp only [answer, unlinkSubnet, tally, found] at answers
  split at answers
  · cases answers
  · next link first =>
      cases answers
      rw [erase_eq_withoutLink first]
      refine (relaid.put distinct mem _).congr ⟨?_, ?_, ?_, ?_⟩
      all_goals split <;> rfl

/-- Linking adds a link on the subnet that the specifier names. -/
theorem Relaid.link {region last : Region} {value : Interface}
    (relaid : Relaid x iface.id links stock region.inventory)
    (distinct : ((stock.interfacesOf x).map (·.id)).Nodup) (mem : iface ∈ stock.interfacesOf x)
    (answers : region.answer (.linkSubnet x iface.id params) = (.ok value, last)) :
    ∃ subnet linkId, stock.resolveSubnet params.subnet = some subnet ∧
      Relaid x iface.id (links ++ [⟨linkId, params.mode, some subnet, params.ipAddress⟩]) stock
        last.inventory := by
  have found := relaid.found distinct mem
  have resolves := resolveSubnet_congr relaid.subnets params.subnet
  simp only [answer, linkSubnet, tally, drawId, found, resolves] at answers
  split at answers
  · cases answers
  · next subnet named =>
      cases answers
      refine ⟨subnet, region.nextId, named, (relaid.put distinct mem _).congr ⟨?_, ?_, ?_, ?_⟩⟩
      all_goals split <;> rfl

theorem sameLayout_refl (stock : Inventory) : SameLayout stock stock := ⟨rfl, rfl, rfl, rfl⟩

theorem SameLayout.trans {last : Inventory} (first : SameLayout stock after) (second : SameLayout after last) :
    SameLayout stock last where
  machines := second.machines.trans first.machines
  bootInterfaces := second.bootInterfaces.trans first.bootInterfaces
  subnets := second.subnets.trans first.subnets
  interfaces := second.interfaces.trans first.interfaces

theorem sameLayout_releaseIpAddress {region last : Region} {ip : String} {force : Bool} {value : Unit}
    (answers : region.answer (.releaseIpAddress ip force) = (.ok value, last)) :
    SameLayout region.inventory last.inventory := by
  simp only [answer, releaseIpAddress, tally] at answers
  repeat' split at answers
  all_goals cases answers
  exact ⟨rfl, rfl, rfl, rfl⟩

end MachineProvisioning.Region
