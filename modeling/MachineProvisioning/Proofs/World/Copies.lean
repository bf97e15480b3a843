import MachineProvisioning.Proofs.World.Rebinding

/-! # Copies of an address

A pass that binds an address edits the chosen interface alone. Of the links there that are on subnets
which contain the address it takes away those that do not bind it. Whatever else carries the address
stays: a link of another interface, or one on a subnet that does not contain it. So the address ends up
on one link just when every link that carried it before was one of those to be replaced.
-/

namespace MachineProvisioning

open Resource (Key StaticIpSpec)
open Lifecycle (State)
open Maas (Machine Interface Link Subnet)
open StaticIp (Declaration Target isBound linkContains carries)
open Engine

namespace StaticIp

/-- The link has the address, whatever its mode. -/
def bears (address : Net.Address) (link : Link) : Bool :=
  link.ipAddress.bind Net.Address.ofText? == some address

theorem carries_iff {address : Net.Address} {link : Link} :
    carries address link = true ↔ link.mode = .static ∧ bears address link = true := by
  simp [carries, bears]

end StaticIp

namespace Region

open StaticIp (bears carries_iff)

variable {kept : List Link} {iface : Interface} {interfaces : List Interface} {address : Net.Address}

/-- The links that have the address, each with the number of its interface. -/
def copiesOn (address : Net.Address) (interfaces : List Interface) : List (UInt64 × Link) :=
  interfaces.flatMap fun iface => (iface.links.filter (bears address)).map (iface.id, ·)

/-- The links of a machine that have the address. -/
def Inventory.copies (stock : Inventory) (x : String) (address : Net.Address) :
    List (UInt64 × Link) :=
  copiesOn address (stock.interfacesOf x)

/-- One link of the machine has the address, and it is a static one of the interface of this number. -/
def Inventory.SoleCopy (stock : Inventory) (x : String) (address : Net.Address) (number : UInt64) :
    Prop :=
  ∃ link, stock.copies x address = [(number, link)] ∧ link.mode = .static

theorem mem_copiesOn {number : UInt64} {link : Link} : (number, link) ∈ copiesOn address interfaces ↔
    ∃ iface ∈ interfaces, iface.id = number ∧ link ∈ iface.links ∧ bears address link = true := by
  simp only [copiesOn, List.mem_flatMap, List.mem_map, List.mem_filter, Prod.mk.injEq]
  constructor
  · rintro ⟨iface, listed, other, ⟨mem, has⟩, same, rfl⟩
    exact ⟨iface, listed, same, mem, has⟩
  · rintro ⟨iface, listed, same, mem, has⟩
    exact ⟨iface, listed, link, ⟨mem, has⟩, same, rfl⟩

theorem copiesOn_append (first last : List Interface) :
    copiesOn address (first ++ last) = copiesOn address first ++ copiesOn address last :=
  List.flatMap_append

theorem copiesOn_cons (iface : Interface) (rest : List Interface) :
    copiesOn address (iface :: rest) =
      (iface.links.filter (bears address)).map (iface.id, ·) ++ copiesOn address rest :=
  List.flatMap_cons

/-- Interfaces without the number have no copies on it but when they have none. -/
theorem copiesOn_eq_nil_iff {number : UInt64} (absent : number ∉ interfaces.map (·.id)) :
    copiesOn address interfaces = [] ↔ ∀ copy ∈ copiesOn address interfaces, copy.1 = number := by
  constructor
  · intro none copy mem
    rw [none] at mem
    cases mem
  · intro own
    refine List.eq_nil_iff_forall_not_mem.mpr fun copy mem => absent ?_
    obtain ⟨iface, listed, same, -⟩ := mem_copiesOn.mp mem
    rw [← own copy mem, ← same]
    exact List.mem_map_of_mem listed

theorem eq_singleton_iff_bare {α : Type} {before kept rest : List α} {a : α} :
    before ++ (kept ++ [a] ++ rest) = [a] ↔ before = [] ∧ kept = [] ∧ rest = [] := by
  constructor
  · intro same
    have lengths := congrArg List.length same
    simp only [List.length_append, List.length_singleton] at lengths
    refine ⟨?_, ?_, ?_⟩
    all_goals exact List.length_eq_zero_iff.mp (by omega)
  · rintro ⟨rfl, rfl, rfl⟩
    rfl

/-- When a link with the address is added to an interface, it is the only one just when no other
    interface has the address and no link that is kept does. -/
theorem copiesOn_relinked_iff {link : Link} (distinct : (interfaces.map (·.id)).Nodup)
    (mem : iface ∈ interfaces) (has : bears address link = true) :
    copiesOn address (relinked iface.id (kept ++ [link]) interfaces) = [(iface.id, link)] ↔
      (∀ copy ∈ copiesOn address interfaces, copy.1 = iface.id) ∧
        ∀ other ∈ kept, bears address other = false := by
  obtain ⟨before, rest, rfl⟩ := List.append_of_mem mem
  have others : iface.id ∉ before.map (·.id) ∧ iface.id ∉ rest.map (·.id) := by
    rw [List.map_append, List.map_cons] at distinct
    exact ⟨fun mem => List.disjoint_of_nodup_append distinct mem (.head _),
      (List.nodup_cons.mp distinct.of_append_right).1⟩
  rw [relinked_split distinct, copiesOn_append, copiesOn_cons]
  simp only [List.filter_append, List.filter_singleton, has, List.map_append, cond_true,
    List.map_singleton]
  rw [eq_singleton_iff_bare, copiesOn_eq_nil_iff others.1, copiesOn_eq_nil_iff others.2,
    copiesOn_append, copiesOn_cons]
  simp only [List.map_eq_nil_iff, List.filter_eq_nil_iff, List.mem_append, List.mem_map]
  constructor
  · rintro ⟨first, bare, last⟩
    refine ⟨?_, fun other mem => by simpa using bare other mem⟩
    rintro copy (mem | ⟨link, -, rfl⟩ | mem)
    · exact first copy mem
    · rfl
    · exact last copy mem
  · rintro ⟨own, bare⟩
    exact ⟨fun copy mem => own copy (.inl mem), fun other mem => by simp [bare other mem],
      fun copy mem => own copy (.inr (.inr mem))⟩

variable {stock after : Inventory} {x : String} {ip : Declaration}

/-- No link of the interface binds the address on a subnet that contains it. -/
def Unlinked (iface : Interface) (ip : Declaration) : Prop :=
  ∀ link ∈ iface.links, linkContains ip.address link = true → carries ip.address link = false

instance (iface : Interface) (ip : Declaration) : Decidable (Unlinked iface ip) :=
  inferInstanceAs (Decidable (∀ link ∈ iface.links, _ → _))

theorem mem_freed {link : Link} (numbered : (iface.links.map (·.id)).Nodup)
    (unlinked : Unlinked iface ip) : link ∈ World.freed iface ip ↔
      link ∈ iface.links ∧ linkContains ip.address link = false := by
  unfold World.freed
  rw [mem_withoutLinks numbered]
  refine and_congr_right fun mem => ?_
  rw [← Bool.not_eq_true, not_iff_not]
  unfold linksInTheWay StaticIp.linksContaining
  constructor
  · intro removed
    obtain ⟨other, way, same⟩ := List.mem_map.mp removed
    obtain ⟨within, -⟩ := List.mem_filter.mp way
    obtain ⟨listed, contains⟩ := List.mem_filter.mp within
    rw [← List.inj_on_of_nodup_map numbered listed mem same]
    exact contains
  · intro contains
    refine List.mem_map_of_mem (List.mem_filter.mpr ⟨List.mem_filter.mpr ⟨mem, contains⟩, ?_⟩)
    simpa using unlinked link mem contains

/-- A bound interface has the only link with the address just when there is one such link. -/
theorem soleCopy_iff_of_isBound (mem : iface ∈ stock.interfacesOf x) (bound : isBound iface ip = true) :
    stock.SoleCopy x ip.address iface.id ↔ (stock.copies x ip.address).length = 1 := by
  obtain ⟨link, linked, -, carried, -⟩ := isBound_iff.mp bound
  obtain ⟨mode, has⟩ := carries_iff.mp carried
  have copy : (iface.id, link) ∈ stock.copies x ip.address :=
    mem_copiesOn.mpr ⟨iface, mem, rfl, linked, has⟩
  constructor
  · rintro ⟨only, same, -⟩
    rw [same]
    rfl
  · intro one
    obtain ⟨only, same⟩ := List.length_eq_one_iff.mp one
    rw [same, List.mem_singleton] at copy
    exact ⟨link, copy ▸ same, mode⟩

/-- An interface that gets the address has the only link with it just when every link that had it was
    on this interface and on a subnet that contains it. -/
theorem soleCopy_iff_of_relaid {link : Link} (distinct : ((stock.interfacesOf x).map (·.id)).Nodup)
    (numbered : (iface.links.map (·.id)).Nodup) (mem : iface ∈ stock.interfacesOf x)
    (unlinked : Unlinked iface ip) (carried : carries ip.address link = true)
    (relaid : Relaid x iface.id (World.freed iface ip ++ [link]) stock after) :
    after.SoleCopy x ip.address iface.id ↔ ∀ copy ∈ stock.copies x ip.address,
      copy.1 = iface.id ∧ linkContains ip.address copy.2 = true := by
  obtain ⟨mode, has⟩ := carries_iff.mp carried
  have only : after.SoleCopy x ip.address iface.id ↔
      after.copies x ip.address = [(iface.id, link)] := by
    have added : (iface.id, link) ∈ after.copies x ip.address :=
      mem_copiesOn.mpr ⟨_, (relaid.mem distinct mem).mpr (.inl rfl), rfl, by simp, has⟩
    constructor
    · rintro ⟨other, same, -⟩
      rw [same, List.mem_singleton] at added
      rw [same, added]
    · exact fun same => ⟨link, same, mode⟩
  rw [only]
  unfold Inventory.copies
  rw [relaid.interfaces, copiesOn_relinked_iff distinct mem has]
  constructor
  · rintro ⟨own, bare⟩ ⟨number, other⟩ copy
    obtain ⟨holder, listed, rfl, linked, bears⟩ := mem_copiesOn.mp copy
    obtain rfl := List.inj_on_of_nodup_map distinct listed mem (own _ copy)
    refine ⟨rfl, ?_⟩
    by_contra beyond
    have stays := (mem_freed numbered unlinked).mpr ⟨linked, by simpa using beyond⟩
    rw [bare other stays] at bears
    cases bears
  · intro replaced
    refine ⟨fun copy copied => (replaced copy copied).1, fun other stays => ?_⟩
    obtain ⟨linked, beyond⟩ := (mem_freed numbered unlinked).mp stays
    rw [Bool.eq_false_iff]
    intro bears
    have within := (replaced (iface.id, other) (mem_copiesOn.mpr ⟨iface, mem, rfl, linked, bears⟩)).2
    rw [beyond] at within
    cases within

/-- What binding the address on the interface makes of its copies. -/
structure Copied (stock after : Inventory) (x : String) (ip : Declaration) (iface : Interface) : Prop where
  added : ∃ link, (iface.id, link) ∈ after.copies x ip.address ∧ link.mode = .static
  others : ∀ other, other.id ≠ iface.id →
    (other ∈ after.interfacesOf x ↔ other ∈ stock.interfacesOf x)
  again : isBound iface ip = true →
    (after.SoleCopy x ip.address iface.id ↔ (stock.copies x ip.address).length = 1)
  anew : Unlinked iface ip → (after.SoleCopy x ip.address iface.id ↔
    ∀ copy ∈ stock.copies x ip.address, copy.1 = iface.id ∧ linkContains ip.address copy.2 = true)

theorem not_unlinked_of_isBound (bound : isBound iface ip = true) : ¬Unlinked iface ip := by
  obtain ⟨link, linked, contains, carried, -⟩ := isBound_iff.mp bound
  intro unlinked
  rw [unlinked link linked contains] at carried
  cases carried

theorem copied_of_isBound (mem : iface ∈ stock.interfacesOf x) (bound : isBound iface ip = true) :
    Copied stock stock x ip iface where
  added := by
    obtain ⟨link, linked, -, carried, -⟩ := isBound_iff.mp bound
    obtain ⟨mode, has⟩ := carries_iff.mp carried
    exact ⟨link, mem_copiesOn.mpr ⟨iface, mem, rfl, linked, has⟩, mode⟩
  others _ _ := Iff.rfl
  again _ := soleCopy_iff_of_isBound mem bound
  anew unlinked := absurd unlinked (not_unlinked_of_isBound bound)

theorem copied_of_relaid {link : Link} (distinct : ((stock.interfacesOf x).map (·.id)).Nodup)
    (numbered : (iface.links.map (·.id)).Nodup) (mem : iface ∈ stock.interfacesOf x)
    (unbound : ¬isBound iface ip = true) (carried : carries ip.address link = true)
    (relaid : Relaid x iface.id (World.freed iface ip ++ [link]) stock after) :
    Copied stock after x ip iface where
  added := by
    obtain ⟨mode, has⟩ := carries_iff.mp carried
    have held := (relaid.mem distinct mem).mpr (.inl rfl)
    exact ⟨link, mem_copiesOn.mpr ⟨_, held, rfl, List.mem_append_right _ (.head _), has⟩, mode⟩
  others other apart := by
    rw [relaid.mem distinct mem]
    constructor
    · rintro (rfl | ⟨listed, -⟩)
      · exact absurd rfl apart
      · exact listed
    · exact fun listed => .inr ⟨listed, apart⟩
  again bound := absurd bound unbound
  anew unlinked := soleCopy_iff_of_relaid distinct numbered mem unlinked carried relaid

end Region

namespace World

variable {world after : World} {key : Key} {x : String} {declared : StaticIpSpec} {machine : Machine}

/-- A pass that succeeds has read the declaration. -/
theorem valid_of_pass (binds : world.pass (applyStaticIp key x declared) = (.ok (), after)) :
    ∃ ip, StaticIp.validate declared = .ok ip := by
  cases valid : StaticIp.validate declared with
  | ok ip => exact ⟨ip, rfl⟩
  | error fault =>
      have fails : world.pass (applyStaticIp key x declared) = (.error (.staticIp fault), world) := by
        unfold applyStaticIp validated
        rw [valid]
        rfl
      rw [fails] at binds
      cases binds

/-- A pass that binds an address leaves it on a static link of the chosen interface and leaves the other
    interfaces alone. When no other link is kept that has the address, this is the only one. -/
theorem binds_sole_copy_iff (lawful : world.region.Lawful)
    (distinct : ((world.region.inventory.interfacesOf x).map (·.id)).Nodup)
    (numbered : ∀ iface ∈ world.region.inventory.interfacesOf x, (iface.links.map (·.id)).Nodup)
    (stored : world.region.inventory.machines.get? x = some machine)
    (editable : (State.ofText machine.statusName).allowsNetworkEdits = true)
    (binds : world.pass (applyStaticIp key x declared) = (.ok (), after)) :
    ∃ ip iface, StaticIp.validate declared = .ok ip ∧
      world.region.inventory.target x ip = .ok (.interface iface) ∧
        Region.Copied world.region.inventory after.region.inventory x ip iface := by
  obtain ⟨ip, valid⟩ := valid_of_pass binds
  obtain ⟨outcome, -⟩ := outcome_of_pass lawful distinct valid binds
  cases outcome with
  | settled other stored' settled same =>
      cases stored.symm.trans stored'
      cases settled with
      | anywhere untouchable => rw [editable] at untouchable; cases untouchable
      | chosen _ target chosen bound =>
          cases target with
          | boot => exact bound.elim
          | interface iface =>
              refine ⟨ip, iface, valid, chosen, ?_⟩
              rw [same]
              exact Region.copied_of_isBound (Region.target_eq_interface_iff.mp chosen).mem bound
  | bound other _ iface due subnet _ number relaid =>
      have mem := (Region.target_eq_interface_iff.mp due.chosen).mem
      exact ⟨ip, iface, valid, due.chosen, Region.copied_of_relaid distinct (numbered iface mem) mem
        due.unbound (Region.carries_toText rfl rfl) relaid⟩

theorem binds_sole_copy_iff_leased :
    let pass := applyStaticIp ⟨"metal", "worker-0"⟩ "m1" (pinned "10.0.0.0/24")
    let after := (leased.pass pass).2
    ∃ ip iface, StaticIp.validate (pinned "10.0.0.0/24") = .ok ip ∧
      leased.region.inventory.target "m1" ip = .ok (.interface iface) ∧
        Region.Copied leased.region.inventory after.region.inventory "m1" ip iface := by
  intro pass after
  have stored : leased.region.inventory.machines.get? "m1" = some (.idle "m1" "node-7" "Allocated") := by
    decide +kernel
  exact binds_sole_copy_iff lawful_leased (by decide +kernel) (by decide +kernel) stored
    (by decide +kernel) (pass_eq_ok (by decide +kernel))

/-- An address that is bound on one interface and then declared for another is left on both. -/
theorem binds_second_copy :
    let world := doubly "Allocated" managementSubnet workloadSubnet
    let moved := (world.pass (applyStaticIp ⟨"metal", "worker-0"⟩ "m1" (hosted none))).2
    let last := moved.pass (applyStaticIp ⟨"metal", "worker-0"⟩ "m1" (hosted (some "eth0")))
    let address := Net.Address.ofValue .v4 0x0A140032
    StaticIp.addressOf? (hosted (some "eth0")).address = some address ∧
      last.1.toOption.isSome = true ∧
        (last.2.region.inventory.copies "m1" address).map (·.1) = [10, 11] ∧
          ¬∃ number, last.2.region.inventory.SoleCopy "m1" address number := by
  intro world moved last address
  have copies : (last.2.region.inventory.copies "m1" address).map (·.1) = [10, 11] := by decide +kernel
  refine ⟨by decide +kernel, by decide +kernel, copies, ?_⟩
  rintro ⟨number, link, only, -⟩
  rw [only] at copies
  cases copies

end World

end MachineProvisioning
