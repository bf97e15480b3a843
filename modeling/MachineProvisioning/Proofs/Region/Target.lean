import MachineProvisioning.Proofs.Region.Layout

/-! # Where an address is bound

The interface that an address is bound on is chosen from the layout of the machine, and so is the
subnet that is linked. Both choices are made anew by every pass, after the passes before it have
changed the links. What they come to is found by splitting the interfaces at the one that was chosen.
-/

namespace MachineProvisioning.Region

open Maas (Interface Link Subnet)
open StaticIp (Declaration Target linksContaining linkContains carries)
open Net Text

/-- The boot interface of a machine. -/
def Inventory.bootInterface? (stock : Inventory) (x : String) : Option Interface :=
  (stock.bootInterfaces.get? x).bind fun number => (stock.interfacesOf x).find? (·.id == number)

/-- The interface that an address is to be bound on. -/
def Inventory.target (stock : Inventory) (x : String) (ip : Declaration) :
    Except ProvisioningFailure Target :=
  StaticIp.selectTarget (stock.interfacesOf x) ((stock.bootInterface? x).map (·.id)) ip

/-- A link of the interface is on a subnet that contains the address. -/
def reaches (address : Address) (iface : Interface) : Bool :=
  !(linksContaining iface address).isEmpty

variable {stock after : Inventory} {x : String} {ip : Declaration} {address : Address}
  {iface chosen : Interface} {links : List Link} {target : Target}

theorem reaches_iff : reaches address iface = true ↔
    ∃ link ∈ iface.links, linkContains address link = true := by
  unfold reaches linksContaining
  rw [Bool.not_eq_true', List.isEmpty_eq_false_iff_exists_mem]
  simp only [List.mem_filter]

/-- The interface is the one that is named, or the first one that reaches the address, or none does
    and it is the boot interface. -/
inductive Chosen (stock : Inventory) (x : String) (ip : Declaration) (iface : Interface) : Prop where
  | named (name : String) (names : ip.interface = some name)
      (found : (stock.interfacesOf x).find? (·.name == name) = some iface)
  | first (unnamed : ip.interface = none)
      (found : (stock.interfacesOf x).find? (reaches ip.address) = some iface)
  | boot (unnamed : ip.interface = none)
      (bare : (stock.interfacesOf x).find? (reaches ip.address) = none)
      (found : stock.bootInterface? x = some iface)

theorem find?_bootInterface (found : stock.bootInterface? x = some iface) :
    (stock.interfacesOf x).find? (·.id == iface.id) = some iface := by
  obtain ⟨number, -, found⟩ := Option.bind_eq_some_iff.mp found
  have same : iface.id = number := by simpa using List.find?_some found
  rw [same]
  exact found

theorem target_eq_interface_iff :
    stock.target x ip = .ok (.interface iface) ↔ Chosen stock x ip iface := by
  have boots : ((stock.bootInterface? x).map (·.id)).bind
      (fun number => (stock.interfacesOf x).find? (·.id == number)) = stock.bootInterface? x := by
    cases found : stock.bootInterface? x with
    | none => rfl
    | some boot => exact find?_bootInterface found
  unfold Inventory.target StaticIp.selectTarget
  rw [boots]
  constructor
  · intro chosen
    split at chosen
    · next name names =>
        split at chosen
        · next found =>
            cases chosen
            exact .named name names found
        · cases chosen
    · next unnamed =>
        split at chosen
        · next found =>
            cases chosen
            exact .first unnamed found
        · next bare =>
            split at chosen
            · next found =>
                cases chosen
                exact .boot unnamed bare found
            · cases chosen
  · intro chosen
    cases chosen with
    | named name names found => simp only [names, found]
    | first unnamed found =>
        unfold reaches at found
        simp only [unnamed, found]
    | boot unnamed bare found =>
        unfold reaches at bare
        simp only [unnamed, bare, found]

theorem Chosen.mem (chosen : Chosen stock x ip iface) : iface ∈ stock.interfacesOf x := by
  cases chosen with
  | named name names found => exact List.mem_of_find?_eq_some found
  | first unnamed found => exact List.mem_of_find?_eq_some found
  | boot unnamed bare found => exact List.mem_of_find?_eq_some (find?_bootInterface found)

/-- MAAS knows no boot interface when the choice is left to it. -/
theorem bootless_of_target (chosen : stock.target x ip = .ok .boot) : stock.bootInterface? x = none := by
  cases found : stock.bootInterface? x with
  | none => rfl
  | some boot =>
      have listed := find?_bootInterface found
      unfold Inventory.target StaticIp.selectTarget at chosen
      simp only [found, Option.map_some, Option.bind_some, listed] at chosen
      repeat' split at chosen
      all_goals cases chosen

theorem bindBootInterface_refused {region last : Region} {params : Maas.LinkParams} {value : Interface}
    (bootless : region.inventory.bootInterface? x = none) :
    region.answer (.bindBootInterface x params) ≠ (.ok value, last) := by
  intro answers
  simp only [answer, bindBootInterface, linkSubnet, tally, drawId] at answers
  split at answers
  · cases answers
  · next number boots =>
      have missing : (region.inventory.interfacesOf x).find? (·.id == number) = none := by
        simpa [Inventory.bootInterface?, boots] using bootless
      simp only [Inventory.interface, missing] at answers
      split at answers
      all_goals cases answers

/-- Of interfaces with numbers of their own, the first to reach the address is one whose links have
    been replaced, when none before it does. -/
theorem find?_relinked_split {p : Interface → Bool} {before rest : List Interface}
    (distinct : ((before ++ iface :: rest).map (·.id)).Nodup) (bare : ∀ other ∈ before, p other = false)
    (hits : p { iface with links } = true) :
    (relinked iface.id links (before ++ iface :: rest)).find? p = some { iface with links } := by
  rw [relinked_split distinct]
  exact List.find?_eq_some_iff_append.mpr ⟨hits, before, _, rfl, fun other mem => by simp [bare other mem]⟩

/-- The interface is chosen again with other links, if it is named or still reaches the address. -/
theorem Chosen.again (chosen : Chosen stock x ip iface)
    (distinct : ((stock.interfacesOf x).map (·.id)).Nodup) (relaid : Relaid x iface.id links stock after)
    (keeps : ip.interface ≠ none ∨ reaches ip.address { iface with links } = true) :
    Chosen after x ip { iface with links } := by
  -- Whichever way it was chosen without a name, no interface before it reaches the address.
  have again : ∀ before rest, stock.interfacesOf x = before ++ iface :: rest →
      (∀ other ∈ before, reaches ip.address other = false) → ip.interface = none →
        Chosen after x ip { iface with links } := by
    intro before rest split bare unnamed
    refine .first unnamed ?_
    rw [split] at distinct
    rw [relaid.interfaces, split]
    exact find?_relinked_split distinct bare (keeps.resolve_left fun named => named unnamed)
  cases chosen with
  | named name names found =>
      refine .named name names ?_
      rw [relaid.interfaces, find?_relinked fun _ _ => rfl, found]
      simp
  | first unnamed found =>
      obtain ⟨-, before, rest, split, bare⟩ := List.find?_eq_some_iff_append.mp found
      exact again before rest split (fun other mem => by simpa using bare other mem) unnamed
  | boot unnamed bare found =>
      have mem := List.mem_of_find?_eq_some (find?_bootInterface found)
      obtain ⟨before, rest, split⟩ := List.append_of_mem mem
      have none : ∀ other ∈ stock.interfacesOf x, reaches ip.address other = false := fun other mem => by
        simpa using List.find?_eq_none.mp bare other mem
      exact again before rest split (fun other mem => none other (by simp [split, mem])) unnamed

/-- No other interface reaches the address, and it is the boot interface. -/
structure SoleChoice (stock : Inventory) (x : String) (address : Address) (iface : Interface) : Prop where
  others : ∀ other ∈ stock.interfacesOf x, other.id ≠ iface.id → reaches address other = false
  boots : stock.bootInterfaces.get? x = some iface.id

/-- An interface that does not reach the address any more is chosen again just when there is no other
    choice. -/
theorem Chosen.same_iff (again : Chosen after x ip chosen) (unnamed : ip.interface = none)
    (distinct : ((stock.interfacesOf x).map (·.id)).Nodup) (mem : iface ∈ stock.interfacesOf x)
    (relaid : Relaid x iface.id links stock after)
    (bare : reaches ip.address { iface with links } = false) :
    chosen.id = iface.id ↔ SoleChoice stock x ip.address iface := by
  constructor
  · intro same
    have own : chosen = { iface with links } := by
      rcases (relaid.mem distinct mem).mp again.mem with own | ⟨-, differs⟩
      · exact own
      · exact absurd same differs
    cases again with
    | named name names found => exact absurd unnamed (by simp [names])
    | first unnamed found =>
        have hits := List.find?_some found
        rw [own, bare] at hits
        cases hits
    | boot unnamed none found =>
        refine ⟨fun other listed differs => ?_, ?_⟩
        · have kept := (relaid.mem distinct mem).mpr (.inr ⟨listed, differs⟩)
          simpa using List.find?_eq_none.mp none other kept
        · obtain ⟨number, boots, first⟩ := Option.bind_eq_some_iff.mp found
          have booted : chosen.id = number := by simpa using List.find?_some first
          rw [← relaid.bootInterfaces, boots, ← booted, same]
  · rintro ⟨others, boots⟩
    have none : ∀ other ∈ after.interfacesOf x, reaches ip.address other = false := by
      intro other listed
      rcases (relaid.mem distinct mem).mp listed with rfl | ⟨listed, differs⟩
      · exact bare
      · exact others other listed differs
    cases again with
    | named name names found => exact absurd unnamed (by simp [names])
    | first unnamed found =>
        have hits := List.find?_some found
        rw [none chosen (List.mem_of_find?_eq_some found)] at hits
        cases hits
    | boot unnamed _ found =>
        obtain ⟨number, booted, first⟩ := Option.bind_eq_some_iff.mp found
        rw [relaid.bootInterfaces, boots] at booted
        cases booted
        simpa using List.find?_some first

/-- After the links of the chosen interface have been replaced, the choice falls on it again just when it
    is named, still reaches the address, or is the only choice there is. -/
theorem Chosen.again_iff (first : Chosen stock x ip iface) (again : Chosen after x ip chosen)
    (distinct : ((stock.interfacesOf x).map (·.id)).Nodup) (relaid : Relaid x iface.id links stock after) :
    chosen.id = iface.id ↔ ip.interface ≠ none ∨ reaches ip.address { iface with links } = true ∨
      SoleChoice stock x ip.address iface := by
  by_cases keeps : ip.interface ≠ none ∨ reaches ip.address { iface with links } = true
  · have own : chosen = { iface with links } := by
      have same := (target_eq_interface_iff.mpr again).symm.trans
        (target_eq_interface_iff.mpr (first.again distinct relaid keeps))
      simpa using same
    refine iff_of_true (by rw [own]) ?_
    exact keeps.imp_right .inl
  · obtain ⟨unnamed, bare⟩ := not_or.mp keeps
    rw [not_not] at unnamed
    rw [again.same_iff unnamed distinct first.mem relaid (by simpa using bare)]
    simp [unnamed, bare]

/-- Without a name, something is always chosen. -/
theorem exists_target (unnamed : ip.interface = none) : ∃ target, stock.target x ip = .ok target := by
  unfold Inventory.target StaticIp.selectTarget
  simp only [unnamed]
  split
  · exact ⟨_, rfl⟩
  · split
    · exact ⟨_, rfl⟩
    · exact ⟨_, rfl⟩

/-- When an interface has been chosen, something is chosen after its links have been replaced. -/
theorem Chosen.exists_again (first : Chosen stock x ip iface)
    (distinct : ((stock.interfacesOf x).map (·.id)).Nodup) (relaid : Relaid x iface.id links stock after) :
    ∃ target, after.target x ip = .ok target := by
  by_cases unnamed : ip.interface = none
  · exact exists_target unnamed
  · exact ⟨_, target_eq_interface_iff.mpr (first.again distinct relaid (.inl unnamed))⟩

/-- The subnet that binding the address links. -/
def Inventory.bindingSubnet? (stock : Inventory) (x : String) (ip : Declaration) : Option Subnet :=
  stock.resolveSubnet (StaticIp.subnetSpecifier (stock.interfacesOf x) ip)

/-- The links of a machine show the subnets as they are registered. -/
def Inventory.Registers (stock : Inventory) (x : String) : Prop :=
  ∀ iface ∈ stock.interfacesOf x, ∀ link ∈ iface.links, ∀ subnet ∈ link.subnet,
    stock.subnets.get? subnet.id = some subnet

instance (stock : Inventory) (x : String) : Decidable (stock.Registers x) :=
  inferInstanceAs (Decidable (∀ iface ∈ stock.interfacesOf x, ∀ link ∈ iface.links,
    ∀ subnet ∈ link.subnet, stock.subnets.get? subnet.id = some subnet))

theorem dropLead_decimal {lead : Char} {rest : List Char} (letter : lead.isDigit = false) (n : Nat) :
    dropLead (lead :: rest) (decimal n).toList = none := by
  rw [Option.eq_none_iff_forall_ne_some]
  intro tail drops
  have text := dropLead_eq_some_iff.mp drops
  exact (isNumeral_decimal n).not_mem letter (text ▸ .head _)

/-- The number of a subnet names it. -/
theorem resolveSubnet_decimal {number : UInt64} {subnet : Subnet}
    (registered : stock.subnets.get? number = some subnet) :
    stock.resolveSubnet (decimal number.toNat) = some subnet := by
  have fits : number.toNat ≤ maxWord64 := by
    have small := number.toNat_lt
    have word : maxWord64 = 2 ^ 64 - 1 := rfl
    omega
  have noCidr : dropLead "cidr:".toList (decimal number.toNat).toList = none := dropLead_decimal rfl _
  have noName : dropLead "name:".toList (decimal number.toNat).toList = none := dropLead_decimal rfl _
  unfold Inventory.resolveSubnet
  simp only [noCidr, noName, Option.getD_none, readUnsigned?_decimal fits, Option.bind_some,
    UInt64.ofNat_toNat, registered, Option.some_or]

theorem resolveSubnet_cidr (stock : Inventory) (cidr : String) :
    stock.resolveSubnet ("cidr:" ++ cidr) = stock.subnets.values.find? (·.cidr == cidr) := by
  have drops : dropLead "cidr:".toList ("cidr:" ++ cidr).toList = some cidr.toList :=
    dropLead_eq_some_iff.mpr (by simp)
  unfold Inventory.resolveSubnet
  simp only [drops, String.ofList_toList]

/-- The subnet is in a block that contains the address. -/
def Holds (address : Address) (subnet : Subnet) : Prop :=
  ∃ block, StaticIp.blockOf? subnet.cidr = some block ∧ block.contains address = true

theorem linkContains_iff {link : Link} : linkContains address link = true ↔
    ∃ subnet, link.subnet = some subnet ∧ Holds address subnet := by
  unfold linkContains StaticIp.linkBlock? Holds
  cases link.subnet with
  | none => simp
  | some subnet =>
      simp only [Option.bind_some, Option.some.injEq, exists_eq_left']
      cases StaticIp.blockOf? subnet.cidr <;> simp

/-- The specifier is the number of the subnet of a link that contains the address, or the declared
    block when no interface reaches it. -/
theorem subnetSpecifier_cases (interfaces : List Interface) (ip : Declaration) :
    (∃ iface ∈ interfaces, ∃ link ∈ iface.links, ∃ subnet, link.subnet = some subnet ∧
      Holds ip.address subnet ∧
        StaticIp.subnetSpecifier interfaces ip = decimal subnet.id.toNat) ∨
    (∀ other ∈ interfaces, reaches ip.address other = false) ∧
      StaticIp.subnetSpecifier interfaces ip = "cidr:" ++ ip.network.toText := by
  have known : ∀ link ∈ interfaces.flatMap (linksContaining · ip.address),
      ∃ iface ∈ interfaces, link ∈ iface.links ∧ linkContains ip.address link = true := by
    intro link mem
    obtain ⟨iface, listed, mem⟩ := List.mem_flatMap.mp mem
    exact ⟨iface, listed, List.mem_filter.mp mem⟩
  unfold StaticIp.subnetSpecifier
  extract_lets links
  split
  · next subnet found =>
      obtain ⟨link, mem, shows⟩ := List.exists_of_findSome?_eq_some found
      obtain ⟨iface, listed, linked, contains⟩ := known link mem
      obtain ⟨other, same, holds⟩ := linkContains_iff.mp contains
      cases shows.symm.trans same
      exact .inl ⟨iface, listed, link, linked, subnet, shows, holds, rfl⟩
  · next unknown =>
      refine .inr ⟨fun other listed => ?_, rfl⟩
      rw [Bool.eq_false_iff]
      intro hits
      obtain ⟨link, linked, contains⟩ := reaches_iff.mp hits
      obtain ⟨subnet, shows, -⟩ := linkContains_iff.mp contains
      have mem : link ∈ links :=
        List.mem_flatMap.mpr ⟨other, listed, List.mem_filter.mpr ⟨linked, contains⟩⟩
      rw [List.findSome?_eq_none_iff.mp unknown link mem] at shows
      cases shows

theorem block_of_cidr {declared : Resource.StaticIpSpec} {subnet : Subnet}
    (valid : StaticIp.validate declared = .ok ip)
    (names : stock.resolveSubnet ("cidr:" ++ ip.network.toText) = some subnet) :
    StaticIp.blockOf? subnet.cidr = some ip.network := by
  rw [resolveSubnet_cidr] at names
  have cidr : subnet.cidr = ip.network.toText := by simpa using List.find?_some names
  rw [cidr]
  exact StaticIp.blockOf?_toText (StaticIp.network_of_validate valid).1

/-- The subnet that is linked contains the address. -/
theorem holds_bindingSubnet {declared : Resource.StaticIpSpec} {subnet : Subnet}
    (valid : StaticIp.validate declared = .ok ip) (registers : stock.Registers x)
    (names : stock.bindingSubnet? x ip = some subnet) : Holds ip.address subnet := by
  unfold Inventory.bindingSubnet? at names
  rcases subnetSpecifier_cases (stock.interfacesOf x) ip with
    ⟨iface, listed, link, linked, known, shows, holds, specifier⟩ | ⟨-, specifier⟩
  · rw [specifier, resolveSubnet_decimal (registers iface listed link linked known shows)] at names
    cases names
    exact holds
  · rw [specifier] at names
    exact ⟨ip.network, block_of_cidr valid names, (StaticIp.network_of_validate valid).2⟩

theorem isBound_iff : StaticIp.isBound iface ip = true ↔
    ∃ link ∈ iface.links, linkContains ip.address link = true ∧ carries ip.address link = true ∧
      (ip.explicitCidr = true → StaticIp.linkBlock? link = some ip.network) := by
  unfold StaticIp.isBound linksContaining
  cases ip.explicitCidr <;> simp

/-- An interface to which the address is bound by a new link counts as bound just when the subnet of
    the link is the declared one, if one was declared as such. -/
theorem isBound_append_iff {link : Link} {subnet : Subnet}
    (unbound : ¬StaticIp.isBound iface ip = true) (kept : links.Sublist iface.links)
    (shows : link.subnet = some subnet) (holds : Holds ip.address subnet)
    (carried : carries ip.address link = true) :
    StaticIp.isBound { iface with links := links ++ [link] } ip = true ↔
      (ip.explicitCidr = true → StaticIp.blockOf? subnet.cidr = some ip.network) := by
  have contains : linkContains ip.address link = true := linkContains_iff.mpr ⟨subnet, shows, holds⟩
  have block : StaticIp.linkBlock? link = StaticIp.blockOf? subnet.cidr := by
    simp [StaticIp.linkBlock?, shows]
  rw [isBound_iff]
  constructor
  · rintro ⟨other, mem, within, carriesIt, declared⟩
    rcases List.mem_append.mp mem with old | new
    · exact absurd (isBound_iff.mpr ⟨other, kept.subset old, within, carriesIt, declared⟩) unbound
    · cases List.mem_singleton.mp new
      rw [← block]
      exact declared
  · intro declared
    exact ⟨link, List.mem_append_right _ (.head _), contains, carried, fun cidr => block ▸ declared cidr⟩

theorem Inventory.Registers.relaid (registers : stock.Registers x)
    (distinct : ((stock.interfacesOf x).map (·.id)).Nodup) (mem : iface ∈ stock.interfacesOf x)
    (relaid : Relaid x iface.id links stock after) (kept : links.Sublist iface.links) :
    after.Registers x := by
  intro other listed link linked subnet shows
  rw [relaid.subnets]
  rcases (relaid.mem distinct mem).mp listed with rfl | ⟨listed, -⟩
  · exact registers iface mem link (kept.subset linked) subnet shows
  · exact registers other listed link linked subnet shows

/-- An interface of this number reaches the address. -/
def Inventory.ReachesOn (stock : Inventory) (x : String) (number : UInt64) (address : Address) : Prop :=
  ∃ iface ∈ stock.interfacesOf x, iface.id = number ∧ reaches address iface = true

/-- An interface of this number has a static link with the address, on a subnet that contains it. -/
def Inventory.BearsOn (stock : Inventory) (x : String) (number : UInt64) (address : Address) : Prop :=
  ∃ iface ∈ stock.interfacesOf x, iface.id = number ∧
    ∃ link ∈ iface.links, linkContains address link = true ∧ carries address link = true

instance (stock : Inventory) (x : String) (number : UInt64) (address : Address) :
    Decidable (stock.BearsOn x number address) :=
  inferInstanceAs (Decidable (∃ iface ∈ stock.interfacesOf x, iface.id = number ∧
    ∃ link ∈ iface.links, linkContains address link = true ∧ carries address link = true))

theorem Inventory.BearsOn.reachesOn {number : UInt64} (bears : stock.BearsOn x number address) :
    stock.ReachesOn x number address := by
  obtain ⟨iface, listed, numbered, link, linked, contains, -⟩ := bears
  exact ⟨iface, listed, numbered, reaches_iff.mpr ⟨link, linked, contains⟩⟩

theorem Relaid.reachesOn_iff (relaid : Relaid x iface.id links stock after)
    (distinct : ((stock.interfacesOf x).map (·.id)).Nodup) (mem : iface ∈ stock.interfacesOf x) :
    after.ReachesOn x iface.id address ↔ reaches address { iface with links } = true := by
  constructor
  · rintro ⟨other, listed, numbered, hits⟩
    rcases (relaid.mem distinct mem).mp listed with rfl | ⟨-, differs⟩
    · exact hits
    · exact absurd numbered differs
  · intro hits
    exact ⟨_, (relaid.mem distinct mem).mpr (.inl rfl), rfl, hits⟩

/-- Replacing the links of an interface leaves what the others bear. -/
theorem Relaid.bearsOn_iff {number : UInt64} (relaid : Relaid x iface.id links stock after)
    (distinct : ((stock.interfacesOf x).map (·.id)).Nodup) (mem : iface ∈ stock.interfacesOf x)
    (differs : number ≠ iface.id) :
    after.BearsOn x number address ↔ stock.BearsOn x number address := by
  refine exists_congr fun other => ?_
  constructor
  · rintro ⟨listed, rfl, bears⟩
    rcases (relaid.mem distinct mem).mp listed with rfl | ⟨listed, -⟩
    · exact absurd rfl differs
    · exact ⟨listed, rfl, bears⟩
  · rintro ⟨listed, rfl, bears⟩
    exact ⟨(relaid.mem distinct mem).mpr (.inr ⟨listed, differs⟩), rfl, bears⟩

theorem bearsOn_of_isBound (listed : iface ∈ stock.interfacesOf x)
    (bound : StaticIp.isBound iface ip = true) : stock.BearsOn x iface.id ip.address := by
  obtain ⟨link, linked, contains, carries, -⟩ := isBound_iff.mp bound
  exact ⟨iface, listed, rfl, link, linked, contains, carries⟩

/-- A link that bears the address adds the interface to those that bear it. -/
theorem Relaid.bearsOn_append_iff {link : Link} {number : UInt64}
    (relaid : Relaid x iface.id (links ++ [link]) stock after)
    (distinct : ((stock.interfacesOf x).map (·.id)).Nodup) (mem : iface ∈ stock.interfacesOf x)
    (contains : linkContains address link = true) (carried : carries address link = true) :
    after.BearsOn x number address ↔ number = iface.id ∨ stock.BearsOn x number address := by
  by_cases own : number = iface.id
  · refine iff_of_true ?_ (.inl own)
    exact ⟨_, (relaid.mem distinct mem).mpr (.inl rfl), own.symm, link,
      List.mem_append_right _ (.head _), contains, carried⟩
  · rw [relaid.bearsOn_iff distinct mem own]
    simp [own]

end MachineProvisioning.Region
