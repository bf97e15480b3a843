import MachineProvisioning.Engine.Addressing
import MachineProvisioning.Proofs.Region.Target

/-! # The networks of a machine

Whether an interface is on a network is decided by what its links show of their subnets. The subnet
that it is put on when it is not is found by MAAS, from the specifier of the network. These are two
readings of one text.
-/

namespace MachineProvisioning.Region

open Maas (Interface Link Subnet)
open Engine (isOnNetwork)
open Net Text

/-- The interface of this name has a link on the network. -/
def Inventory.On (stock : Inventory) (x name network : String) : Prop :=
  ∃ iface ∈ (stock.interfacesOf x).find? (·.name == name), isOnNetwork network iface = true

/-- The specifier of the network names a subnet of the network. -/
def Inventory.Leads (stock : Inventory) (network : String) : Prop :=
  ∃ subnet ∈ stock.resolveSubnet (Wiring.specifier network), Wiring.subnetMatches subnet network = true

/-- The machine has its first interface on the one network and its second one on the other. -/
structure Inventory.Wired (stock : Inventory) (x management workload : String) : Prop where
  management : stock.On x "eth0" management
  workload : stock.On x "eth1" workload

instance (stock : Inventory) (x name network : String) : Decidable (stock.On x name network) :=
  inferInstanceAs (Decidable (∃ iface ∈ (stock.interfacesOf x).find? (·.name == name),
    isOnNetwork network iface = true))

instance (stock : Inventory) (x management workload : String) :
    Decidable (stock.Wired x management workload) :=
  decidable_of_iff (stock.On x "eth0" management ∧ stock.On x "eth1" workload)
    ⟨fun wired => ⟨wired.1, wired.2⟩, fun wired => ⟨wired.1, wired.2⟩⟩

variable {stock after : Inventory} {x name network : String} {iface : Interface} {links : List Link}
  {subnet : Subnet}

theorem isOnNetwork_iff : isOnNetwork network iface = true ↔
    ∃ link ∈ iface.links, ∃ subnet ∈ link.subnet, Wiring.subnetMatches subnet network = true := by
  unfold isOnNetwork
  rw [List.any_eq_true]
  refine exists_congr fun link => and_congr_right fun _ => ?_
  cases link.subnet <;> simp

theorem on_congr {other : Inventory} (same : (other.interfacesOf x).find? (·.name == name) =
    (stock.interfacesOf x).find? (·.name == name)) : other.On x name network ↔ stock.On x name network := by
  unfold Inventory.On
  rw [same]

theorem wired_congr {management workload : String} (same : after.interfaces = stock.interfaces) :
    after.Wired x management workload ↔ stock.Wired x management workload := by
  have on : ∀ name network, after.On x name network ↔ stock.On x name network := fun name network =>
    on_congr (by rw [interfacesOf_congr same])
  exact ⟨fun wired => ⟨(on _ _).mp wired.1, (on _ _).mp wired.2⟩,
    fun wired => ⟨(on _ _).mpr wired.1, (on _ _).mpr wired.2⟩⟩

theorem on_iff (found : (stock.interfacesOf x).find? (·.name == name) = some iface) :
    stock.On x name network ↔ isOnNetwork network iface = true := by
  simp [Inventory.On, found]

/-- The text of a network that is not a block is read as more than a name: it is marked as a CIDR or a
    name, or is the number of a subnet. -/
def Inventory.Misreads (stock : Inventory) (network : String) : Prop :=
  Block.ofChars? (trimChars network.toList) = none ∧
    ((dropLead "cidr:".toList (trimChars network.toList)).isSome = true ∨
      (dropLead "name:".toList (trimChars network.toList)).isSome = true ∨
        ((readUnsigned? maxWord64 (trimChars network.toList)).bind fun number =>
          stock.subnets.get? (UInt64.ofNat number)).isSome = true)

instance (stock : Inventory) (network : String) : Decidable (stock.Misreads network) :=
  inferInstanceAs (Decidable (_ ∧ (_ ∨ _ ∨ _)))

theorem matches_of_text {cs : List Char} (own : trimChars network.toList = cs)
    (same : subnet.name = String.ofList cs ∨ subnet.cidr = String.ofList cs) :
    Wiring.subnetMatches subnet network = true := by
  unfold Wiring.subnetMatches
  rw [own]
  rcases same with same | same <;> simp [same]

/-- What the specifier names is the network, unless MAAS reads a name as more than that. -/
theorem leads_of_resolves (names : stock.resolveSubnet (Wiring.specifier network) = some subnet)
    (plain : ¬stock.Misreads network) : stock.Leads network := by
  refine ⟨subnet, names, ?_⟩
  unfold Wiring.specifier at names
  unfold Inventory.Misreads at plain
  generalize own : trimChars network.toList = cs at names plain
  simp only at names
  split at names
  · rw [resolveSubnet_cidr] at names
    exact matches_of_text own (.inr (by simpa using List.find?_some names))
  · next unread =>
      have unread : Block.ofChars? cs = none := by simpa using unread
      have plain := not_and.mp plain unread
      simp only [not_or, Option.isSome_iff_ne_none, ne_eq, not_not] at plain
      obtain ⟨noCidr, noName, noNumber⟩ := plain
      unfold Inventory.resolveSubnet at names
      simp only [String.toList_ofList, noCidr, noName, Option.getD_none, noNumber, Option.none_or] at names
      exact matches_of_text own (by simpa using List.find?_some names)

/-- What putting the interface of this name on a network leaves. -/
structure Joined (x name network : String) (stock after : Inventory) : Prop where
  machines : after.machines = stock.machines
  subnets : after.subnets = stock.subnets
  ids : (after.interfacesOf x).map (·.id) = (stock.interfacesOf x).map (·.id)
  resolves : stock.On x name network ∨
    ∃ subnet, stock.resolveSubnet (Wiring.specifier network) = some subnet
  joins : after.On x name network ↔ stock.On x name network ∨ stock.Leads network
  others : ∀ other, other ≠ name →
    (after.interfacesOf x).find? (·.name == other) = (stock.interfacesOf x).find? (·.name == other)

theorem joined_of_on (on : stock.On x name network) : Joined x name network stock stock :=
  ⟨rfl, rfl, rfl, .inl on, by simp [on], fun _ _ => rfl⟩

/-- An interface is put on a network that is not misread. -/
theorem Joined.leads (joined : Joined x name network stock after) (plain : ¬stock.Misreads network) :
    stock.On x name network ∨ stock.Leads network :=
  joined.resolves.imp_right fun ⟨_, names⟩ => leads_of_resolves names plain

theorem Relaid.find?_own (relaid : Relaid x iface.id links stock after)
    (found : (stock.interfacesOf x).find? (·.name == name) = some iface) :
    (after.interfacesOf x).find? (·.name == name) = some { iface with links } := by
  rw [relaid.interfaces, find?_relinked fun _ _ => rfl, found]
  simp

/-- The interface of a name stays as it is when the links of another one are replaced. -/
theorem Relaid.find?_apart {other : Interface} (relaid : Relaid x iface.id links stock after)
    (found : (stock.interfacesOf x).find? (·.name == name) = some other) (apart : other.id ≠ iface.id) :
    (after.interfacesOf x).find? (·.name == name) = (stock.interfacesOf x).find? (·.name == name) := by
  rw [relaid.interfaces, find?_relinked fun _ _ => rfl, found]
  simp [apart]

theorem Relaid.find?_other {other : String} (relaid : Relaid x iface.id links stock after)
    (distinct : ((stock.interfacesOf x).map (·.id)).Nodup) (mem : iface ∈ stock.interfacesOf x)
    (differs : other ≠ iface.name) :
    (after.interfacesOf x).find? (·.name == other) = (stock.interfacesOf x).find? (·.name == other) := by
  cases found : (stock.interfacesOf x).find? (·.name == other) with
  | none =>
      rw [relaid.interfaces, find?_relinked fun _ _ => rfl, found]
      rfl
  | some second =>
      have named : second.name = other := by simpa using List.find?_some found
      refine (relaid.find?_apart found fun same => ?_).trans found
      have own := List.inj_on_of_nodup_map distinct (List.mem_of_find?_eq_some found) mem same
      exact differs (own ▸ named.symm)

/-- An interface that is not on the network gets a single link, on the subnet that its specifier
    names. -/
theorem joined_of_relaid {link : Link} (distinct : ((stock.interfacesOf x).map (·.id)).Nodup)
    (found : (stock.interfacesOf x).find? (·.name == name) = some iface)
    (off : ¬isOnNetwork network iface = true)
    (names : stock.resolveSubnet (Wiring.specifier network) = some subnet)
    (shows : link.subnet = some subnet) (relaid : Relaid x iface.id [link] stock after) :
    Joined x name network stock after := by
  have mem := List.mem_of_find?_eq_some found
  have named : iface.name = name := by simpa using List.find?_some found
  refine ⟨relaid.machines, relaid.subnets, relaid.ids, .inr ⟨subnet, names⟩, ?_, fun other differs => ?_⟩
  · rw [on_iff (relaid.find?_own found), on_iff found, isOnNetwork_iff]
    simp [off, Inventory.Leads, names, shows]
  · exact relaid.find?_other distinct mem (named ▸ differs)

section

variable {middle : Inventory} {management workload : String}
  (first : Joined x "eth0" management stock middle) (second : Joined x "eth1" workload middle after)

include first second

/-- Both interfaces are on their networks after they have been put there one after the other, just when
    each has been there before or is led there. -/
theorem wired_iff_of_joined : after.Wired x management workload ↔
    (stock.On x "eth0" management ∨ stock.Leads management) ∧
      (stock.On x "eth1" workload ∨ stock.Leads workload) := by
  have leads : middle.Leads workload ↔ stock.Leads workload := by
    unfold Inventory.Leads
    rw [resolveSubnet_congr first.subnets]
  have kept : after.On x "eth0" management ↔ middle.On x "eth0" management :=
    on_congr (second.others "eth0" (by decide))
  have same : middle.On x "eth1" workload ↔ stock.On x "eth1" workload :=
    on_congr (first.others "eth1" (by decide))
  rw [← first.joins, ← leads, ← same, ← second.joins, ← kept]
  exact ⟨fun wired => ⟨wired.1, wired.2⟩, fun wired => ⟨wired.1, wired.2⟩⟩

theorem wired_of_joined (plain : ¬stock.Misreads management) (plain' : ¬stock.Misreads workload) :
    after.Wired x management workload := by
  have plain' : ¬middle.Misreads workload := by
    unfold Inventory.Misreads
    rw [first.subnets]
    exact plain'
  have kept : after.On x "eth0" management ↔ middle.On x "eth0" management :=
    on_congr (second.others "eth0" (by decide))
  exact ⟨kept.mpr (first.joins.mpr (first.leads plain)), second.joins.mpr (second.leads plain')⟩

end

end MachineProvisioning.Region
