import MachineProvisioning.Proofs.World.Binding

/-! # Binding again

What a pass finds that is to bind an address once more: after a pass that has bound it, and after one
that was refused on the way. The interface is chosen again from what the earlier pass has left of its
links.
-/

namespace MachineProvisioning

open Resource (Key StaticIpSpec)
open Lifecycle (State)
open Maas (Machine Interface Link Subnet)
open StaticIp (Declaration Target isBound)
open Region (Relaid Inventory Chosen Holds SoleChoice withoutLinks withoutLinks_sublist reaches)
open Engine

namespace World

variable {world after stopped later : World} {P : Discipline World} {key : Key} {x : String}
  {declared : StaticIpSpec} {ip : Declaration} {iface : Interface} {target : Target}
  {machine : Machine} {err : Failure → World → Prop}

/-- Once the address is bound, a pass looks and changes nothing. -/
theorem settled_ensures (lawful : world.region.Lawful) (valid : StaticIp.validate declared = .ok ip)
    (stored : world.region.inventory.machines.get? x = some machine)
    (settled : Settled world.region.inventory x machine ip)
    (hindered : ∀ failure after, Hindered (.attending World.answer fun _ => Reads) world key x ip →
      err failure after) :
    (applyStaticIp key x declared).Ensures (.attending World.answer fun _ => Reads)
      (fun _ after => after.region = world.region) err world := by
  refine applyStaticIp_ensures (observes_attending fun _ _ looks => looks) lawful valid ?_ ?_ ?_
  · exact fun _ after unchanged _ _ _ => unchanged.region
  · intro other target after _ _ found due
    cases stored.symm.trans found
    exact absurd due (not_due_of_settled settled target)
  · exact fun failure after _ => hindered failure after

/-- While the address is to be bound, no pass that only looks succeeds. -/
theorem not_idles_of_due (lawful : world.region.Lawful)
    (distinct : ((world.region.inventory.interfacesOf x).map (·.id)).Nodup)
    (valid : StaticIp.validate declared = .ok ip)
    (stored : world.region.inventory.machines.get? x = some machine)
    (due : Due world.region.inventory x machine ip target) :
    ¬world.Idles (applyStaticIp key x declared) := by
  refine not_idles_of_ensures (applyStaticIp_outcomes observes_heeding observes_heeding lawful distinct
    valid ?_ ?_ (fun _ _ _ _ => trivial) (fun _ _ _ _ _ _ _ => trivial))
  · intro other _ _ _ found settled
    cases stored.symm.trans found
    exact not_due_of_settled settled target due
  · rintro - iface - - - params - - - ⟨found, value, last, leads⟩ - -
    exact absurd leads.2 Bool.false_ne_true

/-- A pass that is shown what it looks at finds out whether the address is bound. -/
theorem not_hindered (unopposed : world.Unopposed key ip.address)
    (stored : world.region.inventory.machines.get? x = some machine)
    (decided : Settled world.region.inventory x machine ip ∨
      ∃ target, Due world.region.inventory x machine ip target)
    (shown : ∀ found error after, Unchanged world found →
      ¬P.leads found (.maas (.getMachine x)) (.error error) after)
    (listed : ∀ found error after, Unchanged world found →
      ¬P.leads found (.maas (.listInterfaces x)) (.error error) after) : ¬Hindered P world key x ip := by
  intro hindered
  cases hindered with
  | opposed other => exact other unopposed
  | unseen found unchanged error last leads => exact shown found error last unchanged leads
  | unlisted found unchanged error last leads => exact listed found error last unchanged leads
  | impossible other found unsettled idle =>
      cases stored.symm.trans found
      rcases decided with settled | ⟨target, due⟩
      · exact unsettled settled
      · exact idle target due

/-- In a world without planned failures, a pass only looks once the address is bound. -/
theorem idles_of_settled (lawful : world.region.Lawful) (valid : StaticIp.validate declared = .ok ip)
    (stored : world.region.inventory.machines.get? x = some machine)
    (settled : Settled world.region.inventory x machine ip) (calm : world.maasFaults = .empty)
    (plain : world.region.planted.listInterfaces = none) (unopposed : world.Unopposed key ip.address) :
    world.Idles (applyStaticIp key x declared) := by
  refine idles_of_infallible (settled_ensures lawful valid stored settled fun _ _ => ?_)
  refine not_hindered unopposed stored (.inl settled) (fun found error after unchanged leads => ?_)
    fun found error after unchanged leads => ?_
  · rw [← unchanged.region] at stored
    exact shows_machine (unchanged.calm calm) stored leads
  · rw [← unchanged.region] at plain stored
    exact lists_interfaces (unchanged.calm calm) plain stored leads

/-- On a machine that may be edited, it only looks when the chosen target has the address. -/
theorem idles_iff_bound (lawful : world.region.Lawful)
    (distinct : ((world.region.inventory.interfacesOf x).map (·.id)).Nodup)
    (valid : StaticIp.validate declared = .ok ip)
    (stored : world.region.inventory.machines.get? x = some machine)
    (editable : (State.ofText machine.statusName).allowsNetworkEdits = true)
    (chosen : world.region.inventory.target x ip = .ok target) (calm : world.maasFaults = .empty)
    (plain : world.region.planted.listInterfaces = none) (unopposed : world.Unopposed key ip.address) :
    world.Idles (applyStaticIp key x declared) ↔ Bound ip target := by
  constructor
  · intro idles
    by_contra unbound
    exact not_idles_of_due lawful distinct valid stored ⟨editable, chosen, unbound⟩ idles
  · intro bound
    exact idles_of_settled lawful valid stored (.chosen editable target chosen bound) calm plain unopposed

/-- What a pass that binds an address has found, and what it has left. -/
inductive Outcome (world : World) (x : String) (ip : Declaration) (after : World) : Prop where
  | settled (machine : Machine) (stored : world.region.inventory.machines.get? x = some machine)
      (settled : Settled world.region.inventory x machine ip) (same : after.region = world.region)
  | bound (machine : Machine) (stored : world.region.inventory.machines.get? x = some machine)
      (iface : Interface) (due : Due world.region.inventory x machine ip (.interface iface))
      (subnet : Subnet) (linked : world.region.inventory.bindingSubnet? x ip = some subnet)
      (number : UInt64)
      (relaid : Relaid x iface.id (freed iface ip ++ [bindingLink number subnet ip])
        world.region.inventory after.region.inventory)

theorem outcome_of_pass (lawful : world.region.Lawful)
    (distinct : ((world.region.inventory.interfacesOf x).map (·.id)).Nodup)
    (valid : StaticIp.validate declared = .ok ip)
    (binds : world.pass (applyStaticIp key x declared) = (.ok (), after)) :
    Outcome world x ip after ∧ world.region.planted.listInterfaces = none := by
  have ensures : (applyStaticIp key x declared).Ensures (heeding fun _ => True)
      (fun _ after => Outcome world x ip after ∧ world.region.planted.listInterfaces = none)
      (fun _ _ => True) world := by
    refine applyStaticIp_outcomes observes_heeding observes_heeding lawful distinct valid ?_ ?_
      (fun _ _ _ _ => trivial) (fun _ _ _ _ _ _ _ => trivial)
    · exact fun machine after same plain stored settled => ⟨.settled machine stored settled same, plain⟩
    · exact fun machine iface subnet number after _ plain stored due _ linked relaid =>
        ⟨.bound machine stored iface due subnet linked number relaid, plain⟩
  exact ok_of_pass ensures binds

/-- A pass that binds the address again only looks, just when the pass before it only looked as well,
    or the subnet that this one linked is the declared one, if the subnet was declared as such. -/
theorem binds_again_idly_iff (lawful : world.region.Lawful)
    (distinct : ((world.region.inventory.interfacesOf x).map (·.id)).Nodup)
    (registers : world.region.inventory.Registers x) (valid : StaticIp.validate declared = .ok ip)
    (binds : world.pass (applyStaticIp key x declared) = (.ok (), after))
    (same : later.region = after.region) (calm : later.maasFaults = .empty)
    (unopposed : later.Unopposed key ip.address) :
    later.Idles (applyStaticIp key x declared) ↔ world.Idles (applyStaticIp key x declared) ∨
      (ip.explicitCidr = true → ∀ subnet, world.region.inventory.bindingSubnet? x ip = some subnet →
        StaticIp.blockOf? subnet.cidr = some ip.network) := by
  obtain ⟨outcome, plain⟩ := outcome_of_pass lawful distinct valid binds
  have plain : later.region.planted.listInterfaces = none := by
    have kept := plain_pass (applyStaticIp key x declared) plain
    rw [binds] at kept
    rw [same]
    exact kept
  cases outcome with
  | settled machine stored settled unchanged =>
      have looks : (applyStaticIp key x declared).Ensures (.attending World.answer fun _ => Reads)
          (fun _ after => after.region = world.region) (fun _ _ => True) world :=
        settled_ensures lawful valid stored settled fun _ _ _ => trivial
      have first : world.Idles (applyStaticIp key x declared) :=
        idles_of_ensures looks ⟨(), by rw [binds]⟩
      have same : later.region = world.region := same.trans unchanged
      rw [← same] at lawful stored settled
      exact iff_of_true (idles_of_settled lawful valid stored settled calm plain unopposed) (.inl first)
  | bound machine stored iface due subnet linked number relaid =>
      rw [← same] at relaid
      have holds := Region.holds_bindingSubnet valid registers linked
      have kept : (freed iface ip).Sublist iface.links := withoutLinks_sublist _ _
      have carried : StaticIp.carries ip.address (bindingLink number subnet ip) = true :=
        Region.carries_toText rfl rfl
      -- The new link reaches the address, so the same interface is chosen again. Whether it counts as
      -- bound is another test: the block of the linked subnet has to be the declared one.
      have again : later.region.inventory.target x ip =
          .ok (.interface { iface with links := freed iface ip ++ [bindingLink number subnet ip] }) := by
        refine Region.target_eq_interface_iff.mpr
          ((Region.target_eq_interface_iff.mp due.chosen).again distinct relaid (.inr ?_))
        exact Region.reaches_iff.mpr ⟨_, List.mem_append_right _ (.head _),
          Region.linkContains_iff.mpr ⟨subnet, rfl, holds⟩⟩
      have stored : later.region.inventory.machines.get? x = some machine := by
        rw [relaid.machines]
        exact stored
      have busy : ¬world.Idles (applyStaticIp key x declared) :=
        not_idles_of_due lawful distinct valid (relaid.machines ▸ stored) due
      calc later.Idles (applyStaticIp key x declared)
          ↔ isBound { iface with links := freed iface ip ++ [bindingLink number subnet ip] } ip = true :=
            idles_iff_bound (lawful.congr relaid.machines) (relaid.ids ▸ distinct) valid stored
              due.editable again calm plain unopposed
        _ ↔ (ip.explicitCidr = true → StaticIp.blockOf? subnet.cidr = some ip.network) :=
            Region.isBound_append_iff due.unbound kept rfl holds carried
        _ ↔ _ := by simp only [busy, false_or, linked, Option.some.injEq, forall_eq']

/-- A network with room for the addresses of machines. -/
def lan : Subnet := .plain 1 "lan" "10.0.0.0/24"

/-- A world with an allocated machine that has an address of its network for the time being. -/
def leased : World where
  region := ((Region.empty.after (.addMachine (.idle "m1" "node-7" "Allocated"))).after
    (.addSubnet lan)).after (.addInterface "m1" (.physical 10 "eth0" [⟨100, .auto, some lan, none⟩]))
  clock := ⟨0, 0⟩

theorem lawful_leased : leased.region.Lawful :=
  ((Region.lawful_empty.after _).after _).after _

/-- An address of the network, declared with a subnet of this text. -/
def pinned (subnet : String) : StaticIpSpec :=
  { address := "10.0.0.5", gateway := "10.0.0.1", subnet }

theorem binds_again_idly_iff_leased :
    let pass := applyStaticIp ⟨"metal", "worker-0"⟩ "m1" (pinned "10.0.0.0/24")
    let later := (leased.pass pass).2
    ∃ ip, StaticIp.validate (pinned "10.0.0.0/24") = .ok ip ∧
      (later.Idles pass ↔ leased.Idles pass ∨ (ip.explicitCidr = true → ∀ subnet,
        leased.region.inventory.bindingSubnet? "m1" ip = some subnet →
          StaticIp.blockOf? subnet.cidr = some ip.network)) := by
  intro pass later
  refine ⟨_, rfl, binds_again_idly_iff lawful_leased (by decide +kernel) (by decide +kernel) rfl
    (pass_eq_ok (by decide +kernel)) rfl ?_ ?_⟩
  · decide +kernel
  · exact .inr (by decide +kernel)

/-- A subnet that is declared wider than the one that is linked is linked again by every pass. -/
theorem binds_again_busily_widened :
    let pass := applyStaticIp ⟨"metal", "worker-0"⟩ "m1" (pinned "10.0.0.0/16")
    let later := (leased.pass pass).2
    (leased.pass pass).1.toOption.isSome = true ∧ ¬later.Idles pass := by
  intro pass later
  refine ⟨by decide +kernel, fun idles => ?_⟩
  have changes : (later.pass pass).2.region ≠ later.region := by decide +kernel
  exact changes idles.unchanged

/-- A pass that fails has at most taken links away from the chosen interface. -/
theorem relaid_of_failed {failure : Failure} (lawful : world.region.Lawful)
    (distinct : ((world.region.inventory.interfacesOf x).map (·.id)).Nodup)
    (valid : StaticIp.validate declared = .ok ip)
    (chosen : world.region.inventory.target x ip = .ok (.interface iface))
    (fails : world.pass (applyStaticIp key x declared) = (.error failure, stopped)) :
    ∃ gone, Relaid x iface.id (withoutLinks iface.links gone) world.region.inventory
      stopped.region.inventory := by
  have mem := (Region.target_eq_interface_iff.mp chosen).mem
  have ensures : (applyStaticIp key x declared).Ensures (heeding fun _ => True) (fun _ _ => True)
      (fun _ stopped => ∃ gone, Relaid x iface.id (withoutLinks iface.links gone)
        world.region.inventory stopped.region.inventory) world := by
    refine applyStaticIp_outcomes observes_heeding observes_heeding lawful distinct valid
      (fun _ _ _ _ _ _ => trivial) (fun _ _ _ _ _ _ _ _ _ _ _ _ => trivial) ?_ ?_
    · intro failure after same _
      refine ⟨[], ?_⟩
      rw [same]
      exact Region.relaid_self distinct mem
    · intro target failure after _ again _ relaid
      cases chosen.symm.trans again
      exact relaid iface rfl
  exact err_of_pass ensures fails

/-- When MAAS fails no call, a pass binds the address on the interface that is chosen, and leaves what
    the others bear. -/
theorem binds_of_served (lawful : world.region.Lawful)
    (distinct : ((world.region.inventory.interfacesOf x).map (·.id)).Nodup)
    (registers : world.region.inventory.Registers x) (valid : StaticIp.validate declared = .ok ip)
    (stored : world.region.inventory.machines.get? x = some machine)
    (editable : (State.ofText machine.statusName).allowsNetworkEdits = true)
    (chosen : world.region.inventory.target x ip = .ok target)
    (unopposed : world.Unopposed key ip.address) (serves : world.Serves (applyStaticIp key x declared)) :
    ∃ iface last, target = .interface iface ∧
      world.pass (applyStaticIp key x declared) = (.ok (), last) ∧
        ∀ number, last.region.inventory.BearsOn x number ip.address ↔
          number = iface.id ∨ world.region.inventory.BearsOn x number ip.address := by
  have ensures : (applyStaticIp key x declared).Ensures (heeding (granted ·))
      (fun _ last => ∃ iface, target = .interface iface ∧
        ∀ number, last.region.inventory.BearsOn x number ip.address ↔
          number = iface.id ∨ world.region.inventory.BearsOn x number ip.address)
      (fun _ _ => False) world := by
    refine applyStaticIp_outcomes observes_heeding observes_heeding lawful distinct valid ?_ ?_ ?_ ?_
    · intro other last same _ found settled
      cases stored.symm.trans found
      cases settled with
      | anywhere untouchable => exact absurd editable (by simp [untouchable])
      | chosen _ other again bound =>
          cases chosen.symm.trans again
          cases target with
          | boot => exact bound.elim
          | interface iface =>
              have mem := (Region.target_eq_interface_iff.mp chosen).mem
              refine ⟨iface, rfl, fun number => ?_⟩
              rw [same]
              refine (or_iff_right_of_imp ?_).symm
              rintro rfl
              exact Region.bearsOn_of_isBound mem bound
    · intro other iface subnet number last _ _ found due _ linked relaid
      cases chosen.symm.trans due.chosen
      have mem := (Region.target_eq_interface_iff.mp chosen).mem
      have holds := Region.holds_bindingSubnet valid registers linked
      have contains : StaticIp.linkContains ip.address (bindingLink number subnet ip) = true :=
        Region.linkContains_iff.mpr ⟨subnet, rfl, holds⟩
      exact ⟨iface, rfl, fun _ => relaid.bearsOn_append_iff distinct mem contains (Region.carries_toText rfl rfl)⟩
    · intro failure last _
      exact not_hindered unopposed stored ((settled_or_due editable chosen).imp_right fun due => ⟨_, due⟩)
        (fun _ _ _ _ => not_leads_error) fun _ _ _ _ => not_leads_error
    · rintro - - - call - ⟨found, error, last, leads⟩ -
      exact not_leads_error leads
  obtain ⟨value, last, succeeds, iface, same, bears⟩ := pass_of_infallible ensures serves
  exact ⟨iface, last, same, succeeds, bears⟩

/-- A pass after one that has failed binds the address on the interface that the first one had chosen,
    just when it is named, the failed pass has left it a link on a subnet that contains the address, or
    it is the only choice there is. -/
theorem resumes_on_chosen_iff {failure : Failure} (lawful : world.region.Lawful)
    (distinct : ((world.region.inventory.interfacesOf x).map (·.id)).Nodup)
    (registers : world.region.inventory.Registers x) (valid : StaticIp.validate declared = .ok ip)
    (stored : world.region.inventory.machines.get? x = some machine)
    (editable : (State.ofText machine.statusName).allowsNetworkEdits = true)
    (chosen : world.region.inventory.target x ip = .ok (.interface iface))
    (fails : world.pass (applyStaticIp key x declared) = (.error failure, stopped))
    (same : later.region.inventory = stopped.region.inventory)
    (unopposed : later.Unopposed key ip.address) (serves : later.Serves (applyStaticIp key x declared)) :
    ∃ last, later.pass (applyStaticIp key x declared) = (.ok (), last) ∧
      (last.region.inventory.BearsOn x iface.id ip.address ↔
        ip.interface ≠ none ∨ stopped.region.inventory.ReachesOn x iface.id ip.address ∨
          SoleChoice world.region.inventory x ip.address iface) := by
  obtain ⟨gone, relaid⟩ := relaid_of_failed lawful distinct valid chosen fails
  have first := Region.target_eq_interface_iff.mp chosen
  have kept := withoutLinks_sublist iface.links gone
  rw [← same] at relaid ⊢
  obtain ⟨target, again⟩ := first.exists_again distinct relaid
  obtain ⟨other, last, rfl, succeeds, bears⟩ := binds_of_served (lawful.congr relaid.machines)
    (relaid.ids ▸ distinct) (registers.relaid distinct first.mem relaid kept) valid
    (by rw [relaid.machines]; exact stored) editable again unopposed serves
  -- The second pass binds on `other`, which it has chosen from what the first has left of the links.
  have decides := first.again_iff (Region.target_eq_interface_iff.mp again) distinct relaid
  rw [← relaid.reachesOn_iff distinct first.mem] at decides
  refine ⟨last, succeeds, ?_⟩
  rw [bears, ← decides, eq_comm]
  exact or_iff_left_of_imp fun left => decides.mpr (.inr (.inl left.reachesOn))

/-- MAAS fails to link once, after it has unlinked. -/
def torn : World :=
  { doubly "Allocated" managementSubnet workloadSubnet with
    maasFaults := Faults.plan .empty "link_subnet" 0 (.api "gateway timeout") }

theorem resumes_on_chosen_iff_torn :
    let pass := applyStaticIp ⟨"metal", "worker-0"⟩ "m1" (hosted (some "eth1"))
    let stopped := (torn.pass pass).2
    ∃ ip, StaticIp.validate (hosted (some "eth1")) = .ok ip ∧
      ∃ iface, torn.region.inventory.target "m1" ip = .ok (.interface iface) ∧
        ∃ last, stopped.pass pass = (.ok (), last) ∧
          (last.region.inventory.BearsOn "m1" iface.id ip.address ↔
            ip.interface ≠ none ∨ stopped.region.inventory.ReachesOn "m1" iface.id ip.address ∨
              SoleChoice torn.region.inventory "m1" ip.address iface) := by
  intro pass stopped
  have fails : ∃ failure, torn.pass pass = (.error failure, stopped) := pass_eq_error (by decide +kernel)
  obtain ⟨failure, fails⟩ := fails
  have stored : torn.region.inventory.machines.get? "m1" = some (.idle "m1" "node-7" "Allocated") := by
    decide +kernel
  refine ⟨_, rfl, .physical 11 "eth1" [⟨110, .auto, some workloadSubnet, none⟩], ?chosen,
    resumes_on_chosen_iff (lawful_doubly _ _ _) (by decide +kernel) (by decide +kernel) rfl stored
      (by decide +kernel) ?chosen fails rfl ?_ ?_⟩
  · exact Region.target_eq_interface_iff.mpr (.named "eth1" rfl (by decide +kernel))
  · exact .inr (by decide +kernel)
  · decide +kernel

/-- Once its only link on the network of the address has been taken away, an interface is passed over
    for the one that the machine boots from. -/
theorem resumes_elsewhere_torn :
    let pass := applyStaticIp ⟨"metal", "worker-0"⟩ "m1" (hosted none)
    let whole := ((doubly "Allocated" managementSubnet workloadSubnet).pass pass).2
    let stopped := (torn.pass pass).2
    let last := (stopped.pass pass).2
    let address := Net.Address.ofValue .v4 0x0A140032
    StaticIp.addressOf? (hosted none).address = some address ∧
      whole.region.inventory.BearsOn "m1" 11 address ∧
      (torn.pass pass).1.toOption.isSome = false ∧ stopped.Serves pass ∧
        (stopped.pass pass).1.toOption.isSome = true ∧
          ¬last.region.inventory.BearsOn "m1" 11 address ∧
            last.region.inventory.BearsOn "m1" 10 address := by
  intro pass whole stopped last address
  refine ⟨?_, ?_, ?_, ?_, ?_, ?_, ?_⟩
  all_goals decide +kernel

end World

end MachineProvisioning
