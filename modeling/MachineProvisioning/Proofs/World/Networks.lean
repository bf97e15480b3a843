import MachineProvisioning.Proofs.Region.Network
import MachineProvisioning.Proofs.World.Wiring

/-! # Verifying networks

A pass that verifies the networks of a machine puts the interfaces on them that are not there, one
after the other. Putting one on its network does not move the other. When both are on their networks
at the end, the next verification only looks.
-/

namespace MachineProvisioning

open Lifecycle (State)
open Maas (Machine Interface Link Subnet)
open Region (Inventory Joined Relaid withoutLinks)
open Engine

namespace World

variable {world after later : World} {P : Discipline World} {x name network management workload : String}
  {interfaces : List Interface} {listed : Interface} {ok : Unit → World → Prop}
  {err : Failure → World → Prop}

/-- An interface that is on the network stays as it is, without another look at it. -/
theorem ensureNetwork_of_on (found : interfaces.find? (·.name == name) = some listed)
    (on : isOnNetwork network listed = true) : ensureNetwork x interfaces name network = pure () := by
  obtain ⟨link, linked, subnet, shows, -⟩ := Region.isOnNetwork_iff.mp on
  have seen : listed.links.all (·.subnet.isNone) = false := by
    rw [List.all_eq_false]
    exact ⟨link, linked, by simp [Option.mem_def.mp shows]⟩
  unfold ensureNetwork
  simp only [found, withSubnets, seen, Bool.false_eq_true, if_false, pure_bind, on, if_true]

/-- Whether it is looked at again or not, the interface is the one that is listed. -/
theorem withSubnets_ensures {ok : Interface → World → Prop} (looks : Observes P Reads)
    (distinct : ((world.region.inventory.interfacesOf x).map (·.id)).Nodup)
    (mem : listed ∈ world.region.inventory.interfacesOf x)
    (shown : ∀ after, Unchanged world after → ok listed after) (failed : ∀ failure after, err failure after) :
    (withSubnets x name listed).Ensures P ok err world := by
  unfold withSubnets
  split
  · refine ensures_look looks rfl rfl (fun iface after unchanged answered => ?_) ?_
    · have found : world.region.inventory.interface x listed.id = .ok listed := by
        unfold Inventory.interface
        rw [Region.find?_number distinct mem]
      obtain rfl : listed = iface := by
        simpa [Region.answer, Region.getInterface, found] using answered
      exact shown after unchanged
    · exact fun error after _ _ => failed _ after
  · exact Pass.ensures_pure.mpr (shown world (unchanged_refl world))

/-- A pass that goes on has put the interface on the network. -/
theorem ensureNetwork_ensures (looks : Observes P Reads) (observes : Observes P (Wires x))
    (distinct : ((world.region.inventory.interfacesOf x).map (·.id)).Nodup)
    (current : interfaces.find? (·.name == name) =
      (world.region.inventory.interfacesOf x).find? (·.name == name))
    (joined : ∀ after, Joined x name network world.region.inventory after.region.inventory → ok () after)
    (failed : ∀ failure after, err failure after) :
    (ensureNetwork x interfaces name network).Ensures P ok err world := by
  unfold ensureNetwork
  rw [current]
  split
  · exact Pass.ensures_throw.mpr (failed _ world)
  · next listed found =>
      have mem := List.mem_of_find?_eq_some found
      refine Pass.ensures_bind.mpr (withSubnets_ensures looks distinct mem (fun seen unchanged => ?_) failed)
      have same : seen.region.inventory = world.region.inventory := congrArg _ unchanged.region
      split
      · next on =>
          refine Pass.ensures_pure.mpr (joined seen ?_)
          rw [same]
          exact Region.joined_of_on ((Region.on_iff found).mpr on)
      · next off =>
          extract_lets action params
          have start : Relaid x listed.id listed.links world.region.inventory seen.region.inventory := by
            rw [same]
            exact Region.relaid_self distinct mem
          refine Pass.ensures_bind.mpr (unlinkAll_ensures _ observes distinct mem start ?_ ?_)
          · intro bare relaid
            rw [Region.withoutLinks_own] at relaid
            refine link_ensures observes distinct mem relaid ?_ fun failure after _ _ => failed failure after
            intro after subnet linkId _ names relaid
            exact joined after (Region.joined_of_relaid distinct found off names rfl relaid)
          · exact fun failure after _ _ _ _ => failed failure after

/-- A pass that goes on has found a machine that may be edited and put both interfaces on their
    networks. -/
theorem verifyNetwork_ensures (looks : Observes P Reads) (observes : Observes P (Wires x))
    (lawful : world.region.Lawful)
    (distinct : ((world.region.inventory.interfacesOf x).map (·.id)).Nodup)
    (joined : ∀ machine middle after, world.region.inventory.machines.get? x = some machine →
      (State.ofText machine.statusName).allowsNetworkEdits = true →
        world.region.planted.listInterfaces = none →
          Joined x "eth0" management world.region.inventory middle →
            Joined x "eth1" workload middle after.region.inventory → ok () after)
    (failed : ∀ failure after, err failure after) :
    (verifyNetwork x [management, workload]).Ensures P ok err world := by
  unfold verifyNetwork
  refine Pass.ensures_bind.mpr (ensures_look looks rfl rfl (fun shown second seen answered => ?_) ?_)
  case refine_2 => exact fun error after _ _ => failed _ after
  obtain ⟨machine, stored, status, -⟩ := shown_machine lawful answered
  extract_lets state verifies
  have edits : state = State.ofText machine.statusName := congrArg State.ofText status
  split
  · exact Pass.ensures_bind.mpr (Pass.ensures_throw.mpr (failed _ second))
  · next editable =>
      rw [edits, Bool.not_eq_true', Bool.not_eq_false] at editable
      refine Pass.ensures_bind.mpr (ensures_look looks rfl rfl (fun listed third seen' answered => ?_) ?_)
      case refine_2 => exact fun error after _ _ => failed _ after
      rw [seen.region] at answered
      obtain ⟨rfl, plain⟩ := shown_interfaces answered
      have same : third.region.inventory = world.region.inventory :=
        congrArg _ (seen.trans seen').region
      refine Pass.ensures_bind.mpr (ensureNetwork_ensures looks observes (same ▸ distinct) (by rw [same]) ?_ failed)
      intro fourth first
      rw [same] at first
      -- The second interface is looked up in a list from before the first was put on its network.
      refine ensureNetwork_ensures looks observes (first.ids ▸ distinct) (first.others _ (by decide)).symm ?_ failed
      exact fun after second => joined machine _ after stored editable plain first second

/-- Once both interfaces are on their networks, a pass looks and changes nothing. -/
theorem idles_of_wired {machine : Machine} (lawful : world.region.Lawful)
    (stored : world.region.inventory.machines.get? x = some machine)
    (editable : (State.ofText machine.statusName).allowsNetworkEdits = true)
    (wired : world.region.inventory.Wired x management workload) (calm : world.maasFaults = .empty)
    (plain : world.region.planted.listInterfaces = none) :
    world.Idles (verifyNetwork x [management, workload]) := by
  have looks : Observes (.attending World.answer fun _ => Reads) Reads := observes_attending fun _ _ => id
  obtain ⟨⟨first, found, on⟩, ⟨second, found', on'⟩⟩ := wired
  refine idles_of_infallible ?_
  unfold verifyNetwork
  refine Pass.ensures_bind.mpr (ensures_look looks rfl rfl (fun shown seen unchanged answered => ?_) ?_)
  case refine_2 => exact fun error after leads _ => shows_machine calm stored leads
  obtain ⟨other, again, status, -⟩ := shown_machine lawful answered
  cases stored.symm.trans again
  extract_lets state verifies
  have edits : state.allowsNetworkEdits = true := by rw [← editable, ← status]
  rw [edits]
  refine Pass.ensures_bind.mpr (ensures_look looks rfl rfl (fun listed last unchanged' answered => ?_) ?_)
  case refine_2 =>
    intro error after leads _
    rw [← unchanged.region] at plain stored
    exact lists_interfaces (unchanged.calm calm) plain stored leads
  rw [unchanged.region] at answered
  obtain ⟨rfl, -⟩ := shown_interfaces answered
  rw [ensureNetwork_of_on found on, ensureNetwork_of_on found' on']
  exact Pass.ensures_pure.mpr (unchanged'.region.trans unchanged.region)

/-- A pass that verifies the networks leaves both interfaces on them, and the next one nothing to do,
    just when each interface was on its network before or the specifier of the network leads there. It
    does so at least when MAAS does not read more than a name in the name of either network. -/
theorem verifies_for_good_iff (lawful : world.region.Lawful)
    (distinct : ((world.region.inventory.interfacesOf x).map (·.id)).Nodup)
    (verifies : world.pass (verifyNetwork x [management, workload]) = (.ok (), after))
    (same : later.region = after.region) (calm : later.maasFaults = .empty) :
    ((after.region.inventory.Wired x management workload ∧
        later.Idles (verifyNetwork x [management, workload])) ↔
      (world.region.inventory.On x "eth0" management ∨ world.region.inventory.Leads management) ∧
        (world.region.inventory.On x "eth1" workload ∨ world.region.inventory.Leads workload)) ∧
    (¬world.region.inventory.Misreads management → ¬world.region.inventory.Misreads workload →
      after.region.inventory.Wired x management workload ∧
        later.Idles (verifyNetwork x [management, workload])) := by
  have ensures : (verifyNetwork x [management, workload]).Ensures (heeding fun _ => True)
      (fun _ after => ∃ machine middle, world.region.inventory.machines.get? x = some machine ∧
        (State.ofText machine.statusName).allowsNetworkEdits = true ∧
          world.region.planted.listInterfaces = none ∧
            Joined x "eth0" management world.region.inventory middle ∧
              Joined x "eth1" workload middle after.region.inventory) (fun _ _ => True) world :=
    verifyNetwork_ensures observes_heeding observes_heeding lawful distinct
      (fun machine middle after stored editable plain first second =>
        ⟨machine, middle, stored, editable, plain, first, second⟩) fun _ _ => trivial
  obtain ⟨machine, middle, stored, editable, plain, first, second⟩ := ok_of_pass ensures verifies
  have plain : later.region.planted.listInterfaces = none := by
    have kept := plain_pass (verifyNetwork x [management, workload]) plain
    rw [verifies] at kept
    rw [same]
    exact kept
  have machines : later.region.inventory.machines = world.region.inventory.machines := by
    rw [same, second.machines, first.machines]
  have idles : after.region.inventory.Wired x management workload →
      later.Idles (verifyNetwork x [management, workload]) := by
    intro wired
    rw [← same] at wired
    exact idles_of_wired (lawful.congr machines) (machines ▸ stored) editable wired calm plain
  constructor
  · rw [← Region.wired_iff_of_joined first second]
    exact and_iff_left_of_imp idles
  · intro plain plain'
    have wired := Region.wired_of_joined first second plain plain'
    exact ⟨wired, idles wired⟩

theorem verifies_for_good_iff_swapped :
    let world := doubly "Ready" workloadSubnet managementSubnet
    let pass := verifyNetwork "m1" ["management", "10.20.0.0/24"]
    let after := (world.pass pass).2
    ((after.region.inventory.Wired "m1" "management" "10.20.0.0/24" ∧ after.Idles pass) ↔
      (world.region.inventory.On "m1" "eth0" "management" ∨
          world.region.inventory.Leads "management") ∧
        (world.region.inventory.On "m1" "eth1" "10.20.0.0/24" ∨
          world.region.inventory.Leads "10.20.0.0/24")) ∧
    (after.region.inventory.Wired "m1" "management" "10.20.0.0/24" ∧ after.Idles pass) := by
  intro world pass after
  have distinct : ((world.region.inventory.interfacesOf "m1").map (·.id)).Nodup := by decide +kernel
  have verifies : world.pass pass = (.ok (), after) := pass_eq_ok (by decide +kernel)
  have calm : after.maasFaults = .empty := by decide +kernel
  obtain ⟨decides, plain⟩ := verifies_for_good_iff (lawful_doubly _ _ _) distinct verifies rfl calm
  exact ⟨decides, plain (by decide +kernel) (by decide +kernel)⟩

/-- A region with a network whose name is the number of another one. -/
def numbered : World where
  region := (((((Region.empty.after (.addMachine (.idle "m1" "node-7" "Ready"))).after
    (.addSubnet (.plain 1 "7" "10.0.0.0/24"))).after (.addSubnet workloadSubnet)).after
    (.addSubnet (.plain 7 "storage" "10.30.0.0/24"))).after
    (.addInterface "m1" (.physical 10 "eth0" []))).after
    (.addInterface "m1" (.physical 11 "eth1" [⟨110, .auto, some workloadSubnet, none⟩]))
  clock := ⟨0, 0⟩

/-- An interface is put on the network of this number, and put there again by every pass. -/
theorem verifies_in_vain_numbered :
    let pass := verifyNetwork "m1" ["7", "workload"]
    let after := (numbered.pass pass).2
    (∃ subnet ∈ numbered.region.inventory.subnets.values, subnet.name = "7") ∧
      (numbered.pass pass).1.toOption.isSome = true ∧
        ¬after.region.inventory.On "m1" "eth0" "7" ∧ ¬after.Idles pass := by
  intro pass after
  refine ⟨by decide +kernel, by decide +kernel, by decide +kernel, fun idles => ?_⟩
  have changes : (after.pass pass).2.region ≠ after.region := by decide +kernel
  exact changes idles.unchanged

end World

end MachineProvisioning
