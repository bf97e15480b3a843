import MachineProvisioning.Proofs.Region.Target
import MachineProvisioning.Proofs.World.Upkeep

/-! # Wiring in a world

The steps that wire a machine look at it, and then change the links of one of its interfaces. A look
leaves the region as it is, so what a step decides is decided by the region that it started from. What
a step leaves is that region with the links of the interface replaced.
-/

namespace MachineProvisioning

open Resource (Key StaticIpSpec)
open Maas (Machine Interface Link LinkParams Subnet)
open Program (Exchange)
open Region (Relaid SameLayout Inventory withoutLink withoutLinks)
open Engine

namespace World

variable {world after later : World} {P : Discipline World} {kind : Effect → Prop} {x : String}

/-- The protocol allows these requests in every world and leads only where a world answers to. -/
structure Observes (P : Discipline World) (kind : Effect → Prop) : Prop where
  allows : ∀ world effect, kind effect → P.allows world effect
  answers : ∀ {world effect reply after}, P.leads world effect reply after →
    (reply, after) = World.answer effect world

theorem Observes.mono {kind' : Effect → Prop} (observes : Observes P kind)
    (narrower : ∀ effect, kind' effect → kind effect) : Observes P kind' :=
  ⟨fun world effect is => observes.allows world effect (narrower effect is), observes.answers⟩

theorem Observes.tolerates {P : Discipline World} {invariant : World → Prop}
    (observes : Observes P kind)
    (keeps : ∀ {world effect reply after}, kind effect → invariant world →
      (reply, after) = World.answer effect world → invariant after) : P.Tolerates invariant kind :=
  fun world effect kept is =>
    ⟨observes.allows world effect is, fun _ _ leads => keeps is kept (observes.answers leads)⟩

theorem observes_attending {proper : World → Effect → Prop}
    (allows : ∀ world effect, kind effect → proper world effect) :
    Observes (.attending World.answer proper) kind :=
  ⟨allows, fun leads => leads⟩

/-- The call succeeds in some world. -/
def Grants (P : Discipline World) (call : Maas.Call) : Prop :=
  ∃ world value after, P.leads world (.maas call) (.ok value) after

/-- The call is refused in some world. -/
def Refuses (P : Discipline World) (call : Maas.Call) : Prop :=
  ∃ world error after, P.leads world (.maas call) (.error error) after

/-- The request only looks. -/
def Reads : Effect → Prop
  | .maas call => call.isRead = true
  | .store (.listStaticIps _) => True
  | _ => False

/-- Nothing has happened in the region, and no fault has been planned. -/
structure Unchanged (world after : World) : Prop where
  region : after.region = world.region
  calm : world.maasFaults = .empty → after.maasFaults = .empty

theorem unchanged_refl (world : World) : Unchanged world world := ⟨rfl, fun calm => calm⟩

theorem Unchanged.trans (first : Unchanged world after) (second : Unchanged after later) :
    Unchanged world later :=
  ⟨second.region.trans first.region, fun calm => second.calm (first.calm calm)⟩

theorem next_empty {ε : Type} (name : String) :
    Faults.next (.empty : Faults ε) name = (none, .empty) := rfl

/-- Without planned faults, it is the region that answers. -/
theorem answerMaas_of_calm (call : Maas.Call) (calm : world.maasFaults = .empty) :
    (world.answerMaas call).1 = (world.region.answer call).1 ∧
      (world.answerMaas call).2.maasFaults = .empty := by
  simp only [answerMaas, calm, next_empty, and_self]

theorem calm_answer (effect : Effect) {reply : effect.Answer} (calm : world.maasFaults = .empty)
    (answers : (reply, after) = world.answer effect) : after.maasFaults = .empty := by
  have same : after = (world.answer effect).2 := congrArg Prod.snd answers
  rw [same]
  cases effect with
  | maas call => exact (answerMaas_of_calm call calm).2
  | store call =>
      change (world.answerStore call).2.maasFaults = .empty
      unfold answerStore
      split
      dsimp only
      split <;> exact calm
  | clock => exact calm
  | count event => exact calm

theorem reply_of_calm {call : Maas.Call} {reply : call.Reply} (calm : world.maasFaults = .empty)
    (answers : (reply, after) = world.answer (.maas call)) : (world.region.answer call).1 = reply := by
  have same : reply = (world.answerMaas call).1 := congrArg Prod.fst answers
  rw [same, (answerMaas_of_calm call calm).1]

theorem unchanged_of_read {call : Maas.Call} {value : call.Value} (reads : call.isRead = true)
    (answers : (.ok value, after) = world.answer (.maas call)) :
    Unchanged world after ∧ world.region.answer call = (.ok value, world.region) := by
  have answered := region_of_ok call answers
  have same := Region.region_of_read reads answered
  exact ⟨⟨same, fun calm => calm_answer (.maas call) calm answers⟩, same ▸ answered⟩

theorem shown_machine {shown : Machine} (lawful : world.region.Lawful)
    (answered : world.region.answer (.getMachine x) = (.ok shown, world.region)) :
    ∃ machine, world.region.inventory.machines.get? x = some machine ∧
      shown.statusName = machine.statusName ∧
        shown.bootInterface = world.region.inventory.bootInterface? x := by
  cases found : world.region.inventory.machine x with
  | error error => simp [Region.answer, Region.getMachine, found, Except.map] at answered
  | ok machine =>
      have shows : world.region.inventory.withInterfaces machine = shown := by
        simpa [Region.answer, Region.getMachine, found, Except.map] using answered
      have own : machine.systemId = x := lawful.keyed.machine found
      refine ⟨machine, Region.machine_eq_ok found, shows ▸ rfl, ?_⟩
      rw [← shows, Inventory.withInterfaces, own]
      rfl

/-- A look at interfaces shows those of the machine, if it is not planned to fail. -/
theorem shown_interfaces {interfaces : List Interface}
    (answered : world.region.answer (.listInterfaces x) = (.ok interfaces, world.region)) :
    interfaces = world.region.inventory.interfacesOf x ∧
      world.region.planted.listInterfaces = none := by
  simp only [Region.answer, Region.listInterfaces] at answered
  split at answered
  · cases answered
  · next plain =>
      split at answered
      · cases answered
        exact ⟨rfl, plain⟩
      · cases answered

/-- Without planned faults, a stored machine is shown. -/
theorem shows_machine {machine : Machine} {error : Maas.Error} (calm : world.maasFaults = .empty)
    (stored : world.region.inventory.machines.get? x = some machine) :
    (.error error, after) ≠ world.answer (.maas (.getMachine x)) := by
  intro answers
  have replies := reply_of_calm calm answers
  simp [Region.answer, Region.getMachine, Inventory.machine, stored, Except.map] at replies

/-- Without planned faults, the interfaces of a stored machine are listed. -/
theorem lists_interfaces {machine : Machine} {error : Maas.Error} (calm : world.maasFaults = .empty)
    (plain : world.region.planted.listInterfaces = none)
    (stored : world.region.inventory.machines.get? x = some machine) :
    (.error error, after) ≠ world.answer (.maas (.listInterfaces x)) := by
  intro answers
  have replies := reply_of_calm calm answers
  simp [Region.answer, Region.listInterfaces, plain, Table.contains, stored] at replies

theorem inventory_of_error {call : Maas.Call} {error : Maas.Error}
    (answers : (.error error, after) = world.answer (.maas call)) :
    after.region.inventory = world.region.inventory := by
  rcases region_answerMaas answers with ⟨_, -, same⟩ | answered
  · rw [same]
  · exact Region.inventory_of_refused answered

theorem unchanged_of_store {call : Store.Call} {reply : call.Reply}
    (answers : (reply, after) = world.answer (.store call)) : Unchanged world after :=
  ⟨region_answerStore answers, fun calm => calm_answer (.store call) calm answers⟩

theorem interfaces_of_plain (call : Maas.Call) {reply : call.Reply} (plain : ¬Region.Rewires call)
    (answers : (reply, after) = world.answer (.maas call)) :
    after.region.inventory.interfaces = world.region.inventory.interfaces := by
  rcases region_answerMaas answers with ⟨_, -, same⟩ | answered
  · rw [same]
  · have kept := world.region.interfaces_answer call plain
    rw [answered] at kept
    exact kept

/-- A look at MAAS shows what the region answers, or is refused. -/
theorem ensures_look {context : String} {call : Maas.Call} {ok : call.Value → World → Prop}
    {err : Failure → World → Prop} (observes : Observes P kind) (is : kind (.maas call))
    (reads : call.isRead = true)
    (shown : ∀ value after, Unchanged world after →
      world.region.answer call = (.ok value, world.region) → ok value after)
    (refused : ∀ error after, P.leads world (.maas call) (.error error) after →
      after.region.inventory = world.region.inventory → err (.backend context error) after) :
    (Pass.maas context call).Ensures P ok err world := by
  refine Pass.ensures_maas.mpr ⟨observes.allows world (.maas call) is, ?_, ?_⟩
  · intro value after leads
    obtain ⟨unchanged, answered⟩ := unchanged_of_read reads (observes.answers leads)
    exact shown value after unchanged answered
  · intro error after leads
    exact refused error after leads (inventory_of_error (observes.answers leads))

theorem ensures_changeNetwork {action : String} {call : Maas.Call} {ok : call.Value → World → Prop}
    {err : Failure → World → Prop} : (changeNetwork x action call).Ensures P ok err world ↔
      P.allows world (.maas call) ∧
        (∀ value after, P.leads world (.maas call) (.ok value) after → ok value after) ∧
          ∀ error after, P.leads world (.maas call) (.error error) after →
            err (networkFailure x action error) after := by
  rw [changeNetwork, Pass.ensures_bind, Pass.ensures_tryMaas]
  refine and_congr_right fun _ => ⟨fun h => ⟨fun value after leads => ?_, fun error after leads => ?_⟩,
    fun h reply after leads => ?_⟩
  · exact Pass.ensures_pure.mp (h (.ok value) after leads)
  · exact Pass.ensures_throw.mp (h (.error error) after leads)
  · cases reply with
    | ok value => exact Pass.ensures_pure.mpr (h.1 value after leads)
    | error error => exact Pass.ensures_throw.mpr (h.2 error after leads)

variable {stock : Inventory} {iface : Interface} {links : List Link} {err : Failure → World → Prop}

/-- Unlinking takes the links away one after another, until MAAS refuses. -/
theorem unlinkAll_ensures {ok : Unit → World → Prop} {action : Link → String} (targets : List Link)
    (observes : Observes P (Wires x)) (distinct : ((stock.interfacesOf x).map (·.id)).Nodup)
    (mem : iface ∈ stock.interfacesOf x)
    (start : Relaid x iface.id links stock world.region.inventory)
    (done : ∀ after,
      Relaid x iface.id (withoutLinks links (targets.map (·.id))) stock after.region.inventory →
        ok () after)
    (refused : ∀ failure after gone linkId, Refuses P (.unlinkSubnet x iface.id linkId) →
      Relaid x iface.id (withoutLinks links gone) stock after.region.inventory → err failure after) :
    (unlinkAll x iface action targets).Ensures P ok err world := by
  induction targets generalizing world links with
  | nil => exact Pass.ensures_pure.mpr (done world start)
  | cons link rest ih =>
      refine Pass.ensures_bind.mpr (Pass.ensures_discard.mpr (ensures_changeNetwork.mpr ⟨?_, ?_, ?_⟩))
      · exact observes.allows world _ rfl
      · intro value after leads
        have relaid := start.unlink distinct mem (region_of_ok _ (observes.answers leads))
        refine ih relaid done fun failure last gone linkId refuses => ?_
        exact refused failure last (link.id :: gone) linkId refuses
      · intro error after leads
        refine refused _ after [] link.id ⟨world, error, after, leads⟩ ?_
        rw [inventory_of_error (observes.answers leads)]
        exact start

/-- Linking adds a link on the subnet that the specifier names, unless MAAS refuses. -/
theorem link_ensures {ok : Unit → World → Prop} {action : String} {params : LinkParams}
    (observes : Observes P (Wires x)) (distinct : ((stock.interfacesOf x).map (·.id)).Nodup)
    (mem : iface ∈ stock.interfacesOf x)
    (start : Relaid x iface.id links stock world.region.inventory)
    (done : ∀ after subnet linkId, Grants P (.linkSubnet x iface.id params) →
      stock.resolveSubnet params.subnet = some subnet →
        Relaid x iface.id (links ++ [⟨linkId, params.mode, some subnet, params.ipAddress⟩]) stock
          after.region.inventory → ok () after)
    (refused : ∀ failure after, Refuses P (.linkSubnet x iface.id params) →
      Relaid x iface.id links stock after.region.inventory → err failure after) :
    (discard (changeNetwork x action (.linkSubnet x iface.id params))).Ensures P ok err world := by
  refine Pass.ensures_discard.mpr (ensures_changeNetwork.mpr ⟨observes.allows world _ rfl, ?_, ?_⟩)
  · intro value after leads
    obtain ⟨subnet, linkId, names, relaid⟩ :=
      start.link distinct mem (region_of_ok _ (observes.answers leads))
    exact done after subnet linkId ⟨world, value, after, leads⟩ names relaid
  · intro error after leads
    refine refused _ after ⟨world, error, after, leads⟩ ?_
    rw [inventory_of_error (observes.answers leads)]
    exact start

/-- A world answers, and only runs in which its answers are fair are considered. -/
def heeding (fair : Exchange Effect Effect.Answer → Prop) : Discipline World :=
  .answering World.answer fair

theorem observes_heeding {fair : Exchange Effect Effect.Answer → Prop} :
    Observes (heeding fair) kind :=
  ⟨fun _ _ _ => trivial, fun leads => leads.1⟩

variable {α : Type} {pass : Pass α}

/-- What a pass ensures is found at the end of its run, if it is answered fairly. -/
theorem pass_of_heeding {fair : Exchange Effect Effect.Answer → Prop} {ok : α → World → Prop}
    (ensures : pass.Ensures (heeding fair) ok err world)
    (fairly : ∀ exchange ∈ world.exchanges pass, fair exchange) :
    Pass.either ok err (world.pass pass).1 (world.pass pass).2 :=
  ensures.run fairly

theorem ok_of_pass {value : α} {ok : α → World → Prop}
    (ensures : pass.Ensures (heeding fun _ => True) ok err world)
    (ends : world.pass pass = (.ok value, after)) : ok value after := by
  have ended := pass_of_heeding ensures fun _ _ => trivial
  rw [ends] at ended
  exact ended

theorem err_of_pass {failure : Failure} {ok : α → World → Prop}
    (ensures : pass.Ensures (heeding fun _ => True) ok err world)
    (ends : world.pass pass = (.error failure, after)) : err failure after := by
  have ended := pass_of_heeding ensures fun _ _ => trivial
  rw [ends] at ended
  exact ended

/-- A pass that never fails while it is answered fairly succeeds. -/
theorem pass_of_infallible {fair : Exchange Effect Effect.Answer → Prop} {ok : α → World → Prop}
    (ensures : pass.Ensures (heeding fair) ok (fun _ _ => False) world)
    (fairly : ∀ exchange ∈ world.exchanges pass, fair exchange) :
    ∃ value last, world.pass pass = (.ok value, last) ∧ ok value last := by
  have ended := pass_of_heeding ensures fairly
  cases result : (world.pass pass).1 with
  | ok value =>
      rw [result] at ended
      exact ⟨value, _, Prod.ext result rfl, ended⟩
  | error failure =>
      rw [result] at ended
      exact ended.elim

theorem pass_eq_ok {pass : Pass Unit} (succeeds : (world.pass pass).1.toOption.isSome = true) :
    world.pass pass = (.ok (), (world.pass pass).2) := by
  cases result : (world.pass pass).1 with
  | ok value => exact Prod.ext result rfl
  | error failure => simp [result, Except.toOption] at succeeds

theorem pass_eq_error (fails : (world.pass pass).1.toOption.isSome = false) :
    ∃ failure, world.pass pass = (.error failure, (world.pass pass).2) := by
  cases result : (world.pass pass).1 with
  | ok value => simp [result, Except.toOption] at fails
  | error failure => exact ⟨failure, Prod.ext result rfl⟩

/-- No pass plans a failure of a listing. -/
theorem plain_pass (pass : Pass α) (plain : world.region.planted.listInterfaces = none) :
    (world.pass pass).2.region.planted.listInterfaces = none := by
  refine (Program.requests_invariant (fun world : World => world.region.planted.listInterfaces = none)
    (fun effect world plain => ?_) pass.run plain).2
  cases effect with
  | maas call =>
      change (world.answerMaas call).2.region.planted.listInterfaces = none
      obtain ⟨-, ⟨-, -, same⟩ | ⟨-, same⟩⟩ := world.answerMaas_cases call
      · rw [same]
        exact plain
      · rw [same]
        exact Region.plain_answer world.region call plain
  | store call =>
      change (world.answerStore call).2.region.planted.listInterfaces = none
      rw [(world.answerStore_cases call).1]
      exact plain
  | clock => exact plain
  | count event => exact plain

/-- The answer is not an error of MAAS. -/
def granted : Exchange Effect Effect.Answer → Bool
  | ⟨.maas _, .error _⟩ => false
  | _ => true

/-- MAAS fails no call of the pass. -/
def Serves (world : World) (pass : Pass α) : Prop :=
  ∀ exchange ∈ world.exchanges pass, granted exchange = true

instance (world : World) (pass : Pass α) : Decidable (world.Serves pass) :=
  inferInstanceAs (Decidable (∀ exchange ∈ world.exchanges pass, granted exchange = true))

theorem not_leads_error {call : Maas.Call} {error : Maas.Error} :
    ¬(heeding (granted ·)).leads world (.maas call) (.error error) after :=
  fun leads => Bool.false_ne_true leads.2

/-- The pass succeeds, only looks, and leaves the region as it is. -/
structure Idles (world : World) (pass : Pass α) : Prop where
  succeeds : ∃ value, (world.pass pass).1 = .ok value
  looks : ∀ exchange ∈ world.exchanges pass, Reads exchange.1
  unchanged : (world.pass pass).2.region = world.region

/-- Where a world answers, a pass that succeeds does not fail. -/
theorem ensures_of_pass {proper : World → Effect → Prop} {value : α} {ok : α → World → Prop}
    (ensures : pass.Ensures (.attending World.answer proper) ok err world)
    (ends : world.pass pass = (.ok value, after)) :
    pass.Ensures (.attending World.answer proper) (fun _ last => ok value after ∧ last = after)
      (fun _ _ => False) world := by
  refine (ensures_determined ensures).mono ?_ ?_
  · rintro result last ⟨ended, runs⟩
    obtain ⟨⟨⟩, rfl⟩ := Prod.mk.inj (runs.symm.trans ends)
    exact ⟨ended, rfl⟩
  · rintro failure last ⟨-, runs⟩
    cases runs.symm.trans ends

theorem idles_of_ensures
    (ensures : pass.Ensures (.attending World.answer fun _ => Reads)
      (fun _ after => after.region = world.region) err world)
    (succeeds : ∃ value, (world.pass pass).1 = .ok value) : world.Idles pass := by
  have ended := (pass_of_attending ensures).1
  unfold Pass.Ensures at ensures
  refine ⟨succeeds, ensures.asked, ?_⟩
  obtain ⟨value, succeeds⟩ := succeeds
  rw [succeeds] at ended
  exact ended

/-- A pass idles that only looks and never fails. -/
theorem idles_of_infallible
    (ensures : pass.Ensures (.attending World.answer fun _ => Reads)
      (fun _ after => after.region = world.region) (fun _ _ => False) world) : world.Idles pass := by
  refine idles_of_ensures ensures ?_
  have ended := (pass_of_attending ensures).1
  cases result : (world.pass pass).1 with
  | ok value => exact ⟨value, rfl⟩
  | error failure =>
      rw [result] at ended
      exact ended.elim

theorem not_idles_of_ensures
    (ensures : pass.Ensures (heeding fun exchange => Reads exchange.1) (fun _ _ => False)
      (fun _ _ => True) world) : ¬world.Idles pass := by
  rintro ⟨⟨value, succeeds⟩, looks, -⟩
  have ended := pass_of_heeding ensures looks
  rw [succeeds] at ended
  exact ended

def managementSubnet : Subnet := .plain 1 "management" "10.0.0.0/24"

def workloadSubnet : Subnet := .plain 2 "workload" "10.20.0.0/24"

/-- A world with a machine that has an address on each of two networks for the time being. -/
def doubly (statusName : String) (first second : Subnet) : World where
  region := ((((Region.empty.after (.addMachine (.idle "m1" "node-7" statusName))).after
    (.addSubnet first)).after (.addSubnet second)).after
    (.addInterface "m1" (.physical 10 "eth0" [⟨100, .auto, some first, none⟩]))).after
    (.addInterface "m1" (.physical 11 "eth1" [⟨110, .auto, some second, none⟩]))
  clock := ⟨0, 0⟩

theorem lawful_doubly (statusName : String) (first second : Subnet) :
    (doubly statusName first second).region.Lawful :=
  ((((Region.lawful_empty.after _).after _).after _).after _).after _

/-- An address of the workload network, declared with or without an interface. -/
def hosted (interface : Option String) : StaticIpSpec :=
  { address := "10.20.0.50", gateway := "10.20.0.1", subnet := "10.20.0.0/24", interface }

end World

end MachineProvisioning
