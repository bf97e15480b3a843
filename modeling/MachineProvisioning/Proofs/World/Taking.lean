import MachineProvisioning.Proofs.Region.Composing
import MachineProvisioning.Proofs.World.Identity

/-! # What a task takes

A task records an instance only when it started without a record, and then one that it has come by in one
of three ways: a machine that was ready was allocated, a machine of the hostname was adopted, or a machine
was composed. Until then nothing has been recorded since its start.
-/

namespace MachineProvisioning

open Resource (Key Spec)
open Store (Checkpoint)
open Maas (Machine)
open Region (Stores)
open Engine

namespace World

/-- The machine is there and has the hostname that a virtual one is known by. Nobody asks whose it is. -/
structure Adopts (start : World) (key : Key) (spec : Spec) (x : String) (machine : Machine) : Prop where
  virtual : spec.mode = .virtualized
  there : start.region.inventory.machines.get? x = some machine
  named : Wiring.hostnameMatches machine (spec.hostname.getD key.name) = true

/-- How a task that starts in this world can come by an instance. -/
inductive Obtains (start : World) (key : Key) (spec : Spec) (x : String) : Prop where
  | allocated (physical : spec.mode = .bareMetal) (machine : Machine)
      (there : start.region.inventory.machines.get? x = some machine)
      (satisfies : Region.satisfies (allocation spec) machine = true)
  | adopted (machine : Machine) (adopts : Adopts start key spec x machine)
  | composed (virtual : spec.mode = .virtualized)
      (next : x = Region.composedId start.region.nextId)

/-- The machines and the records are those of the start, and no id has been given away. -/
structure Unmoved (start world : World) : Prop where
  machines : world.region.inventory.machines = start.region.inventory.machines
  nextId : world.region.nextId = start.region.nextId
  recorded : ∀ key, world.memory.checkpoint? key = start.memory.checkpoint? key

/-- The instance has been come by since the start, and nothing has been recorded. It is not ready, unless
    it was adopted. -/
structure Holds (start : World) (key : Key) (spec : Spec) (x : String) (world : World) : Prop where
  obtains : Obtains start key spec x
  there : ∃ machine, world.region.inventory.machines.get? x = some machine ∧
    (machine.statusName = "Ready" → Adopts start key spec x machine)
  recorded : ∀ key, world.memory.checkpoint? key = start.memory.checkpoint? key

/-- The record is one of a declared machine that had none, and names a machine that has been come by. -/
def Rightful (start : World) (key : Key) (spec? : Option Spec) (checkpoint : Checkpoint)
    (world : World) : Prop :=
  start.memory.checkpoint? key = none ∧
    ∃ spec ∈ spec?, Holds start key spec checkpoint.instanceId world

variable {start world after : World} {key : Key} {spec : Spec} {spec? : Option Spec}
  {options : Options} {x : String} {good : Checkpoint → World → Prop}

theorem Unmoved.refl (world : World) : Unmoved world world := ⟨rfl, rfl, fun _ => rfl⟩

theorem Unmoved.lawful (unmoved : Unmoved start world) (lawful : start.region.Lawful) :
    world.region.Lawful := lawful.congr unmoved.machines

theorem checkpoint?_answerMaas {call : Maas.Call} {reply : call.Reply}
    (answers : (reply, after) = world.answer (.maas call)) (key : Key) :
    after.memory.checkpoint? key = world.memory.checkpoint? key :=
  checkpoint?_answered (.maas call) answers key

theorem nextId_answerMaas {call : Maas.Call} {reply : call.Reply}
    (answers : (reply, after) = world.answer (.maas call)) (plain : Region.draws call = 0) :
    after.region.nextId = world.region.nextId := by
  rcases region_answerMaas answers with ⟨-, -, same⟩ | answered
  · rw [same]
  · obtain ⟨k, few, drawn⟩ := (world.region.answer_entered call).drawn
    obtain rfl : k = 0 := by omega
    rw [answered] at drawn
    exact drawn.trans (UInt64.add_zero _)

theorem Unmoved.answeredMaas {call : Maas.Call} {reply : call.Reply} (unmoved : Unmoved start world)
    (answers : (reply, after) = world.answer (.maas call)) (silent : ¬Stores call)
    (plain : Region.draws call = 0) : Unmoved start after :=
  ⟨(machines_answerMaas answers (.inl silent)).trans unmoved.machines,
    (nextId_answerMaas answers plain).trans unmoved.nextId,
    fun key => (checkpoint?_answerMaas answers key).trans (unmoved.recorded key)⟩

/-- A composition that is refused gives no id away. -/
theorem Unmoved.refused {hostId : UInt64} {params : Maas.ComposeParams} {error : Maas.Error}
    (unmoved : Unmoved start world)
    (answers : (.error error, after) = world.answer (.maas (.compose hostId params))) :
    Unmoved start after := by
  refine ⟨(machines_answerMaas answers (.inr ⟨error, rfl⟩)).trans unmoved.machines, ?_,
    fun key => (checkpoint?_answerMaas answers key).trans (unmoved.recorded key)⟩
  refine Eq.trans ?_ unmoved.nextId
  rcases region_answerMaas answers with ⟨-, -, same⟩ | answered
  · rw [same]
  · exact Region.nextId_of_refused answered

theorem Unmoved.read {call : Store.Call} {reply : call.Reply} (unmoved : Unmoved start world)
    (answers : (reply, after) = world.answer (.store call))
    (reads : ¬(Effect.store call).IsWrite) : Unmoved start after := by
  have region := region_answerStore answers
  refine ⟨?_, ?_, fun key => ?_⟩
  · rw [region]
    exact unmoved.machines
  · rw [region]
    exact unmoved.nextId
  · refine Eq.trans ((checkpoint?_answered (.store call) answers key).trans ?_) (unmoved.recorded key)
    cases call <;> first | rfl | exact absurd trivial reads

theorem Unmoved.surveyed {effect : Effect} {reply : effect.Answer} (unmoved : Unmoved start world)
    (surveys : Surveys effect) (answers : (reply, after) = world.answer effect) :
    Unmoved start after := by
  cases effect with
  | maas call =>
      refine unmoved.answeredMaas answers ?_ ?_
      · cases call <;> first | exact id | cases surveys
      · cases call <;> first | rfl | cases surveys
  | store call =>
      refine unmoved.read answers ?_
      cases call <;> first | exact id | cases surveys
  | clock => cases surveys
  | count event => cases surveys

/-- What is allocated was there, was ready and had what is asked for. -/
theorem Unmoved.allocated {shown : Machine} (lawful : start.region.Lawful)
    (physical : spec.mode = .bareMetal) (unmoved : Unmoved start world)
    (answers : (.ok shown, after) = world.answer (.maas (.allocate (allocation spec)))) :
    Holds start key spec shown.systemId after := by
  obtain ⟨stored, ⟨machine, found, rfl⟩, tells, known⟩ :=
    stored_of_ok (.allocate (allocation spec)) trivial answers
  obtain ⟨there, satisfies⟩ := (unmoved.lawful lawful).candidate rfl found
  rw [unmoved.machines] at there
  change shown.systemId = machine.systemId at tells
  rw [tells]
  refine ⟨.allocated physical machine there satisfies, ?_, fun key =>
    (checkpoint?_answerMaas answers key).trans (unmoved.recorded key)⟩
  exact ⟨_, known, fun ready => absurd (show "Allocated" = "Ready" from ready) (by decide)⟩

/-- What is composed gets the next id. -/
theorem Unmoved.composed {hostId : UInt64} {params : Maas.ComposeParams} {vm : Maas.ComposedVm}
    (virtual : spec.mode = .virtualized) (unmoved : Unmoved start world)
    (answers : (.ok vm, after) = world.answer (.maas (.compose hostId params))) :
    Holds start key spec vm.systemId after := by
  obtain ⟨stored, ⟨host, -, -, rfl⟩, tells, known⟩ :=
    stored_of_ok (.compose hostId params) trivial answers
  have own : vm.systemId = Region.composedId world.region.nextId := tells
  rw [own]
  refine ⟨.composed virtual (congrArg Region.composedId unmoved.nextId), ?_, fun key =>
    (checkpoint?_answerMaas answers key).trans (unmoved.recorded key)⟩
  exact ⟨_, known, fun ready => absurd (show "Commissioning" = "Ready" from ready) (by decide)⟩

/-- The first machine of the hostname in a listing was there. -/
theorem Unmoved.finds {p : Machine → Bool} {machines : List Machine}
    (lawful : start.region.Lawful) (virtual : spec.mode = .virtualized)
    (unmoved : Unmoved start world)
    (lists : machines = (world.region.inventory.machines.values.filter p).map
      world.region.inventory.withInterfaces) :
    Finds (Unmoved start) (Holds start key spec) (spec.hostname.getD key.name) machines world := by
  unfold Finds
  split
  · next shown found =>
      rw [lists] at found
      obtain ⟨machine, known, named⟩ := (unmoved.lawful lawful).listed found
      have adopts : Adopts start key spec shown.systemId machine :=
        ⟨virtual, unmoved.machines ▸ known, named⟩
      exact ⟨.adopted machine adopts, ⟨machine, known, fun _ => adopts⟩, unmoved.recorded⟩
  · exact unmoved

theorem Unmoved.listed {filters : List (String × String)} {machines : List Machine}
    (lawful : start.region.Lawful) (virtual : spec.mode = .virtualized)
    (unmoved : Unmoved start world)
    (answers : (.ok machines, after) = world.answer (.maas (.listMachines filters))) :
    Finds (Unmoved start) (Holds start key spec) (spec.hostname.getD key.name) machines after := by
  obtain ⟨listed, same⟩ := Prod.mk.inj (region_of_ok (.listMachines filters) answers)
  have kept : Unmoved start after := unmoved.answeredMaas answers id rfl
  rw [same] at listed
  exact kept.finds lawful virtual (Except.ok.inj listed).symm

theorem Unmoved.listedHost {hostId : UInt64} {machines : List Machine}
    (lawful : start.region.Lawful) (virtual : spec.mode = .virtualized)
    (unmoved : Unmoved start world)
    (answers : (.ok machines, after) = world.answer (.maas (.listHostVms hostId))) :
    Finds (Unmoved start) (Holds start key spec) (spec.hostname.getD key.name) machines after := by
  have kept : Unmoved start after := unmoved.answeredMaas answers id rfl
  have answered := region_of_ok (.listHostVms hostId) answers
  change Region.listHostVms hostId world.region = _ at answered
  unfold Region.listHostVms at answered
  dsimp only at answered
  split at answered
  · cases answered
  · obtain ⟨listed, same⟩ := Prod.mk.inj answered
    rw [same] at listed
    exact kept.finds lawful virtual (Except.ok.inj listed).symm

theorem rightful_acquires (vacant : start.memory.checkpoint? key = none) (declared : spec ∈ spec?) :
    Acquires (recording key (Rightful start key spec?)) (Unmoved start) (Holds start key spec)
      (fun _ _ => True) key (fun _ _ => True) where
  surveys := fun world effect unmoved surveys =>
    ⟨(recording_tolerates_routine world effect trivial (.inl surveys)).1,
      fun _ _ answers => unmoved.surveyed surveys answers⟩
  fails _ _ _ _ := trivial
  unannotated _ _ _ _ _ _ _ := trivial
  records := by
    rintro x world checkpoint holds rfl k other ⟨⟩
    exact ⟨rfl, vacant, spec, declared, holds⟩
  recorded _ _ _ _ _ _ _ := trivial
  counts _ := recording_tolerates_forgoes.mono fun _ counts => by
    obtain ⟨event, rfl⟩ := counts
    trivial

theorem rightful_allocates (lawful : start.region.Lawful) (physical : spec.mode = .bareMetal) :
    Allocates (recording key (Rightful start key spec?)) (Unmoved start) (Holds start key spec)
      (fun _ => True) key spec (fun _ _ => True) where
  allowed _ _ := allowed_forgoing (.maas (.allocate (allocation spec))) trivial
  allocated _ _ _ unmoved answers := ⟨trivial, unmoved.allocated lawful physical answers⟩
  refused _ _ _ _ _ := ⟨fun _ _ => trivial, fun _ _ =>
    routine_failWith recording_tolerates_routine (fun _ _ _ => trivial) trivial⟩
  unrecorded x _ _ _ _ _ _ _ :=
    ⟨allowed_forgoing (.maas (.release x false)) trivial, fun _ _ _ => trivial⟩

theorem rightful_composes (lawful : start.region.Lawful) (virtual : spec.mode = .virtualized) :
    Composes (recording key (Rightful start key spec?)) (Unmoved start) (Holds start key spec) key
      spec (fun _ _ => True) where
  allowed hostId params _ _ _ := allowed_forgoing (.maas (.compose hostId params)) trivial
  composed _ _ _ _ _ _ unmoved answers := unmoved.composed virtual answers
  refused _ _ _ _ _ _ unmoved answers := ⟨unmoved.refused answers, fun _ _ =>
    routine_failWith recording_tolerates_routine (fun _ _ _ => trivial) trivial⟩
  lists _ _ := allowed_forgoing (.maas (.listMachines _)) trivial
  listed _ _ _ unmoved answers := unmoved.listed lawful virtual answers
  listFailed _ _ _ unmoved answers := unmoved.answeredMaas answers id rfl
  listsHost hostId _ _ := allowed_forgoing (.maas (.listHostVms hostId)) trivial
  listedHost _ _ _ _ unmoved answers := unmoved.listedHost lawful virtual answers
  listHostFailed _ _ _ _ unmoved answers := unmoved.answeredMaas answers id rfl
  unrecorded _ _ _ _ _ _ _ _ := trivial

theorem rightful_continues :
    Continues (recording key good) (fun _ _ => True) (fun _ _ => True) key
      (spec.hostname.getD key.name) (fun _ _ => True) where
  sustains _ := recording_sustains
  known _ := trivial
  looks x _ _ := allowed_forgoing (.maas (.getMachine x)) trivial
  seen _ _ _ _ _ _ := ⟨trivial, trivial⟩
  unseen _ _ _ _ _ _ _ _ := trivial
  broken _ y _ _ _ hostId _ := recording_recoverBroken y hostId
  failed _ y _ _ _ := recording_release y

theorem rightful_undertakes (lawful : start.region.Lawful) :
    Undertakes (recording key (Rightful start key spec?)) key spec? (fun _ => True) start where
  allowed := allowed_forgoing (.store (.load key)) trivial
  unloaded _ _ _ := trivial
  loaded _ _ _ := trivial
  provisions := by
    intro options spec saved world declared answers
    have unmoved : Unmoved start world := (Unmoved.refl start).read answers id
    cases recorded : saved.checkpoint with
    | some checkpoint =>
        rw [provisionFrom, recorded]
        exact recording_resume checkpoint
    | none =>
        have vacant : start.memory.checkpoint? key = none :=
          (checkpoint_loaded answers).symm.trans recorded
        exact (provisionFrom_ensures (rightful_acquires vacant declared)
          (rightful_allocates lawful) (rightful_composes lawful) rightful_continues recorded
          unmoved).mono (fun _ _ _ => trivial) fun _ _ kept => kept
  releases _ checkpoint _ _ _ :=
    asks_release.ensures (recording_tolerates_routine.mono fun _ h => .inr (.inr ⟨key, _, h⟩)) trivial
  concludes := recording_tolerates_forgoes.mono fun _ => .of_concludes

/-- When a task asks to record an instance, it started without a record and has come by a machine that is
    there, and nothing has been recorded since. -/
theorem records_rightful (lawful : start.region.Lawful) {task : Task} {found : World} {k : Key}
    {checkpoint : Checkpoint}
    (mem : (found, .store (.recordInstance k checkpoint)) ∈ start.requests key task) :
    k = key ∧ Rightful start key task.spec? checkpoint found :=
  (rightful_undertakes lawful).keeps.requests _ mem k checkpoint rfl

end World

end MachineProvisioning
