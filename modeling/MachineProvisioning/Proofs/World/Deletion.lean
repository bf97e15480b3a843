import MachineProvisioning.Proofs.Engine.Strays
import MachineProvisioning.Proofs.World.Identity
import MachineProvisioning.Proofs.World.Tenure
import Mathlib.Data.List.Induction

/-! # What a deletion leaves behind

A machine is held from its allocation or composition until it is released or removed. A cleanup that
succeeds is followed by the deletion of the resource, so that no task looks after a machine that is
held still. Those are the machines that some task has deserted and that have been strays since, and
one that MAAS has denied in answer to the cleanup itself.
-/

namespace MachineProvisioning

open Resource (Key)
open Engine (Account Effect Task Transcript Truthful Denied)
open Maas (Machine)

namespace Region

/-- The machine is in MAAS. -/
def Has (region : Region) (x : String) : Prop :=
  ∃ machine, region.inventory.machines.get? x = some machine

variable {region after : Region} {x : String} {call : Maas.Call}

theorem Has.same (has : region.Has x)
    (machines : after.inventory.machines = region.inventory.machines) : after.Has x :=
  has.imp fun _ found => machines ▸ found

theorem Has.put {stored : Machine} (has : region.Has x)
    (put : after.inventory.machines = region.inventory.machines.insert stored.systemId stored) :
    after.Has x := by
  obtain ⟨machine, found⟩ := has
  unfold Has
  rw [put, Table.get?_insert]
  split
  · exact ⟨stored, rfl⟩
  · exact ⟨machine, found⟩

/-- No call removes a machine. -/
theorem Has.answered {reply : call.Reply} (has : region.Has x)
    (answers : Answers region call reply after) : after.Has x := by
  cases answers with
  | refused same => exact has.same same
  | quiet _ same => exact has.same same
  | stored _ _ _ put => exact has.put put

/-- What a call makes the caller hold is there. -/
theorem Has.kept {held : List String} {reply : call.Reply} (answers : Answers region call reply after)
    (there : ∀ y ∈ held, region.Has y) :
    ∀ y ∈ Account.keep held (.maas call) reply, after.Has y := by
  intro y mem
  have old : y ∈ held → after.Has y := fun mem => (there y mem).answered answers
  cases reply with
  | error error => exact old (by cases call <;> exact mem)
  | ok value =>
      have taken : ∀ machine : Machine, after.inventory.machines =
          region.inventory.machines.insert machine.systemId machine → ∀ z, z = machine.systemId →
            y ∈ held.insert z → after.Has y := by
        rintro machine put _ rfl mem
        rcases List.mem_insert_iff.mp mem with rfl | mem
        · exact ⟨machine, by rw [put, Table.get?_insert, if_pos rfl]⟩
        · exact old mem
      cases call with
      | allocate params =>
          obtain ⟨machine, -, tells, put⟩ := answers.of_stores trivial
          exact taken machine put _ tells mem
      | compose hostId params =>
          obtain ⟨machine, -, tells, put⟩ := answers.of_stores trivial
          exact taken machine put _ tells mem
      | release z force => exact old (List.mem_filter.mp mem).1
      | _ => exact old mem

/-- A change from outside removes the machine that it removes. -/
theorem Has.changed {change : Change} (has : region.Has x) (stays : change ≠ .removeMachine x) :
    (region.after change).Has x := by
  have modified : ∀ (y : String) (f : Machine → Machine),
      Has { region with inventory := region.inventory.modifyMachine y f } x := by
    intro y f
    obtain ⟨machine, found⟩ := has
    change ∃ machine, (region.inventory.machines.modify y f).get? x = some machine
    rw [Table.get?_modify]
    split
    · exact ⟨f machine, by rw [found]; rfl⟩
    · exact ⟨machine, found⟩
  cases change with
  | addMachine machine => exact has.put rfl
  | removeMachine y =>
      obtain ⟨machine, found⟩ := has
      refine ⟨machine, ?_⟩
      change (region.inventory.machines.erase y).get? x = some machine
      rw [Table.get?_erase, if_neg (fun same => stays (by rw [same]))]
      exact found
  | setStatus y statusName => exact modified y _
  | setPower y powerState => exact modified y _
  | commissioned y => exact modified y _
  | deployed y => exact modified y _
  | addHost host => exact has
  | addSubnet subnet => exact has
  | addInterface y iface => exact has
  | addAllocation allocation => exact has

end Region

namespace World

variable {world : World} {held : List String}

/-- What a request makes a task hold is there. -/
theorem has_answer (effect : Effect) (there : ∀ y ∈ held, world.region.Has y) :
    ∀ y ∈ Account.keep held effect (world.answer effect).1,
      (world.answer effect).2.region.Has y := by
  cases effect with
  | maas call =>
      change ∀ y ∈ Account.keep held (.maas call) (world.answerMaas call).1,
        (world.answerMaas call).2.region.Has y
      obtain ⟨-, ⟨error, reply, region⟩ | ⟨reply, region⟩⟩ := world.answerMaas_cases call
      · rw [reply, region]
        exact fun y mem => there y (by cases call <;> exact mem)
      · rw [reply, region]
        exact Region.Has.kept (world.region.answer_conforms call) there
  | store call =>
      change ∀ y ∈ held, (world.answerStore call).2.region.Has y
      rw [(world.answerStore_cases call).1]
      exact there
  | clock => exact there
  | count event => exact there

/-- What is held after a task is there. -/
theorem has_exchanges {α : Type} {key : Key} (p : Engine.Procedure α) (account : Account)
    (there : ∀ y ∈ account.held, world.region.Has y) :
    ∀ y ∈ (account.nextAll key (p.exchanges World.answer world)).held,
      (world.run p).2.region.Has y := by
  induction p generalizing world account with
  | done a => exact there
  | ask effect next ih => exact ih _ _ (has_answer effect there)

/-- A run answers truthfully, and its account agrees with what is recorded at the end. -/
theorem run_next {α : Type} {key : Key} (p : Engine.Procedure α) (account : Account)
    (keyed : world.region.Keyed) (agrees : account.recorded = world.memory.checkpoint? key) :
    (∀ before exchange after, p.exchanges World.answer world = before ++ exchange :: after →
      Truthful key (account.nextAll key before) exchange) ∧
    (account.nextAll key (p.exchanges World.answer world)).recorded =
      (world.run p).2.memory.checkpoint? key := by
  obtain ⟨truthful, last⟩ := run_truthful p world account keyed agrees
  refine ⟨fun before exchange after split => ?_, (Account.recorded_nextAll rfl _).trans last⟩
  obtain ⟨carries, reads⟩ := truthful before exchange after split
  exact ⟨carries, by rwa [Account.recorded_nextAll rfl]⟩

end World

/-- What happens to a declared machine: a task about it, or a change of the region from outside. -/
inductive Happening where
  | task (task : Task)
  | change (change : Region.Change)

namespace Tenure

variable {key : Key} {tenure start : Tenure} {x : String} {happenings : List Happening}

/-- What a task exchanges with the world. -/
def exchanged (key : Key) (tenure : Tenure) (task : Task) : Transcript :=
  (task.program key).exchanges World.answer tenure.world

/-- The world and the machines held afterwards. A machine that is removed is not held any more. -/
def proceed (key : Key) (tenure : Tenure) : Happening → Tenure
  | .task task =>
      { world := (tenure.world.run (task.program key)).2
        held := ((tenure.account key).nextAll key (tenure.exchanged key task)).held }
  | .change change =>
      { world := { tenure.world with region := tenure.world.region.after change }
        held := match change with
          | .removeMachine x => tenure.held.filter (· ≠ x)
          | _ => tenure.held }

/-- The world and the machines held after a run. -/
def proceedAll (key : Key) (tenure : Tenure) (happenings : List Happening) : Tenure :=
  happenings.foldl (proceed key) tenure

@[simp] theorem proceedAll_append (happenings : List Happening) (last : Happening) :
    tenure.proceedAll key (happenings ++ [last]) =
      (tenure.proceedAll key happenings).proceed key last := by
  simp [proceedAll]

/-- The task deserts the machine. -/
def Deserts (key : Key) (tenure : Tenure) (task : Task) (x : String) : Prop :=
  ∃ exchange ∈ tenure.exchanged key task, Engine.Deserts key x exchange.1 exchange.2

/-- The machine is held, and the record does not name it. -/
def Strays (key : Key) (tenure : Tenure) (x : String) : Prop := (tenure.account key).Strays x

/-- A task has deserted the machine, which was no stray before and has been one ever since. -/
def Deserted (key : Key) (start : Tenure) (happenings : List Happening) (x : String) : Prop :=
  ∃ before task after, happenings = before ++ .task task :: after ∧
    ¬(start.proceedAll key before).Strays key x ∧
    (start.proceedAll key before).Deserts key task x ∧
    ∀ first, first <+: after →
      (start.proceedAll key (before ++ .task task :: first)).Strays key x

/-- Machines are stored under their ids, and those that are held are there. -/
structure Stocked (tenure : Tenure) : Prop where
  keyed : tenure.world.region.Keyed
  there : ∀ y ∈ tenure.held, tenure.world.region.Has y

/-- The account after a task is the account of what is recorded and held afterwards. -/
theorem account_task (keyed : tenure.world.region.Keyed) (task : Task) :
    (tenure.proceed key (.task task)).account key =
      (tenure.account key).nextAll key (tenure.exchanged key task) := by
  obtain ⟨-, last⟩ := World.run_next (task.program key) (tenure.account key) keyed rfl
  unfold account proceed
  congr 1
  exact last.symm

/-- A machine that becomes a stray is deserted. -/
theorem deserts_of_strays (keyed : tenure.world.region.Keyed) (task : Task)
    (tame : ¬tenure.Strays key x) (strays : (tenure.proceed key (.task task)).Strays key x) :
    tenure.Deserts key task x := by
  by_contra keeps
  obtain ⟨truthful, -⟩ := World.run_next (task.program key) (tenure.account key) keyed rfl
  have follows := Engine.follows_minding (x := x) truthful fun exchange mem deserts =>
    keeps ⟨exchange, mem, deserts⟩
  have trace := Program.trace_exchanges World.answer (task.program key) tenure.world
  unfold Strays at strays
  rw [account_task keyed] at strays
  exact (Engine.minding_undertakes tame).keeps.follow trace follows strays

/-- No change from outside makes a machine a stray. -/
theorem strays_of_changed {change : Region.Change}
    (strays : (tenure.proceed key (.change change)).Strays key x) : tenure.Strays key x := by
  refine ⟨?_, strays.unrecorded⟩
  have held := strays.held
  cases change with
  | removeMachine y => exact (List.mem_filter.mp held).1
  | _ => exact held

theorem Stocked.proceed (stocked : tenure.Stocked) (happening : Happening) :
    (tenure.proceed key happening).Stocked := by
  cases happening with
  | task task =>
      refine ⟨?_, World.has_exchanges (task.program key) (tenure.account key) stocked.there⟩
      exact (Program.exchanges_invariant (fun world : World => world.region.Keyed) (fun _ => True)
        (fun effect world keyed => ⟨trivial, (world.carries_answer "" effect keyed).2⟩) _ _
        stocked.keyed).2
  | change change =>
      refine ⟨stocked.keyed.after change, fun y mem => ?_⟩
      cases change with
      | removeMachine z =>
          obtain ⟨held, other⟩ := List.mem_filter.mp mem
          refine (stocked.there y held).changed ?_
          rintro ⟨⟩
          simp at other
      | _ => exact (stocked.there y mem).changed nofun

theorem Stocked.proceedAll (stocked : start.Stocked) (happenings : List Happening) :
    (start.proceedAll key happenings).Stocked := by
  induction happenings generalizing start with
  | nil => exact stocked
  | cons first rest ih => exact ih (stocked.proceed first)

/-- The strays after a run are the machines that have been deserted in it for good. -/
theorem strays_iff_deserted (stocked : start.Stocked) (tame : ¬start.Strays key x) :
    (start.proceedAll key happenings).Strays key x ↔ start.Deserted key happenings x := by
  constructor
  · -- From the end of the run back to the last task before which the machine was no stray.
    induction happenings using List.reverseRecOn with
    | nil => exact fun strays => absurd strays tame
    | append_singleton happenings last ih =>
        intro strays
        rw [proceedAll_append] at strays
        by_cases before : (start.proceedAll key happenings).Strays key x
        · obtain ⟨early, task, after, rfl, first, deserts, since⟩ := ih before
          refine ⟨early, task, after ++ [last], by simp, first, deserts, fun part initial => ?_⟩
          obtain rfl | initial := List.prefix_concat_iff.mp initial
          · rw [← List.cons_append, ← List.append_assoc, proceedAll_append]
            exact strays
          · exact since part initial
        · cases last with
          | task task =>
              have deserts := deserts_of_strays (stocked.proceedAll happenings).keyed task before strays
              refine ⟨happenings, task, [], rfl, before, deserts, fun part initial => ?_⟩
              rw [List.prefix_nil.mp initial, proceedAll_append]
              exact strays
          | change change => exact absurd (strays_of_changed strays) before
  · rintro ⟨before, task, after, rfl, -, -, since⟩
    exact since after (List.prefix_refl after)

theorem pass_of_cleanup {world : World} (succeeds : (world.cleanup key).1.isOk) :
    ∃ action, (world.pass (Engine.cleanup key)).1 = .ok action := by
  unfold World.cleanup at succeeds
  split at succeeds
  · next action _ same => exact ⟨action, by rw [same]⟩
  · cases succeeds

/-- What is held after a cleanup that succeeds are the strays, and the machine that MAAS has denied. -/
theorem held_cleanup (keyed : tenure.world.region.Keyed)
    (succeeds : (tenure.world.cleanup key).1.isOk) :
    x ∈ (tenure.proceed key (.task .cleanup)).held ↔
      tenure.Strays key x ∨ x ∈ tenure.held ∧ Denied x (tenure.exchanged key .cleanup) := by
  have exchanges : tenure.exchanged key .cleanup = tenure.world.exchanges (Engine.cleanup key) :=
    Program.exchanges_map World.answer (Engine.cleanup key).run _ tenure.world
  obtain ⟨truthful, -⟩ :=
    World.run_next (Engine.cleanup key).run (tenure.account key) keyed rfl
  have trace := Program.trace_exchanges World.answer (Engine.cleanup key).run tenure.world
  obtain ⟨cleaned, -⟩ := Engine.cleaning_cleanup.trace trace truthful
  obtain ⟨action, ended⟩ := pass_of_cleanup succeeds
  change ((Engine.cleanup key).run.run World.answer tenure.world).1 = .ok action at ended
  rw [ended] at cleaned
  have left := cleaned.held x
  change x ∈ ((tenure.account key).nextAll key (tenure.exchanged key .cleanup)).held ↔ _
  rw [exchanges]
  refine left.trans ?_
  by_cases own : (tenure.account key).recorded.map (·.instanceId) = some x
  · have tame : ¬tenure.Strays key x := fun strays => strays.unrecorded own
    simp only [own, forall_const, tame, false_or]
    rfl
  · simp only [own, false_imp_iff, and_true]
    exact ⟨fun held => .inl ⟨held, own⟩, fun either => either.elim (·.held) (·.1)⟩

/-- After a run and a cleanup that succeeds, a machine is left behind in MAAS, unreleased and without a
    record, exactly when a task has deserted it for good or MAAS has denied it in the cleanup. -/
theorem leaves_deserted_iff {world : World} (keyed : world.region.Keyed)
    (happenings : List Happening)
    (succeeds : ((proceedAll key { world } happenings).world.cleanup key).1.isOk) (x : String) :
    x ∈ (proceedAll key { world } (happenings ++ [.task .cleanup])).held ∧
        (proceedAll key { world } (happenings ++ [.task .cleanup])).world.region.Has x ↔
      Deserted key { world } happenings x ∨ x ∈ (proceedAll key { world } happenings).held ∧
        Denied x ((proceedAll key { world } happenings).exchanged key .cleanup) := by
  have start : Stocked { world } := ⟨keyed, fun y mem => nomatch mem⟩
  have stocked : (proceedAll key { world } happenings).Stocked := start.proceedAll happenings
  have tame : ¬Strays key { world } x := fun strays => nomatch strays.held
  rw [proceedAll_append, ← strays_iff_deserted start tame, ← held_cleanup stocked.keyed succeeds]
  exact and_iff_left_of_imp ((stocked.proceed _).there x)

/-- A virtual machine is composed and not recorded. -/
def forgotten : List Happening := [.task (.reconcile {} World.modest)]

/-- The machine that was composed is left behind by the cleanup. -/
theorem leaves_deserted_iff_forgotten :
    let key : Key := ⟨"a", "worker-0"⟩
    ((proceedAll key { world := World.forgetful } forgotten).world.cleanup key).1.isOk ∧
      Deserted key { world := World.forgetful } forgotten "vm1000" := by
  intro key
  have succeeds :
      ((proceedAll key { world := World.forgetful } forgotten).world.cleanup key).1.isOk := by
    decide +kernel
  have left : "vm1000" ∈
      (proceedAll key { world := World.forgetful } (forgotten ++ [.task .cleanup])).held := by
    decide +kernel
  have known : (proceedAll key { world := World.forgetful }
      (forgotten ++ [.task .cleanup])).world.region.Has "vm1000" :=
    Option.isSome_iff_exists.mp (by decide +kernel)
  have asked : ((proceedAll key { world := World.forgetful } forgotten).exchanged key .cleanup).map
      (·.1) = [.store (.load key)] := by decide +kernel
  have keyed : World.forgetful.region.Keyed := Region.keyed_empty.after _
  obtain deserted | ⟨-, exchange, mem, denies⟩ :=
    (leaves_deserted_iff keyed forgotten succeeds "vm1000").mp ⟨left, known⟩
  · exact ⟨succeeds, deserted⟩
  · have load : exchange.1 ∈ [Effect.store (.load key)] := asked ▸ List.mem_map_of_mem mem
    obtain ⟨effect, answer⟩ := exchange
    cases List.mem_singleton.mp load
    cases denies

/-- The cleanup succeeds, and the machine that was composed for the resource is still in MAAS. -/
theorem leaves_composed_machine_forgotten :
    ¬(((proceedAll ⟨"a", "worker-0"⟩ { world := World.forgetful } forgotten).world.cleanup
        ⟨"a", "worker-0"⟩).1.isOk →
      ∀ x ∈ (proceedAll ⟨"a", "worker-0"⟩ { world := World.forgetful }
          (forgotten ++ [.task .cleanup])).held,
        ¬(proceedAll ⟨"a", "worker-0"⟩ { world := World.forgetful }
          (forgotten ++ [.task .cleanup])).world.region.Has x) := by
  intro claim
  exact claim (by decide +kernel) "vm1000" (by decide +kernel)
    (Option.isSome_iff_exists.mp (by decide +kernel))

end Tenure

end MachineProvisioning
