import MachineProvisioning.Proofs.World.Fleet
import MachineProvisioning.Proofs.World.Taking

/-! # How an instance comes to be shared

A run shares an instance exactly when one of its tasks takes over an instance: the task has none recorded
when it starts, and records one that another declared machine has recorded by then. A task that takes
nothing over never shares anything, not even for a while, since nothing else is recorded in it.

A composed machine gets the next id. Where that is the id of a recorded instance, it was brought in from
outside, or ten thousand numbers have been taken.
-/

namespace MachineProvisioning

open Program (Exchange)
open Resource (Key)
open Store (Checkpoint)
open Engine (Effect Task Unshared recordAfter)
open Region (Event Unknown)

namespace World

/-- A declared machine has the instance recorded. -/
def Claimed (world : World) (x : String) : Prop :=
  ∃ key checkpoint, world.memory.checkpoint? key = some checkpoint ∧ checkpoint.instanceId = x

/-- The task gets to record the instance. -/
def Books (world : World) (key : Key) (task : Task) (x : String) : Prop :=
  ∃ checkpoint, checkpoint.instanceId = x ∧
    ⟨.store (.recordInstance key checkpoint), .ok ()⟩ ∈
      (task.program key).exchanges World.answer world

/-- The task starts without a record, and comes by an instance and records it that another declared machine
    has recorded already. -/
structure TakesOver (world : World) (key : Key) (task : Task) (x : String) : Prop where
  vacant : world.memory.checkpoint? key = none
  claimed : world.Claimed x
  obtains : ∃ spec ∈ task.spec?, Obtains world key spec x
  books : world.Books key task x

variable {world found : World} {key other : Key} {task : Task} {x : String} {effect : Effect}
  {checkpoint : Checkpoint}

/-- What is recorded after a request was recorded before, or is recorded by it. -/
theorem checkpoint?_cases (held : (world.answer effect).2.memory.checkpoint? key = some checkpoint) :
    world.memory.checkpoint? key = some checkpoint ∨
      (⟨effect, (world.answer effect).1⟩ : Exchange Effect Effect.Answer) =
        ⟨.store (.recordInstance key checkpoint), .ok ()⟩ := by
  rw [world.checkpoint?_answer key effect] at held
  generalize (world.answer effect).1 = reply at held ⊢
  unfold recordAfter at held
  split at held
  · split at held
    · next same =>
        cases held
        subst same
        exact .inr rfl
    · exact .inl held
  · split at held
    · cases held
    · exact .inl held
  · exact .inl held

theorem exchange_mem (mem : (found, effect) ∈ world.requests key task) :
    ⟨effect, (found.answer effect).1⟩ ∈ (task.program key).exchanges World.answer world := by
  rw [Program.exchanges_eq_map]
  exact List.mem_map_of_mem (f := fun request : World × Effect =>
    (⟨request.2, (World.answer request.2 request.1).1⟩ : Exchange Effect Effect.Answer)) mem

/-- An instance that is recorded while another declared machine has it recorded is taken over. -/
theorem takesOver_of_booked (lawful : world.region.Lawful) {k : Key} {held : Checkpoint}
    (mem : (found, effect) ∈ world.requests key task)
    (booked : (⟨effect, (found.answer effect).1⟩ : Exchange Effect Effect.Answer) =
      ⟨.store (.recordInstance k checkpoint), .ok ()⟩)
    (known : found.memory.checkpoint? other = some held)
    (same : held.instanceId = checkpoint.instanceId) :
    world.TakesOver key task checkpoint.instanceId := by
  have exchanged := exchange_mem mem
  rw [booked] at exchanged
  obtain rfl := (Sigma.mk.inj booked).1
  obtain ⟨rfl, vacant, spec, declared, holds⟩ := records_rightful lawful mem
  exact
    { vacant
      claimed := ⟨other, held, (holds.recorded other).symm.trans known, same⟩
      obtains := ⟨spec, declared, holds.obtains⟩
      books := ⟨checkpoint, rfl, exchanged⟩ }

/-- A task that takes nothing over shares nothing at any time. -/
theorem unshared_task (lawful : world.region.Lawful) (unshared : Unshared world.memory.checkpoint?)
    (spares : ∀ x, ¬world.TakesOver key task x) :
    (∀ request ∈ world.requests key task, Unshared request.1.memory.checkpoint?) ∧
      Unshared (world.run (task.program key)).2.memory.checkpoint? := by
  refine Program.requests_induction (fun world : World => Unshared world.memory.checkpoint?) unshared ?_
  intro ⟨found, effect⟩ mem unshared k k' c c' held held' same
  rcases checkpoint?_cases held with before | booked
  · rcases checkpoint?_cases held' with before' | booked
    · exact unshared k k' c c' before before' same
    · exact absurd (takesOver_of_booked lawful mem booked before same) (spares _)
  · rcases checkpoint?_cases held' with before' | booked'
    · exact absurd (takesOver_of_booked lawful mem booked before' same.symm) (spares _)
    · cases booked.symm.trans booked'
      rfl

/-- A task that takes an instance over shares it, from its record on. -/
theorem TakesOver.shares (takes : world.TakesOver key task x) (lawful : world.region.Lawful) :
    ∃ stage, ¬Unshared stage.memory.checkpoint? ∧
      (stage ∈ (world.requests key task).map Prod.fst ∨ stage = (world.run (task.program key)).2) := by
  obtain ⟨checkpoint, rfl, exchanged⟩ := takes.books
  rw [Program.exchanges_eq_map] at exchanged
  obtain ⟨⟨found, effect⟩, mem, booked⟩ := List.mem_map.mp exchanged
  obtain ⟨rfl, replied⟩ := Sigma.mk.inj booked
  refine ⟨_, ?_, Program.mem_of_request mem⟩
  obtain ⟨-, -, spec, -, holds⟩ := records_rightful lawful mem
  obtain ⟨other, held, known, same⟩ := takes.claimed
  have foreign : key ≠ other := by
    rintro rfl
    rw [takes.vacant] at known
    cases known
  intro unshared
  refine foreign (unshared key other checkpoint held ?_ ?_ same.symm)
  · rw [found.checkpoint?_answer, eq_of_heq replied]
    exact if_pos rfl
  · rw [found.checkpoint?_answer, eq_of_heq replied]
    exact (if_neg foreign).trans ((holds.recorded other).trans known)

/-- All that is recorded has been there at some time. -/
structure Accounted (past : List Event) (world : World) : Prop where
  region : world.region = Region.empty.afterAll past
  known : ∀ x, world.Claimed x → ∃ first, first <+: past ∧ ¬Unknown x (Region.empty.afterAll first)

variable {past : List Event}

theorem Accounted.answered (accounted : world.Accounted past)
    (there : ∀ key checkpoint, effect = .store (.recordInstance key checkpoint) →
      ¬Unknown checkpoint.instanceId world.region) :
    (world.answer effect).2.Accounted (past ++ world.incidents effect) := by
  refine ⟨?_, ?_⟩
  · rw [region_answer, accounted.region, Region.afterAll_append]
  · rintro x ⟨key, checkpoint, held, rfl⟩
    rcases checkpoint?_cases held with before | booked
    · obtain ⟨first, initial, known⟩ := accounted.known _ ⟨key, checkpoint, before, rfl⟩
      exact ⟨first, initial.trans (List.prefix_append _ _), known⟩
    · refine ⟨past, List.prefix_append _ _, ?_⟩
      rw [← accounted.region]
      exact there key checkpoint (Sigma.mk.inj booked).1

theorem Accounted.run {α : Type} {program : Engine.Procedure α} (accounted : world.Accounted past)
    (there : ∀ found key checkpoint,
      (found, .store (.recordInstance key checkpoint)) ∈ program.requests World.answer world →
        ¬Unknown checkpoint.instanceId found.region) :
    (program.run World.answer world).2.Accounted (past ++
      (program.requests World.answer world).flatMap fun request => request.1.incidents request.2) := by
  induction program generalizing world past with
  | done a => exact (List.append_nil past).symm ▸ accounted
  | ask effect next ih =>
      have now := accounted.answered fun key checkpoint same => there world key checkpoint (by
        rw [← same]
        exact .head _)
      have later := ih _ now fun found key checkpoint mem => there found key checkpoint (.tail _ mem)
      rwa [List.append_assoc] at later

end World

namespace Fleet

/-- A task takes an instance over. -/
def IsTakeover (world : World) : Occurrence → Prop
  | .task key task => ∃ x, world.TakesOver key task x
  | .change _ => False

variable {world : World} {run : List Occurrence} {occurrence : Occurrence} {past : List Event}
  {x : String}

theorem unshared_after (lawful : world.region.Lawful) (unshared : Unshared world.memory.checkpoint?)
    (spares : ¬IsTakeover world occurrence) :
    (∀ stage ∈ during world occurrence, Unshared stage.memory.checkpoint?) ∧
      Unshared (after world occurrence).memory.checkpoint? := by
  cases occurrence with
  | task key task =>
      obtain ⟨stages, last⟩ := World.unshared_task lawful unshared fun x takes => spares ⟨x, takes⟩
      refine ⟨fun stage within => ?_, last⟩
      obtain ⟨request, mem, rfl⟩ := List.mem_map.mp within
      exact stages request mem
  | change change => exact ⟨(fun stage mem => nomatch mem), unshared⟩

theorem shares_of_takeover (lawful : world.region.Lawful) (takeover : IsTakeover world occurrence) :
    Shares world (occurrence :: run) := by
  cases occurrence with
  | task key task =>
      obtain ⟨x, takes⟩ := takeover
      obtain ⟨stage, shared, within | last⟩ := takes.shares lawful
      · exact shares_cons.mpr (.inr (.inl ⟨stage, within, shared⟩))
      · subst last
        refine shares_cons.mpr (.inr (.inr ⟨_, ?_, shared⟩))
        cases run <;> exact .head _
  | change change => exact takeover.elim

/-- A run shares an instance exactly when one of its tasks takes one over. -/
theorem shares_iff_meets (lawful : world.region.Lawful)
    (unshared : Unshared world.memory.checkpoint?) : Shares world run ↔ Meets IsTakeover world run := by
  induction run generalizing world with
  | nil =>
      refine iff_of_false ?_ id
      rintro ⟨stage, mem, shared⟩
      rw [List.mem_singleton.mp mem] at shared
      exact shared unshared
  | cons occurrence rest ih =>
      by_cases takeover : IsTakeover world occurrence
      · exact iff_of_true (shares_of_takeover lawful takeover) (.inl takeover)
      · obtain ⟨stages, last⟩ := unshared_after lawful unshared takeover
        have later := ih (lawful_after lawful occurrence) last
        rw [shares_cons, later]
        constructor
        · rintro (shared | ⟨stage, mem, shared⟩ | meets)
          · exact absurd unshared shared
          · exact absurd (stages stage mem) shared
          · exact .inr meets
        · rintro (now | meets)
          · exact absurd now takeover
          · exact .inr (.inr meets)

/-- What a run is for the region. -/
def history (world : World) : List Occurrence → List Event
  | [] => []
  | occurrence :: rest => incidents world occurrence ++ history (after world occurrence) rest

/-- A task records a composed machine, and gets an id for it that is recorded already. -/
def Collides (x : String) (world : World) : Occurrence → Prop
  | .task key task => (∃ spec ∈ task.spec?, spec.mode = .virtualized) ∧
      x = Region.composedId world.region.nextId ∧ world.Claimed x ∧ world.Books key task x
  | .change _ => False

theorem accounted_after (accounted : world.Accounted past) (occurrence : Occurrence) :
    (after world occurrence).Accounted (past ++ incidents world occurrence) := by
  cases occurrence with
  | task key task =>
      have lawful : world.region.Lawful := accounted.region ▸ Region.lawful_empty.afterAll past
      refine World.Accounted.run accounted fun found k checkpoint mem unknown => ?_
      obtain ⟨-, -, spec, -, holds⟩ := World.records_rightful lawful mem
      obtain ⟨machine, there, -⟩ := holds.there
      rw [unknown.machine] at there
      cases there
  | change change =>
      refine ⟨?_, fun x claimed => ?_⟩
      · rw [region_after, accounted.region, Region.afterAll_append]
      · obtain ⟨first, initial, known⟩ := accounted.known x claimed
        exact ⟨first, initial.trans (List.prefix_append _ _), known⟩

/-- When a composed machine gets an id that is recorded, the id was brought in from outside, or ten
    thousand numbers have been taken. -/
theorem of_collides (accounted : world.Accounted past) (collides : Meets (Collides x) world run) :
    10000 ≤ Region.drawsOf (past ++ history world run) ∨
      ∃ event ∈ past ++ history world run, event.Brings x := by
  induction run generalizing world past with
  | nil => exact collides.elim
  | cons occurrence rest ih =>
      obtain now | later := collides
      · cases occurrence with
        | change change => exact now.elim
        | task key task =>
            obtain ⟨-, next, claimed, -⟩ := now
            obtain ⟨first, initial, known⟩ := accounted.known x claimed
            rw [accounted.region] at next
            by_contra none
            obtain ⟨few, unbrought⟩ := not_or.mp none
            refine known (next ▸ Region.unknown_next initial (fun event mem brings => ?_) ?_)
            · exact unbrought ⟨event, List.mem_append_left _ mem, next ▸ brings⟩
            · rw [Region.drawsOf_append] at few
              omega
      · have met := ih (accounted_after accounted occurrence) later
        rwa [List.append_assoc] at met

end Fleet

end MachineProvisioning
