import MachineProvisioning.Proofs.Engine.Releases
import MachineProvisioning.Proofs.Region.Composing
import MachineProvisioning.Proofs.World.Deployment

/-! # Several declared machines

The tasks about all declared machines run in one world, in any order, between changes of the region from
outside. A run shares a machine when at some moment, also in the middle of a task, two declared machines
have the same instance recorded.
-/

namespace MachineProvisioning

open Resource (Key)
open Engine (Effect Task Unshared)

namespace World

/-- What a request is for the region: a call, unless a fault keeps it away. -/
def incidents (world : World) : Effect → List Region.Event
  | .maas call => if (world.maasFaults.next call.name).1.isNone then [.call call] else []
  | _ => []

theorem region_answer (world : World) (effect : Effect) :
    (world.answer effect).2.region = world.region.afterAll (world.incidents effect) := by
  cases effect with
  | maas call =>
      change (world.answerMaas call).2.region = _
      unfold answerMaas incidents
      split
      next met faults next =>
        dsimp only
        rw [next]
        cases met <;> rfl
  | store call => exact (world.answerStore_cases call).1
  | clock => rfl
  | count event => rfl

theorem region_run {α : Type} (world : World) (program : Engine.Procedure α) :
    (program.run World.answer world).2.region = world.region.afterAll
      ((program.requests World.answer world).flatMap fun request => request.1.incidents request.2) := by
  induction program generalizing world with
  | done a => rfl
  | ask effect next ih =>
      let replied := world.answer effect
      let rest := ((next replied.1).requests World.answer replied.2).flatMap fun request =>
        request.1.incidents request.2
      calc ((next replied.1).run World.answer replied.2).2.region
          = replied.2.region.afterAll rest := ih replied.1 replied.2
        _ = world.region.afterAll (world.incidents effect ++ rest) := by
          rw [world.region_answer effect, Region.afterAll_append]

end World

namespace Fleet

/-- What happens: a task about a declared machine, or a change of the region from outside. -/
inductive Occurrence where
  | task (key : Key) (task : Task)
  | change (change : Region.Change)

def after (world : World) : Occurrence → World
  | .task key task => (world.run (task.program key)).2
  | .change change => { world with region := world.region.after change }

/-- The worlds in which the requests of an occurrence are made. -/
def during (world : World) : Occurrence → List World
  | .task key task => (world.requests key task).map Prod.fst
  | .change _ => []

/-- The worlds that a run goes through, to the last one. -/
def course (world : World) : List Occurrence → List World
  | [] => [world]
  | occurrence :: rest =>
      world :: (during world occurrence ++ course (after world occurrence) rest)

/-- At some moment of the run two declared machines have the same instance recorded. -/
def Shares (world : World) (run : List Occurrence) : Prop :=
  ∃ stage ∈ course world run, ¬Unshared stage.memory.checkpoint?

/-- Something of this kind occurs in the run. -/
def Meets (kind : World → Occurrence → Prop) (world : World) : List Occurrence → Prop
  | [] => False
  | occurrence :: rest => kind world occurrence ∨ Meets kind (after world occurrence) rest

/-- All that occurs in the run is of this kind. -/
def Always (kind : World → Occurrence → Prop) (world : World) : List Occurrence → Prop
  | [] => True
  | occurrence :: rest => kind world occurrence ∧ Always kind (after world occurrence) rest

/-- What an occurrence is for the region. -/
def incidents (world : World) : Occurrence → List Region.Event
  | .task key task => (world.requests key task).flatMap fun request => request.1.incidents request.2
  | .change change => [.change change]

variable {world : World} {run : List Occurrence}

theorem region_after (world : World) (occurrence : Occurrence) :
    (after world occurrence).region = world.region.afterAll (incidents world occurrence) := by
  cases occurrence with
  | task key task => exact world.region_run (task.program key)
  | change change => rfl

theorem lawful_after (lawful : world.region.Lawful) (occurrence : Occurrence) :
    (after world occurrence).region.Lawful := by
  rw [region_after]
  exact lawful.afterAll _

theorem shares_cons {occurrence : Occurrence} :
    Shares world (occurrence :: run) ↔ ¬Unshared world.memory.checkpoint? ∨
      (∃ stage ∈ during world occurrence, ¬Unshared stage.memory.checkpoint?) ∨
        Shares (after world occurrence) run := by
  unfold Shares
  rw [course]
  simp only [List.mem_cons, List.mem_append, or_and_right, exists_or, exists_eq_left]

theorem not_meets_of_always {kind other : World → Occurrence → Prop}
    (excludes : ∀ world occurrence, other world occurrence → ¬kind world occurrence)
    (always : Always other world run) : ¬Meets kind world run := by
  induction run generalizing world with
  | nil => exact id
  | cons occurrence rest ih =>
      rintro (now | later)
      · exact excludes world occurrence always.1 now
      · exact ih always.2 later

end Fleet

end MachineProvisioning
