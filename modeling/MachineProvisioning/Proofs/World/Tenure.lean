import MachineProvisioning.Proofs.Engine.Holding
import MachineProvisioning.Proofs.World.Answers

/-! # One machine at a time

The passes of one declared machine run in a world, between changes from outside, with whatever faults
are planned. They hold at most one machine as long as none of them loses one, and a pass that loses
one leaves it held and unrecorded.
-/

namespace MachineProvisioning

open Resource (Key Spec)
open Engine (Options Account Truthful provision)

namespace World

/-- A run answers truthfully, and its account agrees with what is recorded at the end. -/
theorem run_truthful {α : Type} {key : Key} (p : Engine.Procedure α) (world : World)
    (account : Account) (keyed : world.region.Keyed)
    (agrees : account.recorded = world.memory.checkpoint? key) :
    (∀ before exchange after, p.exchanges World.answer world = before ++ exchange :: after →
      Truthful key (account.afterAll key before) exchange) ∧
    (account.afterAll key (p.exchanges World.answer world)).recorded =
      (world.run p).2.memory.checkpoint? key := by
  induction p generalizing world account with
  | done a => exact ⟨fun before exchange after split => by simp [Program.exchanges] at split, agrees⟩
  | ask effect next ih =>
      have carries := fun x => (world.carries_answer x effect keyed).1
      have reads : Engine.Reads key account.recorded effect (world.answer effect).1 := by
        rw [agrees]
        exact world.reads_answer key effect
      have agrees' : (account.after key ⟨effect, (world.answer effect).1⟩).recorded =
          (world.answer effect).2.memory.checkpoint? key := by
        rw [world.checkpoint?_answer key effect, ← agrees]
        rfl
      obtain ⟨truthful, last⟩ := ih _ (world.answer effect).2
        (account.after key ⟨effect, (world.answer effect).1⟩)
        (world.carries_answer "" effect keyed).2 agrees'
      refine ⟨?_, last⟩
      intro before exchange after split
      cases before with
      | nil =>
          obtain ⟨rfl, -⟩ := List.cons.inj split
          exact ⟨carries, reads⟩
      | cons first before =>
          obtain ⟨rfl, rest⟩ := List.cons.inj split
          exact truthful before exchange after rest

end World

/-- A world, and the machines in it that the passes of a declared machine hold. -/
structure Tenure where
  world : World
  held : List String := []

/-- What happens: a pass, or a change of the region from outside. -/
inductive Occurrence where
  | pass (options : Options)
  | change (change : Region.Change)

namespace Tenure

/-- The account of a declared machine. -/
def account (key : Key) (tenure : Tenure) : Account :=
  ⟨tenure.world.memory.checkpoint? key, tenure.held⟩

/-- What a pass exchanges with the world. -/
def transcript (key : Key) (spec : Spec) (tenure : Tenure) (options : Options) :
    Engine.Transcript :=
  tenure.world.exchanges (provision options key spec)

/-- The world and the machines held afterwards. A machine that is removed is not held any more. -/
def after (key : Key) (spec : Spec) (tenure : Tenure) : Occurrence → Tenure
  | .pass options =>
      { world := (tenure.world.pass (provision options key spec)).2
        held := ((tenure.account key).afterAll key (tenure.transcript key spec options)).held }
  | .change change =>
      { world := { tenure.world with region := tenure.world.region.after change }
        held := match change with
          | .removeMachine x => tenure.held.filter (· ≠ x)
          | _ => tenure.held }

/-- The world and the machines held after a run. -/
def afterAll (key : Key) (spec : Spec) (tenure : Tenure) (occurrences : List Occurrence) : Tenure :=
  occurrences.foldl (after key spec) tenure

/-- The pass loses a machine. -/
def Loses (key : Key) (spec : Spec) (tenure : Tenure) : Occurrence → Prop
  | .pass options => Engine.Loses key (tenure.account key) (tenure.transcript key spec options)
  | .change _ => False

/-- No pass of the run loses a machine. -/
def Keeps (key : Key) (spec : Spec) (tenure : Tenure) (occurrences : List Occurrence) : Prop :=
  ∀ before occurrence after, occurrences = before ++ occurrence :: after →
    ¬(tenure.afterAll key spec before).Loses key spec occurrence

/-- Machines are stored under their ids, and every machine that is held is recorded. -/
structure Sound (key : Key) (tenure : Tenure) : Prop where
  keyed : tenure.world.region.Keyed
  tracked : (tenure.account key).Tracked

variable {key : Key} {spec : Spec} {tenure : Tenure}

/-- After a pass all that is held is recorded, exactly when the pass has lost nothing. -/
theorem Sound.pass (sound : Sound key tenure) (mode : spec.mode = .bareMetal) (options : Options) :
    ((tenure.after key spec (.pass options)).account key).Tracked ↔
      ¬tenure.Loses key spec (.pass options) := by
  obtain ⟨truthful, agrees⟩ := World.run_truthful (provision options key spec).run tenure.world
    (tenure.account key) sound.keyed rfl
  have trace := Program.trace_exchanges World.answer (provision options key spec).run tenure.world
  have same : (tenure.after key spec (.pass options)).account key =
      (tenure.account key).afterAll key (tenure.transcript key spec options) := by
    unfold account
    congr 1
    exact agrees.symm
  rw [same]
  exact Engine.tracked_iff_not_loses mode sound.tracked trace truthful

theorem Sound.after (sound : Sound key tenure) (mode : spec.mode = .bareMetal)
    {occurrence : Occurrence} (kept : ¬tenure.Loses key spec occurrence) :
    Sound key (tenure.after key spec occurrence) := by
  cases occurrence with
  | pass options =>
      refine ⟨?_, (sound.pass mode options).mpr kept⟩
      exact (tenure.world.carries_exchanges (provision options key spec) "" sound.keyed).2
  | change change =>
      refine ⟨sound.keyed.after change, ?_⟩
      intro x held
      have before : x ∈ tenure.held := by
        cases change with
        | removeMachine y => exact (List.mem_filter.mp held).1
        | _ => exact held
      exact sound.tracked x before

theorem Sound.afterAll (sound : Sound key tenure) (mode : spec.mode = .bareMetal)
    {occurrences : List Occurrence} (kept : tenure.Keeps key spec occurrences) :
    Sound key (tenure.afterAll key spec occurrences) := by
  induction occurrences generalizing tenure with
  | nil => exact sound
  | cons first rest ih =>
      refine ih (sound.after mode (kept [] first rest rfl)) ?_
      intro before occurrence after split
      exact kept (first :: before) occurrence after (by rw [split]; rfl)

/-- As long as no pass loses a machine, the passes of a physical machine hold at most one machine at
    a time. A pass loses one exactly when it leaves a machine held that is not recorded. -/
theorem holds_one_machine (mode : spec.mode = .bareMetal) {world : World}
    (keyed : world.region.Keyed) (occurrences : List Occurrence)
    (kept : Keeps key spec { world } occurrences) :
    (∀ x ∈ (afterAll key spec { world } occurrences).held,
      ∀ y ∈ (afterAll key spec { world } occurrences).held, x = y) ∧
    ∀ options, (afterAll key spec { world } occurrences).Loses key spec (.pass options) ↔
      ¬((afterAll key spec { world } (occurrences ++ [.pass options])).account key).Tracked := by
  have start : Sound key { world } := ⟨keyed, fun x held => nomatch held⟩
  have sound := start.afterAll mode kept
  constructor
  · intro x hx y hy
    obtain ⟨checkpoint, recorded, rfl⟩ := sound.tracked x hx
    obtain ⟨other, same, rfl⟩ := sound.tracked y hy
    rw [recorded] at same
    cases same
    rfl
  · intro options
    have last : afterAll key spec { world } (occurrences ++ [.pass options]) =
        (afterAll key spec { world } occurrences).after key spec (.pass options) := by
      simp [afterAll]
    rw [last, sound.pass mode options]
    exact Classical.not_not.symm

/-- Two machines are ready, and the first record fails. -/
def unrecordable : World where
  region := (Region.empty.after (.addMachine
      { systemId := "m1", hostname := "node-7", cpuCount := 8, memory := 65536,
        statusName := "Ready", powerState := "off" })).after (.addMachine
      { systemId := "m2", hostname := "node-8", cpuCount := 8, memory := 65536,
        statusName := "Ready", powerState := "off" })
  storeFaults := Faults.plan .empty "record_instance" 0 (.persistence "conflict")
  clock := ⟨0, 0⟩

/-- The first release fails as well. -/
def unreleasable : World :=
  { unrecordable with
    maasFaults := Faults.plan .empty "release_machine" 0 (.api "gateway timeout") }

theorem holds_one_machine_unrecordable :
    let key : Key := ⟨"metal", "worker-0"⟩
    let spec : Spec := { minCpu := 1, minMemoryMib := 1 }
    (afterAll key spec ⟨unrecordable, []⟩ [.pass {}]).held = [] ∧
      ((afterAll key spec ⟨unrecordable, []⟩ [.pass {}]).Loses key spec (.pass {}) ↔
        ¬((afterAll key spec ⟨unrecordable, []⟩ [.pass {}, .pass {}]).account key).Tracked) := by
  intro key spec
  have keyed : unrecordable.region.Keyed := (Region.keyed_empty.after _).after _
  have released : (after key spec ⟨unrecordable, []⟩ (.pass {})).held = [] := by decide +kernel
  have kept : Keeps key spec ⟨unrecordable, []⟩ [.pass {}] := by
    intro before occurrence rest split
    cases before with
    | nil =>
        obtain ⟨rfl, -⟩ := List.cons.inj split
        intro loses
        obtain ⟨x, held, -⟩ : ∃ x ∈ (after key spec ⟨unrecordable, []⟩ (.pass {})).held, _ := loses
        rw [released] at held
        cases held
    | cons first before =>
        have empty := (List.cons.inj split).2
        simp at empty
  exact ⟨released, (holds_one_machine rfl keyed [.pass {}] kept).2 {}⟩

/-- When the record and the release fail in one pass, the next pass allocates a second machine. -/
theorem holds_two_machines_unreleasable :
    ¬∀ x ∈ (afterAll ⟨"metal", "worker-0"⟩ { minCpu := 1, minMemoryMib := 1 } ⟨unreleasable, []⟩
        [.pass {}, .pass {}]).held,
      ∀ y ∈ (afterAll ⟨"metal", "worker-0"⟩ { minCpu := 1, minMemoryMib := 1 } ⟨unreleasable, []⟩
        [.pass {}, .pass {}]).held, x = y := by
  decide +kernel

end Tenure

end MachineProvisioning
