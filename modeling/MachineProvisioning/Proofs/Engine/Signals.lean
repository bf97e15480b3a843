import MachineProvisioning.Proofs.Engine.Intake
import MachineProvisioning.Proofs.World.Answers

/-! # The signal that an instance is released

A pass that ends with a failure may say that the instance is released, and then the status forgets
the instance. The signal is right about the record whenever it names no other machine: the pass leaves
nothing recorded exactly when it gives the recorded instance up. Recovering another machine that MAAS
calls broken sends the signal too, and keeps the record.
-/

namespace MachineProvisioning.Engine

open Program (Exchange)
open Resource (Key Spec)
open Lifecycle (Instance)
open Store (Checkpoint)

/-- What is recorded of a machine, or what was recorded before it was cleared. -/
inductive Register where
  | blank
  | filled (checkpoint : Checkpoint)
  | emptied (checkpoint : Checkpoint)

namespace Register

def ofRecorded : Option Checkpoint → Register
  | some checkpoint => filled checkpoint
  | none => blank

def recorded : Register → Option Checkpoint
  | filled checkpoint => some checkpoint
  | _ => none

/-- The last checkpoint that there was. -/
def owner : Register → Option Checkpoint
  | filled checkpoint | emptied checkpoint => some checkpoint
  | blank => none

def clear : Register → Register
  | filled checkpoint => emptied checkpoint
  | register => register

/-- The register after an exchange, when a failed write is not made. -/
def after (key : Key) (register : Register) : (effect : Effect) → effect.Answer → Register
  | .store (.recordInstance k checkpoint), .ok _ => if k = key then filled checkpoint else register
  | .store (.clearInstance k), .ok _ => if k = key then register.clear else register
  | _, _ => register

def afterAll (key : Key) (register : Register) (transcript : Transcript) : Register :=
  transcript.foldl (fun register exchange => register.after key exchange.1 exchange.2) register

theorem recorded_clear (register : Register) : register.clear.recorded = none := by
  cases register <;> rfl

theorem after_recorded (key : Key) (register : Register) (checkpoint : Checkpoint) (value : Unit) :
    register.after key (.store (.recordInstance key checkpoint)) (.ok value) = filled checkpoint :=
  if_pos rfl

theorem after_cleared (key : Key) (register : Register) (value : Unit) :
    register.after key (.store (.clearInstance key)) (.ok value) = register.clear := if_pos rfl

/-- The register shows what is recorded. -/
theorem recorded_after (key : Key) (register : Register) (effect : Effect) (answer : effect.Answer) :
    (register.after key effect answer).recorded =
      recordAfter key register.recorded effect answer := by
  cases effect with
  | store call =>
      cases call with
      | recordInstance k checkpoint =>
          cases answer with
          | ok value =>
              simp only [after, recordAfter]
              split <;> rfl
          | error fault => rfl
      | clearInstance k =>
          cases answer with
          | ok value =>
              simp only [after, recordAfter]
              split
              · exact register.recorded_clear
              · rfl
          | error fault => rfl
      | _ => rfl
  | _ => rfl

theorem after_of_no_write {key : Key} {register : Register} {effect : Effect}
    (read : ¬effect.IsWrite) (answer : effect.Answer) : register.after key effect answer = register := by
  unfold after
  split
  · exact absurd trivial read
  · exact absurd trivial read
  · rfl

/-- Nothing has been cleared. -/
def Intact : Register → Prop
  | emptied _ => False
  | _ => True

/-- The failure is right about the record: it gives the instance up exactly when that is cleared. -/
def Told (failure : Failure) : Register → Prop
  | blank => True
  | filled checkpoint => ¬failure.GivesUp checkpoint.instanceId
  | emptied checkpoint => failure.GivesUp checkpoint.instanceId

variable {register : Register} {failure : Failure}

theorem Intact.told (intact : register.Intact) (kept : failure.released = false) :
    register.Told failure := by
  cases register with
  | blank => trivial
  | filled checkpoint => exact Failure.not_givesUp_of_not_released kept _
  | emptied checkpoint => exact intact.elim

theorem told_clear (intact : register.Intact)
    (givesUp : ∀ checkpoint, register.recorded = some checkpoint →
      failure.GivesUp checkpoint.instanceId) : register.clear.Told failure := by
  cases register with
  | blank => trivial
  | filled checkpoint => exact givesUp checkpoint rfl
  | emptied checkpoint => exact intact.elim

theorem Intact.ofRecorded (recorded : Option Checkpoint) : (ofRecorded recorded).Intact := by
  cases recorded <;> trivial

end Register

/-- A failure of the store does not say that the instance is released. -/
def plainFault : (effect : Effect) → effect.Answer → Bool
  | .store _, .error fault => !fault.released
  | _, _ => true

/-- What is recorded, read truly, where no failed write is made. -/
def registering (key : Key) : Discipline Register where
  allows _ _ := True
  leads register effect answer after :=
    Reads key register.recorded effect answer ∧ plainFault effect answer = true ∧
      after = register.after key effect answer

theorem released_of_plainFault {call : Store.Call} {fault : Failure}
    (plain : plainFault (.store call) (.error fault) = true) : fault.released = false :=
  Bool.not_eq_true' _ ▸ plain

variable {key : Key} {spec : Spec} {hostname x : String} {register : Register} {α : Type}

theorem registering_tolerates_reads {invariant : Register → Prop} :
    (registering key).Tolerates invariant fun effect => ¬effect.IsWrite := by
  intro register effect start read
  refine ⟨trivial, ?_⟩
  intro answer after leads
  obtain ⟨-, -, rfl⟩ := leads
  exact (Register.after_of_no_write read answer).symm ▸ start

theorem Surveys.isRead {effect : Effect} (surveys : Surveys effect) : ¬effect.IsWrite := by
  cases effect with
  | store call => cases call <;> simp_all [Surveys, Effect.IsWrite]
  | _ => exact id

theorem Tends.isRead {effect : Effect} (tends : Tends x hostname effect) : ¬effect.IsWrite := by
  cases effect with
  | store call => cases call <;> simp_all [Tends, Effect.IsWrite]
  | _ => exact id

theorem Inspects.isRead {effect : Effect} (inspects : Inspects effect) : ¬effect.IsWrite := by
  cases effect with
  | maas call => exact id
  | _ => exact inspects.elim

theorem registering_frees {force : Bool} (intact : register.Intact) :
    Frees (registering key) x force Register.Intact Register.Intact register where
  allowed := trivial
  released := by
    intro after leads
    obtain ⟨-, -, rfl⟩ := leads
    exact intact
  gone := by
    intro text after leads
    obtain ⟨-, -, rfl⟩ := leads
    exact intact
  failed := by
    intro error after leads
    obtain ⟨-, -, rfl⟩ := leads
    exact intact

theorem registering_counts {invariant : Register → Prop} : Counts (registering key) invariant := by
  refine registering_tolerates_reads.mono fun effect counts => ?_
  obtain ⟨event, rfl⟩ := counts
  exact id

/-- Clearing the record is right to be told with any failure that gives up what is recorded. -/
theorem registering_clear {post : Register → Prop} (intact : register.Intact)
    (ends : post register.clear) :
    (Pass.store (.clearInstance key)).Ensures (registering key) (fun _ => post)
      (fun failure after => after.Told failure) register := by
  refine Pass.ensures_store.mpr ⟨trivial, ?_, ?_⟩
  · intro value after leads
    obtain ⟨-, -, rfl⟩ := leads
    rw [Register.after_cleared]
    exact ends
  · intro fault after leads
    obtain ⟨-, plain, rfl⟩ := leads
    exact intact.told (released_of_plainFault plain)

theorem registering_recoverBroken {ok : α → Register → Prop} (hostId : Option String)
    (intact : register.Intact) :
    (recoverBroken key x hostId : Pass α).Ensures (registering key) ok
      (fun failure after => after.Told failure) register := by
  refine recoverBroken_ensures hostId (registering_frees intact) registering_counts
    (fun failure after kept intact => intact.told kept) ?_
    (registering_tolerates_reads.mono fun _ => Inspects.isRead) (fun _ told => told)
  intro before intact
  refine Pass.ensures_store.mpr ⟨trivial, ?_, ?_⟩
  · intro saved register leads
    obtain ⟨reads, -, rfl⟩ := leads
    rw [reads saved rfl]
    split
    · next own =>
        refine registering_clear intact (Register.told_clear intact fun checkpoint recorded => ?_)
        rw [recorded] at own
        exact Failure.givesUp_brokenInstance.mpr (Option.some.inj own).symm
    · next other =>
        -- The record stays, and it is of another machine than the one that the failure names.
        cases register with
        | blank => trivial
        | filled checkpoint =>
            intro givesUp
            exact other (congrArg some (Failure.givesUp_brokenInstance.mp givesUp).symm)
        | emptied checkpoint => exact intact.elim
  · intro fault register leads
    obtain ⟨-, plain, rfl⟩ := leads
    exact intact.told (released_of_plainFault plain)

theorem registering_release (intact : register.Intact) :
    (release key x).Ensures (registering key) (fun _ => Closes fun failure after => after.Told failure)
      (fun failure after => after.Told failure) register := by
  refine release_ensures (registering_frees intact) (fun _ intact => registering_frees intact)
    registering_counts (fun failure after kept intact => intact.told kept) ?_
  intro register intact
  refine registering_clear intact fun failure givesUp => ?_
  exact Register.told_clear intact fun checkpoint _ => givesUp checkpoint.instanceId

theorem registering_failWith {ok : α → Register → Prop} {context : String} {target : Option String}
    {error : Maas.Error} (intact : register.Intact) :
    (failWith key context target error : Pass α).Ensures (registering key) ok
      (fun failure after => after.Told failure) register := by
  refine failWith_ensures Register.Intact ?_ (fun _ _ kept intact => intact.told kept) ?_ ?_ intact
  · exact registering_tolerates_reads.mono fun _ looks => looks.surveys.isRead
  · exact fun _ _ hostId _ intact => registering_recoverBroken hostId intact
  · exact fun _ hostId _ _ _ intact => registering_recoverBroken hostId intact

theorem registering_sustains :
    Sustains (registering key) Register.Intact key (fun _ => True) hostname
      fun failure after => after.Told failure where
  tends _ _ := registering_tolerates_reads.mono fun _ => Tends.isRead
  fails _ _ kept intact := intact.told kept
  reallocates _ _ _ _ := trivial
  reallocated := by
    intro y register machine after _ intact leads
    obtain ⟨-, -, rfl⟩ := leads
    exact ⟨trivial, intact⟩
  deployed _ _ _ _ _ _ _ _ := trivial
  poweredOn _ _ _ _ _ _ _ := trivial
  recovers := by
    intro y call error register after _ intact _ leads context α ok
    obtain ⟨-, -, rfl⟩ := leads
    exact registering_failWith intact

theorem registering_acquires :
    Acquires (registering key) (· = .blank) (fun _ => (· = .blank)) (fun _ => Register.Intact) key
      fun failure after => after.Told failure where
  surveys := registering_tolerates_reads.mono fun _ => Surveys.isRead
  fails _ _ _ blank := blank ▸ trivial
  unannotated := by
    intro name value register fault after blank leads
    obtain ⟨-, -, rfl⟩ := leads
    exact blank ▸ trivial
  records _ _ _ _ _ := trivial
  recorded := by
    intro y register checkpoint after _ _ leads
    obtain ⟨-, -, rfl⟩ := leads
    rw [Register.after_recorded]
    trivial
  counts _ := registering_counts

theorem registering_allocates :
    Allocates (registering key) (· = .blank) (fun _ => (· = .blank)) (fun _ => True) key spec
      fun failure after => after.Told failure where
  allowed _ _ := trivial
  allocated := by
    intro register machine after blank leads
    obtain ⟨-, -, rfl⟩ := leads
    exact ⟨trivial, blank⟩
  refused := by
    intro register error after blank leads
    obtain ⟨-, -, rfl⟩ := leads
    obtain rfl := blank
    exact ⟨fun _ _ => trivial, fun context ok => registering_failWith trivial⟩
  unrecorded := by
    intro y register checkpoint fault after blank _ leads
    obtain ⟨-, -, rfl⟩ := leads
    obtain rfl := blank
    refine ⟨trivial, ?_⟩
    intro reply last leads
    obtain ⟨-, -, rfl⟩ := leads
    trivial

theorem registering_composes :
    Composes (registering key) (· = .blank) (fun _ => (· = .blank)) key spec
      fun failure after => after.Told failure := by
  refine Composes.of_unmoved (fun _ _ _ => trivial) ?_ ?_ ?_
  · intro call reply register after blank leads
    obtain ⟨-, -, rfl⟩ := leads
    exact blank
  · exact fun error register blank context ok => registering_failWith (blank ▸ trivial)
  · intro register checkpoint fault after blank leads
    obtain ⟨-, -, rfl⟩ := leads
    exact blank ▸ trivial

theorem registering_resumes (intact : register.Intact) :
    Resumes (registering key) Register.Intact key (fun _ => True) x
      (fun failure after => after.Told failure) register where
  allowed := trivial
  seen := by
    intro machine after leads
    obtain ⟨-, -, rfl⟩ := leads
    exact ⟨trivial, intact⟩
  broken := by
    intro machine after leads _ hostId ok
    obtain ⟨-, -, rfl⟩ := leads
    exact registering_recoverBroken hostId intact
  failed := by
    intro machine after leads _
    obtain ⟨-, -, rfl⟩ := leads
    exact registering_release intact
  gone := by
    intro text after leads
    obtain ⟨-, -, rfl⟩ := leads
    refine registering_clear intact fun failure givesUp => ?_
    exact Register.told_clear intact fun checkpoint _ => givesUp checkpoint.instanceId
  refused := by
    intro error after leads failure kept
    obtain ⟨-, -, rfl⟩ := leads
    exact intact.told kept

theorem registering_continues :
    Continues (registering key) (fun _ => Register.Intact) (fun _ _ => True) key hostname
      fun failure after => after.Told failure where
  sustains _ := registering_sustains
  known _ := trivial
  looks _ _ _ := trivial
  seen := by
    intro y register machine after intact leads
    obtain ⟨-, -, rfl⟩ := leads
    exact ⟨trivial, intact⟩
  unseen := by
    intro y register error after intact leads failure kept
    obtain ⟨-, -, rfl⟩ := leads
    exact intact.told kept
  broken _ _ _ _ intact hostId _ := registering_recoverBroken hostId intact
  failed _ _ _ _ intact := registering_release intact

/-- A pass that succeeds leaves the record, and one that fails is right about it. -/
theorem registering_provision (options : Options) (key : Key) (spec : Spec)
    (start : Option Checkpoint) :
    (provision options key spec).Ensures (registering key) (fun _ => Register.Intact)
      (fun failure after => after.Told failure) (.ofRecorded start) := by
  have sustains : Sustains (registering key) Register.Intact key (fun _ => True)
      (spec.hostname.getD key.name) fun failure after => after.Told failure := registering_sustains
  refine Pass.ensures_bind.mpr (Pass.ensures_store.mpr ⟨trivial, ?_, ?_⟩)
  · intro saved register leads
    obtain ⟨reads, -, same⟩ := leads
    obtain rfl : register = .ofRecorded start := same
    cases start with
    | some checkpoint =>
        have intact : (Register.filled checkpoint).Intact := trivial
        rw [provisionFrom, reads saved rfl]
        exact (sustains.resume options rfl (registering_resumes intact)).mono
          (fun _ _ kept => kept.2) fun _ _ told => told
    | none =>
        refine (provisionFrom_ensures registering_acquires (fun _ => registering_allocates)
          (fun _ => registering_composes) registering_continues (reads saved rfl) rfl).mono ?_
          fun _ _ told => told
        exact fun seen register kept => kept.elim fun x kept => kept.2
  · intro fault register leads
    obtain ⟨-, plain, rfl⟩ := leads
    exact (Register.Intact.ofRecorded start).told (released_of_plainFault plain)

/-- A pass that started with a record, or made one, leaves none exactly when it fails and gives the
    recorded instance up: it says that the instance is released and calls no other one broken. -/
theorem forgets_iff_givesUp {options : Options} {start : Option Checkpoint} {transcript : Transcript}
    {result : Except Failure Instance} {owner : Checkpoint}
    (trace : Program.Trace (provision options key spec).run transcript result)
    (follows : (registering key).Follows (.ofRecorded start) transcript register)
    (owned : register.owner = some owner) :
    register.recorded = none ↔
      ∃ failure, result = .error failure ∧ failure.GivesUp owner.instanceId := by
  have ends := (registering_provision options key spec start).follow trace follows
  cases register with
  | blank => cases owned
  | filled checkpoint =>
      cases owned
      cases result with
      | ok seen => simp [Register.recorded]
      | error failure =>
          have kept : ¬failure.GivesUp owner.instanceId := ends
          simp [Register.recorded, kept]
  | emptied checkpoint =>
      cases owned
      cases result with
      | ok seen => exact ends.elim
      | error failure =>
          have givesUp : failure.GivesUp owner.instanceId := ends
          simp [Register.recorded, givesUp]

/-- A world reads truly what is recorded and makes no failed write. -/
theorem follows_registering {α : Type} (key : Key) (program : Procedure α) (world : World)
    (register : Register) (shows : register.recorded = world.memory.checkpoint? key)
    (plain : ∀ exchange ∈ program.exchanges World.answer world,
      plainFault exchange.1 exchange.2 = true) :
    (registering key).Follows register (program.exchanges World.answer world)
        (register.afterAll key (program.exchanges World.answer world)) ∧
      (register.afterAll key (program.exchanges World.answer world)).recorded =
        (program.run World.answer world).2.memory.checkpoint? key := by
  induction program generalizing world register with
  | done a => exact ⟨rfl, shows⟩
  | ask effect next ih =>
      -- What the register shows and what the world has recorded change together.
      have after : (register.after key effect (world.answer effect).1).recorded =
          (world.answer effect).2.memory.checkpoint? key := by
        rw [register.recorded_after, shows, world.checkpoint?_answer]
      obtain ⟨follows, last⟩ := ih _ _ _ after fun exchange mem => plain exchange (.tail _ mem)
      have reads := shows ▸ world.reads_answer key effect
      exact ⟨⟨_, ⟨reads, plain _ (.head _), rfl⟩, follows⟩, last⟩

/-- Nothing is known of the recorded machine. -/
def vanished : World where
  memory := Store.Memory.modifySaved {} ⟨"metal", "worker-0"⟩ fun saved =>
    { saved with checkpoint := some (.new "m1" none (some "node-7")) }
  clock := ⟨0, 0⟩

theorem forgets_iff_givesUp_vanished :
    let key : Key := ⟨"metal", "worker-0"⟩
    let turn := vanished.turn {} key { minCpu := 1, minMemoryMib := 1 }
    turn.after = none ∧ ∃ failure, turn.result = .error failure ∧ failure.GivesUp "m1" := by
  intro key turn
  have plain : ∀ exchange ∈ turn.transcript, plainFault exchange.1 exchange.2 = true := by
    decide +kernel
  have forgotten : turn.after = none := by decide +kernel
  obtain ⟨follows, shows⟩ := follows_registering key (provision turn.options key turn.spec).run
    vanished (.ofRecorded turn.before) (by decide +kernel) plain
  have owned : ((Register.ofRecorded turn.before).afterAll key turn.transcript).owner =
      some (.new "m1" none (some "node-7")) := by decide +kernel
  have gives := forgets_iff_givesUp (Program.trace_exchanges World.answer _ vanished) follows owned
  exact ⟨forgotten, gives.mp (shows.trans forgotten)⟩

/-- The recorded machine is ready, another one is in the region, and MAAS calls that one broken in
    answer to the next allocation. -/
def confused : World where
  region := (Region.empty.after (.addMachine
      { systemId := "m1", hostname := "node-7", cpuCount := 8, memory := 65536,
        statusName := "Ready", powerState := "off" })).after (.addMachine
      { systemId := "m2", hostname := "node-8", cpuCount := 8, memory := 65536,
        statusName := "Deployed", powerState := "on" })
  memory := vanished.memory
  maasFaults := Faults.plan .empty "allocate" 0 (.brokenMachine (some "m2") none "m2 is broken")
  clock := ⟨0, 0⟩

/-- A pass that recovers another machine says that the instance is released and keeps the record. -/
theorem signals_release_confused :
    let turn := confused.turn {} ⟨"metal", "worker-0"⟩ { minCpu := 1, minMemoryMib := 1 }
    turn.before = some (.new "m1" none (some "node-7")) ∧
      ¬(turn.after = none ↔ ∃ failure, turn.result = .error failure ∧ failure.released = true) := by
  intro turn
  have kept : turn.after ≠ none := by decide +kernel
  have signals : turn.result = .error (.brokenInstance "m2") := by rfl
  exact ⟨by decide +kernel, fun iff => kept (iff.mpr ⟨_, signals, rfl⟩)⟩

end MachineProvisioning.Engine
