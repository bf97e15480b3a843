import MachineProvisioning.Engine.Reconcile
import MachineProvisioning.Proofs.Engine.Passes

/-! # Passes over a settled machine

A machine that is deployed and powered on asks for nothing more. A pass that finds its instance so
looks at it, derives the status and publishes it if it is not the one that was loaded.
-/

namespace MachineProvisioning.Engine

open Program (Exchange)
open Resource (Key Spec Status)
open Lifecycle (Instance ClockReadings)
open Maas (Machine)
open Store (Saved Checkpoint)

/-- Deployed and powered on. -/
structure IsSettled (machine : Machine) : Prop where
  deployed : Lifecycle.State.ofText machine.statusName = .deployed
  poweredOn : Lifecycle.Power.ofText machine.powerState = .on

variable {key : Key} {machine : Machine} {options : Options} {spec : Spec} {saved : Saved}
  {systemId : String}

theorem ensurePoweredOn_settled (settled : IsSettled machine) :
    ensurePoweredOn machine = pure machine := by
  rw [ensurePoweredOn, if_pos settled.poweredOn]

theorem continueBareMetal_settled (settled : IsSettled machine) :
    continueBareMetal options key spec machine = pure (.ofMachine machine) := by
  unfold continueBareMetal
  simp only [settled.deployed, ensurePoweredOn_settled settled, pure_bind]

theorem continueVirtual_settled (settled : IsSettled machine) :
    continueVirtual options key spec machine = pure (.ofMachine machine) := by
  unfold continueVirtual
  simp only [settled.deployed, ensurePoweredOn_settled settled, pure_bind]

/-- The status that is derived from the machine. -/
def sighting (machine : Machine) (saved : Saved) (clock : ClockReadings) : Status :=
  Lifecycle.observedStatus saved.status clock (.ofMachine machine)
    (Store.providerId (machine.zone.map (·.name)) machine.systemId)

/-- What a pass asks for until it has derived the status. -/
def look (key : Key) (systemId : String) (machine : Machine) (saved : Saved)
    (clock : ClockReadings) : Transcript :=
  [⟨.store (.load key), .ok saved⟩, ⟨.maas (.getMachine systemId), .ok machine⟩,
    ⟨.clock, clock.transition⟩, ⟨.clock, clock.pass⟩]

/-- How a pass over the machine goes. -/
inductive Revisits (key : Key) (systemId : String) (machine : Machine) :
    Except Failure Action → Transcript → Prop where
  | unloaded (fault : Failure) : Revisits key systemId machine (.error fault)
      [⟨.store (.load key), .error fault⟩, ⟨.count (.reconciled (outcomeOf fault)), ()⟩]
  | unchanged {saved : Saved} {clock : ClockReadings} (action : Action)
      (same : saved.status = some (sighting machine saved clock)) :
      Revisits key systemId machine (.ok action)
        (look key systemId machine saved clock ++ [⟨.count (.reconciled .success), ()⟩])
  | published {saved : Saved} {clock : ClockReadings} (action : Action)
      (differs : saved.status ≠ some (sighting machine saved clock)) :
      Revisits key systemId machine (.ok action)
        (look key systemId machine saved clock ++
          [⟨.store (.publishStatus key (sighting machine saved clock)), .ok ()⟩,
            ⟨.count (.reconciled .success), ()⟩])
  | unpublished {saved : Saved} {clock : ClockReadings} (fault : Failure)
      (differs : saved.status ≠ some (sighting machine saved clock)) :
      Revisits key systemId machine (.error fault)
        (look key systemId machine saved clock ++
          [⟨.store (.publishStatus key (sighting machine saved clock)), .error fault⟩])

/-- The instance is found as this machine, and a pass that starts by loading finds it recorded. -/
def Shows (key : Key) (systemId : String) (machine : Machine) (past : Transcript)
    (exchange : Exchange Effect Effect.Answer) : Prop :=
  (∀ reply, exchange = ⟨.maas (.getMachine systemId), reply⟩ → reply = .ok machine) ∧
    (past = [] → ∀ saved, exchange = ⟨.store (.load key), .ok saved⟩ →
      ∃ checkpoint, saved.checkpoint = some checkpoint ∧ checkpoint.instanceId = systemId)

/-- Answers to passes over the machine. -/
def revisiting (key : Key) (systemId : String) (machine : Machine) : Discipline Transcript :=
  .history (fun _ _ => True) (Shows key systemId machine)

theorem concludeSeen_revisits (key : Key) (systemId : String) (machine : Machine) (saved : Saved) :
    (concludeSeen key saved.status (.ofMachine machine)).Ensures (revisiting key systemId machine)
      (fun action => Revisits key systemId machine (.ok action))
      (fun failure => Revisits key systemId machine (.error failure))
      [⟨.store (.load key), .ok saved⟩, ⟨.maas (.getMachine systemId), .ok machine⟩] := by
  unfold concludeSeen Pass.clock
  refine Pass.ensures_bind.mpr (Pass.ensures_bind.mpr (Pass.ensures_now.mpr ⟨trivial, ?_⟩))
  rintro transition _ ⟨-, rfl⟩
  refine Pass.ensures_bind.mpr (Pass.ensures_now.mpr ⟨trivial, ?_⟩)
  rintro pass _ ⟨-, rfl⟩
  refine Pass.ensures_pure.mpr (Pass.ensures_bind.mpr ?_)
  let clock : ClockReadings := ⟨transition, pass⟩
  unfold publishChange
  split
  · next same =>
      refine Pass.ensures_pure.mpr (Pass.ensures_bind.mpr (Pass.ensures_count.mpr ⟨trivial, ?_⟩))
      rintro _ _ ⟨-, rfl⟩
      exact Pass.ensures_pure.mpr (@Revisits.unchanged key systemId machine saved clock _ same)
  · next differs =>
      refine Pass.ensures_store.mpr ⟨trivial, ?_, ?_⟩
      · rintro _ _ ⟨-, rfl⟩
        refine Pass.ensures_bind.mpr (Pass.ensures_count.mpr ⟨trivial, ?_⟩)
        rintro _ _ ⟨-, rfl⟩
        exact Pass.ensures_pure.mpr (@Revisits.published key systemId machine saved clock _ differs)
      · rintro fault _ ⟨-, rfl⟩
        exact @Revisits.unpublished key systemId machine saved clock fault differs

theorem reconcile_revisits (settled : IsSettled machine) :
    (reconcile options key spec).Ensures (revisiting key systemId machine)
      (fun action => Revisits key systemId machine (.ok action))
      (fun failure => Revisits key systemId machine (.error failure)) [] := by
  refine Pass.ensures_bind.mpr (Pass.ensures_tryStore.mpr ⟨trivial, ?_⟩)
  rintro reply _ ⟨⟨-, recorded⟩, rfl⟩
  cases reply with
  | error fault =>
      refine Pass.ensures_bind.mpr (Pass.ensures_count.mpr ⟨trivial, ?_⟩)
      rintro _ _ ⟨-, rfl⟩
      exact Pass.ensures_throw.mpr (.unloaded fault)
  | ok saved =>
      obtain ⟨checkpoint, owned, rfl⟩ := recorded rfl saved rfl
      refine Pass.ensures_bind.mpr (Pass.ensures_attempt.mpr ?_)
      simp only [provisionFrom, owned, resume]
      refine Pass.ensures_bind.mpr (Pass.ensures_tryMaas.mpr ⟨trivial, ?_⟩)
      rintro reply _ ⟨⟨found, -⟩, rfl⟩
      obtain rfl := found reply rfl
      have concludes := concludeSeen_revisits key checkpoint.instanceId machine saved
      dsimp only
      split
      · rw [continueBareMetal_settled settled]
        exact Pass.ensures_pure.mpr concludes
      · rw [continueVirtual_settled settled]
        exact Pass.ensures_pure.mpr concludes

/-- How a whole pass over a settled machine goes. -/
theorem revisits_of_trace {transcript : Transcript} {result : Except Failure Action}
    (settled : IsSettled machine)
    (trace : Program.Trace (reconcile options key spec).run transcript result)
    (shows' : ∀ before exchange after, transcript = before ++ exchange :: after →
      Shows key systemId machine before exchange) :
    Revisits key systemId machine result transcript := by
  have revisits := ((reconcile_revisits settled).trace trace fun before exchange after split => by
    simpa using shows' before exchange after split).1
  cases result with
  | ok action => exact revisits
  | error failure => exact revisits

end MachineProvisioning.Engine
