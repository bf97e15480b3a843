import MachineProvisioning.Engine.Reconcile
import MachineProvisioning.Proofs.Engine.Passes

/-! # Runs of passes

The passes of one machine follow each other and have nothing in common but what is recorded. A
failed write may have been made or not, so a record can lead to more than one state.
-/

namespace MachineProvisioning.Engine

open Program (Exchange)
open Resource (Key Spec)
open Lifecycle (Instance)
open Store (Checkpoint)

/-- Where an exchange can lead what is recorded of a machine. -/
def Records (key : Key) (before : Option Checkpoint) :
    (effect : Effect) → effect.Answer → Option Checkpoint → Prop
  | .store (.load k), .ok saved, after => after = before ∧ (k = key → saved.checkpoint = before)
  | .store (.recordInstance k checkpoint), .ok _, after =>
      after = if k = key then some checkpoint else before
  | .store (.recordInstance k checkpoint), .error _, after =>
      after = before ∨ k = key ∧ after = some checkpoint
  | .store (.clearInstance k), .ok _, after => after = if k = key then none else before
  | .store (.clearInstance k), .error _, after => after = before ∨ k = key ∧ after = none
  | _, _, after => after = before

/-- What is recorded after an exchange, when a failed write is not made. -/
def recordAfter (key : Key) (recorded : Option Checkpoint) :
    (effect : Effect) → effect.Answer → Option Checkpoint
  | .store (.recordInstance k checkpoint), .ok _ => if k = key then some checkpoint else recorded
  | .store (.clearInstance k), .ok _ => if k = key then none else recorded
  | _, _ => recorded

/-- An answer to a read is what is recorded. -/
def Reads (key : Key) (recorded : Option Checkpoint) (effect : Effect) (answer : effect.Answer) :
    Prop :=
  ∀ saved, (⟨effect, answer⟩ : Exchange Effect Effect.Answer) = ⟨.store (.load key), .ok saved⟩ →
    saved.checkpoint = recorded

/-- A failed write need not have been made. -/
theorem records_recordAfter {key : Key} {recorded : Option Checkpoint} {effect : Effect}
    {answer : effect.Answer} (reads : Reads key recorded effect answer) :
    Records key recorded effect answer (recordAfter key recorded effect answer) := by
  cases effect with
  | store call =>
      cases call with
      | load k =>
          cases answer with
          | ok saved =>
              refine ⟨rfl, ?_⟩
              intro same
              subst same
              exact reads saved rfl
          | error fault => rfl
      | recordInstance k checkpoint =>
          cases answer with
          | ok value => rfl
          | error fault => exact .inl rfl
      | clearInstance k =>
          cases answer with
          | ok value => rfl
          | error fault => exact .inl rfl
      | _ => rfl
  | _ => rfl

/-- What is recorded of a machine, as exchanges read and write it. -/
def recording (key : Key) : Discipline (Option Checkpoint) where
  allows _ _ := True
  leads := Records key

/-- The request writes what is recorded. -/
def Effect.IsWrite : Effect → Prop
  | .store (.recordInstance _ _) | .store (.clearInstance _) => True
  | _ => False

/-- A machine in an answer about the instance is the instance. -/
def Carries (systemId : String) : (effect : Effect) → effect.Answer → Prop
  | .maas (.allocate params), .ok machine =>
      params.systemId = some systemId → machine.systemId = systemId
  | .maas (.getMachine x), .ok machine => x = systemId → machine.systemId = systemId
  | .maas (.setSwapSize x _), .ok machine => x = systemId → machine.systemId = systemId
  | .maas (.setHostname x _), .ok machine => x = systemId → machine.systemId = systemId
  | .maas (.deploy x _), .ok machine => x = systemId → machine.systemId = systemId
  | .maas (.powerOn x), .ok machine => x = systemId → machine.systemId = systemId
  | _, _ => True

/-- A pass of a run. -/
structure Turn where
  options : Options
  spec : Spec
  /-- What is recorded before the pass. -/
  before : Option Checkpoint
  transcript : Transcript
  result : Except Failure Instance
  /-- What is recorded after the pass. -/
  after : Option Checkpoint

/-- The turns are passes of the machine, one after another from what is recorded at first. -/
def IsRun (key : Key) : Option Checkpoint → List Turn → Prop
  | _, [] => True
  | recorded, turn :: rest =>
      turn.before = recorded ∧
        Program.Trace (provision turn.options key turn.spec).run turn.transcript turn.result ∧
        (recording key).Follows turn.before turn.transcript turn.after ∧
        IsRun key turn.after rest

theorem IsRun.turn {key : Key} {recorded : Option Checkpoint} {turns : List Turn} {turn : Turn}
    (run : IsRun key recorded turns) (mem : turn ∈ turns) :
    Program.Trace (provision turn.options key turn.spec).run turn.transcript turn.result ∧
      (recording key).Follows turn.before turn.transcript turn.after := by
  induction turns generalizing recorded with
  | nil => cases mem
  | cons first rest ih =>
      obtain ⟨-, trace, follows, run⟩ := run
      cases mem with
      | head => exact ⟨trace, follows⟩
      | tail _ mem => exact ih run mem

/-- Exchanges without a write leave what is recorded. -/
theorem recorded_of_no_write {key : Key} {before after : Option Checkpoint}
    {transcript : Transcript} (follows : (recording key).Follows before transcript after)
    (reads : ∀ exchange ∈ transcript, ¬exchange.1.IsWrite) : after = before := by
  refine follows.eq_of_leads_eq fun exchange mem after leads => ?_
  have read := reads exchange mem
  obtain ⟨effect, answer⟩ := exchange
  simp only [recording] at leads
  unfold Records at leads
  split at leads
  · exact leads.1
  · exact absurd trivial read
  · exact absurd trivial read
  · exact absurd trivial read
  · exact absurd trivial read
  · exact leads

/-- When the first thing asked for is what is recorded of the machine, this is the answer. -/
def StartsFrom (key : Key) (recorded : Option Checkpoint) (past : Transcript)
    (exchange : Exchange Effect Effect.Answer) : Prop :=
  past = [] → ∀ saved, exchange = ⟨.store (.load key), .ok saved⟩ → saved.checkpoint = recorded

theorem startsFrom_of_follows {key : Key} {recorded after : Option Checkpoint}
    {before rest : Transcript} {exchange : Exchange Effect Effect.Answer}
    (follows : (recording key).Follows recorded (before ++ exchange :: rest) after) :
    StartsFrom key recorded before exchange := by
  intro same saved same'
  obtain rfl := same
  obtain rfl := same'
  obtain ⟨_, leads, -⟩ := follows
  exact leads.2 rfl

end MachineProvisioning.Engine
