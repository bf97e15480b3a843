import MachineProvisioning.Proofs.Engine.Continuation
import MachineProvisioning.Proofs.World.Answers

/-! # Passes over a recorded instance

A pass that starts with a recorded instance works on that instance and no other, whatever fails. The
one exception is a machine that MAAS itself reports as broken in answer to an operation.
-/

namespace MachineProvisioning.Engine

open Program (Exchange)
open Resource (Key Spec)
open Lifecycle (Instance)
open Store (Checkpoint)
open Maas (Machine)

/-- MAAS has answered that this machine is broken. -/
def NamedBroken (systemId : String) (past : Transcript) : Prop :=
  ∃ call hostId text, ⟨.maas call, .error (.brokenMachine (some systemId) hostId text)⟩ ∈ past

/-- What may be asked for after these exchanges when the instance is recorded. -/
def Permitted (systemId : String) (past : Transcript) : Effect → Prop
  | .maas (.compose _ _) => False
  | .maas (.allocate params) => params.systemId = some systemId
  | .maas (.release x _) => x = systemId ∨ NamedBroken x past
  | .maas call => ∀ x, call.configures? = some x → x = systemId
  | _ => True

/-- Only what is permitted, when the instance is recorded and answers about it carry it. -/
def resuming (key : Key) (checkpoint : Checkpoint) : Discipline Transcript :=
  .history (Permitted checkpoint.instanceId) fun past exchange =>
    Carries checkpoint.instanceId exchange.1 exchange.2 ∧
      StartsFrom key (some checkpoint) past exchange

/-- Nothing recorded has been written. -/
def Unwritten (past : Transcript) : Prop := ∀ exchange ∈ past, ¬exchange.1.IsWrite

/-- A failure of a resumed pass may come at any time. -/
def anyhow : Failure → Transcript → Prop := fun _ _ => True

variable {systemId hostname : String} {key : Key} {checkpoint : Checkpoint}

theorem Unwritten.append {past : Transcript} {exchange : Exchange Effect Effect.Answer}
    (unwritten : Unwritten past) (reads : ¬exchange.1.IsWrite) :
    Unwritten (past ++ [exchange]) :=
  List.forall_mem_append.mpr ⟨unwritten, List.forall_mem_singleton.mpr reads⟩

theorem permitted_of_tends {effect : Effect} (past : Transcript)
    (tends : Tends systemId hostname effect) : Permitted systemId past effect := by
  cases effect with
  | maas call => cases call <;> simp_all [Tends, Permitted, Maas.Call.configures?]
  | _ => trivial

theorem read_of_tends {effect : Effect} (tends : Tends systemId hostname effect) :
    ¬effect.IsWrite := by
  cases effect with
  | store call => cases call <;> simp_all [Tends, Effect.IsWrite]
  | _ => exact id

/-- Giving the instance back is permitted, and so is giving back a machine that MAAS called broken. -/
theorem permitted_of_recovers {x : String} {effect : Effect} {past : Transcript}
    (whose : x = systemId ∨ NamedBroken x past) (recovers : Recovers key x effect) :
    Permitted systemId past effect := by
  cases effect with
  | maas call => cases call <;> simp_all [Recovers, Permitted, Maas.Call.configures?]
  | _ => trivial

theorem NamedBroken.append {x : String} {past : Transcript} (named : NamedBroken x past)
    (exchange : Exchange Effect Effect.Answer) : NamedBroken x (past ++ [exchange]) := by
  obtain ⟨call, hostId, text, mem⟩ := named
  exact ⟨call, hostId, text, List.mem_append_left _ mem⟩

theorem resuming_tolerates_recovery {x : String} :
    (resuming key checkpoint).Tolerates
      (fun past => x = checkpoint.instanceId ∨ NamedBroken x past) (Recovers key x) := by
  intro past effect whose recovers
  refine ⟨permitted_of_recovers whose recovers, ?_⟩
  intro answer s' leads
  obtain ⟨-, rfl⟩ := leads
  exact whose.imp_right fun named => named.append _

theorem resuming_recoverBroken {α : Type} {x : String} {past : Transcript}
    {ok : α → Transcript → Prop} (hostId : Option String)
    (whose : x = checkpoint.instanceId ∨ NamedBroken x past) :
    (recoverBroken key x hostId : Pass α).Ensures (resuming key checkpoint) ok anyhow past :=
  recoverBroken_tolerated hostId resuming_tolerates_recovery (fun _ _ _ => trivial) whose

theorem resuming_release {past : Transcript} :
    (release key checkpoint.instanceId).Ensures (resuming key checkpoint)
      (fun _ => Closes anyhow) anyhow past :=
  (asks_release.ensures resuming_tolerates_recovery (.inl rfl)).mono
    (fun _ _ _ _ _ => trivial) fun _ _ _ => trivial

theorem resuming_failWith {α : Type} {ok : α → Transcript → Prop} {context : String}
    {error : Maas.Error} {past : Transcript}
    (named : ∀ x hostId text, error = .brokenMachine (some x) hostId text → NamedBroken x past) :
    (failWith key context (some checkpoint.instanceId) error : Pass α).Ensures
      (resuming key checkpoint) ok anyhow past := by
  refine failWith_ensures
    (fun past => ∀ x hostId text, error = .brokenMachine (some x) hostId text → NamedBroken x past)
    ?_ (fun _ _ _ _ => trivial) ?_ ?_ named
  · intro past effect named looks
    unfold Looks at looks
    split at looks
    · refine ⟨(fun x h => by cases h), ?_⟩
      intro answer s' leads x hostId text h
      obtain ⟨-, rfl⟩ := leads
      exact (named x hostId text h).append _
    · cases looks
  · intro x h hostId past _
    cases h
    exact resuming_recoverBroken hostId (.inl rfl)
  · intro x hostId text h past named
    exact resuming_recoverBroken hostId (.inr (named x hostId text h))

theorem resuming_sustains :
    Sustains (resuming key checkpoint) Unwritten key (· = checkpoint.instanceId) hostname
      anyhow where
  tends := by
    intro x same past effect unwritten tends
    obtain rfl := same
    refine ⟨permitted_of_tends past tends, ?_⟩
    intro answer s' leads
    obtain ⟨-, rfl⟩ := leads
    exact unwritten.append (read_of_tends tends)
  fails _ _ _ _ := trivial
  reallocates := by
    intro x past same _
    obtain rfl := same
    exact rfl
  reallocated := by
    intro x past machine s' same unwritten leads
    obtain rfl := same
    obtain ⟨⟨carries, -⟩, rfl⟩ := leads
    exact ⟨carries rfl, unwritten.append id⟩
  deployed := by
    intro x params past machine s' same _ leads
    obtain rfl := same
    obtain ⟨⟨carries, -⟩, -⟩ := leads
    exact carries rfl
  poweredOn := by
    intro x past machine s' same _ leads
    obtain rfl := same
    obtain ⟨⟨carries, -⟩, -⟩ := leads
    exact carries rfl
  recovers := by
    intro x call error past s' same _ _ leads context α ok
    obtain rfl := same
    obtain ⟨-, rfl⟩ := leads
    refine resuming_failWith fun y hostId text h => ?_
    subst h
    exact ⟨call, hostId, text, List.mem_append_right past (.head [])⟩

theorem resuming_resumes {past : Transcript} (unwritten : Unwritten past) :
    Resumes (resuming key checkpoint) Unwritten key (· = checkpoint.instanceId)
      checkpoint.instanceId anyhow past where
  allowed := by
    intro x h
    cases h
  seen := by
    intro machine s' leads
    obtain ⟨⟨carries, -⟩, rfl⟩ := leads
    exact ⟨carries rfl, unwritten.append id⟩
  broken := by
    intro machine s' leads _ hostId ok
    obtain ⟨⟨carries, -⟩, rfl⟩ := leads
    exact resuming_recoverBroken hostId (.inl (carries rfl))
  failed := by
    intro machine s' leads _
    obtain ⟨⟨carries, -⟩, rfl⟩ := leads
    rw [carries rfl]
    exact resuming_release
  gone text s' _ := Pass.ensures_store.mpr ⟨trivial, fun _ _ _ _ _ => trivial, fun _ _ _ => trivial⟩
  refused _ _ _ _ _ := trivial

theorem resuming_provision {options : Options} {spec : Spec} :
    (provision options key spec).Ensures (resuming key checkpoint)
      (fun seen past => seen.systemId = checkpoint.instanceId ∧ Unwritten past) anyhow [] := by
  refine Pass.ensures_bind.mpr (Pass.ensures_store.mpr ⟨trivial, ?_, fun _ _ _ => trivial⟩)
  intro saved past leads
  obtain ⟨⟨-, starts⟩, rfl⟩ := leads
  unfold provisionFrom
  rw [starts rfl saved rfl]
  have unwritten : Unwritten ([] ++ [⟨.store (.load key), .ok saved⟩]) :=
    List.forall_mem_singleton.mpr id
  exact resuming_sustains.resume options rfl (resuming_resumes unwritten)

/-- A pass of a run that starts with a recorded instance composes nothing, allocates and configures
    no other instance, and releases another one only when MAAS called it broken before. When it
    succeeds it shows the instance, which is recorded as before. -/
theorem resumes_recorded_instance {start : Option Checkpoint} {turns : List Turn} {turn : Turn}
    {checkpoint : Checkpoint} (run : IsRun key start turns) (mem : turn ∈ turns)
    (recorded : turn.before = some checkpoint)
    (carries : ∀ exchange ∈ turn.transcript,
      Carries checkpoint.instanceId exchange.1 exchange.2) :
    (∀ before exchange after, turn.transcript = before ++ exchange :: after →
      Permitted checkpoint.instanceId before exchange.1) ∧
    ∀ seen, turn.result = .ok seen →
      seen.systemId = checkpoint.instanceId ∧ turn.after = some checkpoint := by
  obtain ⟨trace, follows⟩ := run.turn mem
  obtain ⟨ends, permitted⟩ := resuming_provision.trace trace (by
    intro before exchange after split
    rw [List.nil_append]
    rw [split, recorded] at follows
    refine ⟨carries exchange (by simp [split]), startsFrom_of_follows follows⟩)
  refine ⟨permitted, fun seen succeeded => ?_⟩
  rw [succeeded] at ends
  obtain ⟨same, unwritten⟩ := ends
  exact ⟨same, (recorded_of_no_write follows unwritten).trans recorded⟩

/-- A machine that is allocated and recorded, with nothing done to it yet. -/
def halfway : World where
  region := Region.empty.after (.addMachine
    { systemId := "m1", hostname := "node-7", statusName := "Allocated", powerState := "off" })
  memory := Store.Memory.modifySaved {} ⟨"metal", "worker-0"⟩ fun saved =>
    { saved with checkpoint := some (.new "m1" none (some "node-7")) }
  clock := ⟨0, 0⟩

theorem resumes_recorded_instance_halfway :
    let turn := halfway.turn {} ⟨"metal", "worker-0"⟩ { minCpu := 1, minMemoryMib := 1 }
    ∃ seen, turn.result = .ok seen ∧ seen.systemId = "m1" ∧
      turn.after = some (.new "m1" none (some "node-7")) := by
  intro turn
  have keyed : halfway.region.Keyed := Region.keyed_empty.after _
  have recorded : turn.before = some (.new "m1" none (some "node-7")) := by decide +kernel
  have deploys : turn.result.toOption.isSome = true := by decide +kernel
  cases result : turn.result with
  | error failure => rw [result] at deploys; cases deploys
  | ok seen =>
      have resumes := resumes_recorded_instance (halfway.isRun_turn _ _ _) (.head []) recorded
        (halfway.carries_exchanges _ _ keyed).1
      exact ⟨seen, rfl, resumes.2 seen result⟩

end MachineProvisioning.Engine
