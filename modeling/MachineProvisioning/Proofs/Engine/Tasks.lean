import MachineProvisioning.Proofs.Engine.Standing

/-! # Tasks

What a controller does about a declared machine is to provision it, to reconcile it or to clean up
after it. Every task starts with what is recorded, and calls MAAS only to go on from there.
-/

namespace MachineProvisioning.Engine

open Resource (Key Spec Status)
open Lifecycle (Instance)
open Store (Saved)

/-- Something to do about a declared machine. -/
inductive Task where
  | provision (options : Options) (spec : Spec)
  | reconcile (options : Options) (spec : Spec)
  | cleanup

namespace Task

/-- The declaration that the task goes by. -/
def spec? : Task → Option Spec
  | .provision _ spec | .reconcile _ spec => some spec
  | .cleanup => none

/-- The hostname that the task knows the machine by. -/
def hostname (key : Key) (task : Task) : String := (task.spec?.bind (·.hostname)).getD key.name

/-- What the task asks for. -/
def program (key : Key) : Task → Procedure Unit
  | .provision options spec => discard (Engine.provision options key spec).run
  | .reconcile options spec => discard (Engine.reconcile options key spec).run
  | .cleanup => discard (Engine.cleanup key).run

end Task

/-- What publishing the outcome of a pass asks for. -/
def Concludes : Effect → Prop
  | .clock | .count _ | .store (.publishStatus _ _) => True
  | _ => False

variable {σ α : Type} {P : Discipline σ} {key : Key} {kept : σ → Prop} {s : σ}

theorem Concludes.of_publishes {ready : Bool} {effect : Effect} (publishes : Publishes key ready effect) :
    Concludes effect := by
  unfold Publishes at publishes
  split at publishes
  · trivial
  · trivial
  · trivial
  · cases publishes

/-- What a protocol has to bear of the tasks about a declared machine: what follows the load of its
    record. -/
structure Undertakes (P : Discipline σ) (key : Key) (spec? : Option Spec) (kept : σ → Prop) (s : σ) :
    Prop where
  allowed : P.allows s (.store (.load key))
  unloaded : ∀ fault s', P.leads s (.store (.load key)) (.error fault) s' → kept s'
  loaded : ∀ saved s', P.leads s (.store (.load key)) (.ok saved) s' → kept s'
  provisions : ∀ options spec saved s', spec? = some spec →
    P.leads s (.store (.load key)) (.ok saved) s' →
      (provisionFrom options key spec saved).Ensures P (fun _ => kept) (fun _ => kept) s'
  releases : ∀ saved checkpoint s', saved.checkpoint = some checkpoint →
    P.leads s (.store (.load key)) (.ok saved) s' →
      (release key checkpoint.instanceId).Ensures P (fun _ => kept) (fun _ => kept) s'
  concludes : P.Tolerates kept Concludes

theorem Undertakes.reconcile {spec : Spec} (undertakes : Undertakes P key (some spec) kept s)
    (options : Options) :
    (reconcile options key spec).Ensures P (fun _ => kept) (fun _ => kept) s := by
  refine Pass.ensures_bind.mpr (Pass.ensures_tryStore.mpr ⟨undertakes.allowed, fun reply s' leads => ?_⟩)
  cases reply with
  | error fault =>
      have counts : Pass.Asks Concludes (Pass.count (.reconciled (outcomeOf fault))) :=
        Pass.asks_count trivial
      exact (counts.ensures undertakes.concludes (undertakes.unloaded fault s' leads)).bind
        fun _ _ kept => Pass.ensures_throw.mpr kept
  | ok saved =>
      have concludes {α : Type} {ready : Bool} {p : Pass α} (asks : p.Asks (Publishes key ready))
          {s' : σ} (start : kept s') : p.Ensures P (fun _ => kept) (fun _ => kept) s' :=
        asks.ensures (undertakes.concludes.mono fun _ => .of_publishes) start
      have attempts : Pass.Ensures P (ExceptT.lift (provisionFrom options key spec saved).run)
          (fun _ => kept) (fun _ => kept) s' :=
        Pass.ensures_attempt.mpr (undertakes.provisions options spec saved s' rfl leads)
      refine attempts.bind fun result s'' kept => ?_
      cases result with
      | ok seen => exact concludes (asks_concludeSeen seen) kept
      | error failure => exact concludes (asks_concludeFailed failure) kept

theorem Undertakes.provision {spec : Spec} (undertakes : Undertakes P key (some spec) kept s)
    (options : Options) :
    (provision options key spec).Ensures P (fun _ => kept) (fun _ => kept) s := by
  refine Pass.ensures_bind.mpr (Pass.ensures_store.mpr ⟨undertakes.allowed, ?_, undertakes.unloaded⟩)
  exact fun saved s' leads => undertakes.provisions options spec saved s' rfl leads

theorem Undertakes.cleanup (undertakes : Undertakes P key none kept s) :
    (cleanup key).Ensures P (fun _ => kept) (fun _ => kept) s := by
  refine Pass.ensures_bind.mpr (Pass.ensures_store.mpr ⟨undertakes.allowed, ?_, undertakes.unloaded⟩)
  intro saved s' leads
  extract_lets ends
  have ends : ∀ t, kept t → (ends ()).Ensures P (fun _ => kept) (fun _ => kept) t := fun t kept =>
    Pass.ensures_pure.mpr kept
  split
  · next checkpoint found => exact (undertakes.releases saved checkpoint s' found leads).bind fun _ => ends
  · exact ends s' (undertakes.loaded saved s' leads)

/-- A protocol that can bear what follows the load can bear the task. -/
theorem Undertakes.keeps {task : Task} (undertakes : Undertakes P key task.spec? kept s) :
    (task.program key).Keeps P (fun _ => kept) s := by
  cases task with
  | provision options spec => exact Pass.keeps_discard.mpr (undertakes.provision options)
  | reconcile options spec => exact Pass.keeps_discard.mpr (undertakes.reconcile options)
  | cleanup => exact Pass.keeps_discard.mpr undertakes.cleanup

end MachineProvisioning.Engine
