import MachineProvisioning.Proofs.Engine.Silence
import MachineProvisioning.Proofs.Lifecycle.Status
import MachineProvisioning.Proofs.Program.Requests
import MachineProvisioning.Proofs.World.Answers

/-! # The same outcome again

The status that a pass publishes follows from its outcome and from the status before. Derived once more
from the same outcome it is the same, whatever the clock says, so a pass that comes to the outcome of
the pass before has nothing to publish when the memory keeps what was published.
-/

namespace MachineProvisioning

open Resource (Key Spec Status)
open Lifecycle (ClockReadings)
open Engine

namespace Faults

variable {ε : Type} {faults : Faults ε} {name : String}

theorem next_of_none (unplanned : faults.get? name = none) : faults.next name = (none, faults) := by
  simp [next, unplanned]

/-- What is not planned stays unplanned. -/
theorem get?_next (unplanned : faults.get? name = none) (other : String) :
    (faults.next other).2.get? name = none := by
  unfold next
  split
  · next met rest planned =>
      have differ : other ≠ name := by
        rintro rfl
        rw [unplanned] at planned
        cases planned
      dsimp only
      rw [Table.get?_insert, if_neg differ, unplanned]
  · exact unplanned

end Faults

namespace Store.Memory

theorem status_modifySaved (memory : Memory) (key other : Key) (f : Saved → Saved) :
    ((memory.modifySaved key f).entry other).saved.status =
      if key = other then (f (memory.entry key).saved).status
      else (memory.entry other).saved.status := by
  unfold modifySaved
  rw [entry_modify]
  split <;> rfl

/-- Only a publication changes what is published. -/
theorem status_answer (memory : Memory) (key : Key) {call : Store.Call} (silent : Silent (.store call)) :
    ((memory.answer call).2.entry key).saved.status = (memory.entry key).saved.status := by
  have kept (k : Key) (f : Saved → Saved) (same : ∀ saved, (f saved).status = saved.status) :
      ((memory.modifySaved k f).entry key).saved.status = (memory.entry key).saved.status := by
    rw [status_modifySaved]
    split
    · next own => rw [same, own]
    · rfl
  cases call with
  | publishStatus k status => exact absurd trivial silent
  | load k => rfl
  | recordInstance k checkpoint =>
      unfold answer
      split
      · rfl
      · exact kept k _ fun _ => rfl
  | clearInstance k => exact kept k _ fun _ => rfl
  | annotate k name value => exact kept k _ fun _ => rfl
  | listStaticIps namespace_ =>
      simp only [answer]
      split <;> rfl

end Store.Memory

namespace World

/-- The memory itself answers every call of this name. -/
def Unfaulted (world : World) (name : String) : Prop := world.storeFaults.get? name = none

/-- The status that is published of a machine. -/
def published (world : World) (key : Key) : Option Status := (world.memory.entry key).saved.status

variable {world after : World} {key : Key} {name : String}

theorem Unfaulted.answer (unfaulted : world.Unfaulted name) (effect : Effect) :
    (world.answer effect).2.Unfaulted name := by
  cases effect with
  | maas call =>
      change (world.answerMaas call).2.storeFaults.get? name = none
      unfold answerMaas
      split
      dsimp only
      split <;> exact unfaulted
  | store call =>
      change (world.answerStore call).2.storeFaults.get? name = none
      have kept := Faults.get?_next unfaulted call.name
      unfold answerStore
      split
      next faults same =>
        rw [same] at kept
        dsimp only
        split <;> exact kept
  | clock => exact unfaulted
  | count event => exact unfaulted

theorem published_answer (world : World) (key : Key) {effect : Effect} (silent : Silent effect) :
    (world.answer effect).2.published key = world.published key := by
  unfold published
  cases effect with
  | maas call =>
      change ((world.answerMaas call).2.memory.entry key).saved.status = _
      rw [(world.answerMaas_cases call).1]
  | store call =>
      change ((world.answerStore call).2.memory.entry key).saved.status = _
      obtain ⟨-, ⟨fault, -, memory⟩ | ⟨-, memory⟩⟩ := world.answerStore_cases call
      · rw [memory]
      · rw [memory, world.memory.status_answer key silent]
  | clock => rfl
  | count event => rfl

/-- A call that meets no fault is answered by the memory. -/
theorem Unfaulted.answerStore {call : Store.Call} (unfaulted : world.Unfaulted call.name) :
    (world.answerStore call).1 = (world.memory.answer call).1 ∧
      (world.answerStore call).2.memory = (world.memory.answer call).2 := by
  unfold World.answerStore
  rw [Faults.next_of_none unfaulted]
  exact ⟨rfl, rfl⟩

/-- What is loaded is what the memory has. -/
theorem loaded_eq {saved : Store.Saved}
    (answers : (.ok saved, after) = world.answer (.store (.load key))) :
    saved = (world.memory.entry key).saved := by
  change (_, after) = world.answerStore (.load key) at answers
  obtain ⟨-, ⟨fault, reply, -⟩ | ⟨reply, -⟩⟩ := world.answerStore_cases (.load key)
  · rw [← answers] at reply
    cases reply
  · rw [← answers] at reply
    exact Except.ok.inj reply

variable {options : Options} {spec : Spec} {proper : World → Effect → Prop} {start ends : World → Prop}

/-- What a pass does until it concludes is what provisioning does. -/
theorem pass_provision {saved : Store.Saved}
    (answers : (.ok saved, after) = world.answer (.store (.load key))) :
    world.pass (provision options key spec) = after.pass (provisionFrom options key spec saved) := by
  have loads : Program.run World.answer (Pass.store (.load key)).run world = (.ok saved, after) :=
    answers.symm
  unfold provision pass World.run
  rw [ExceptT.run_bind, Program.run_bind, loads]

/-- Whatever is told of the pass before it concludes and after it, publishing takes it from the one to
    the other. -/
theorem reconcile_concludes
    (before : (Protocol.attending World.answer proper).Tolerates start Silent)
    (rest : (Protocol.attending World.answer proper).Tolerates ends Silent) (starts : start world)
    (unloaded : ∀ fault after, (.error fault, after) = world.answer (.store (.load key)) → ends after)
    (publishes : ∀ clock after, start after →
      (publishChange key (world.published key) (Lifecycle.conclusion (world.published key) clock
        (world.pass (provision options key spec)).1)).Ensures (.attending World.answer proper)
          (fun _ => ends) (fun _ => ends) after) :
    (Engine.reconcile options key spec).Ensures (.attending World.answer proper) (fun _ => ends)
      (fun _ => ends) world := by
  obtain ⟨allowed, loads⟩ := before world (.store (.load key)) starts id
  refine Pass.ensures_bind.mpr (Pass.ensures_tryStore.mpr ⟨allowed, fun reply after answers => ?_⟩)
  cases reply with
  | error fault =>
      refine ((silent_counts rest).ensures _ (unloaded fault after answers)).bind fun _ _ ended => ?_
      exact Pass.ensures_throw.mpr ended
  | ok saved =>
      have same : saved.status = world.published key := congrArg (·.status) (loaded_eq answers)
      rw [pass_provision answers, ← same] at publishes
      have provisions := provisionFrom_silent before options key spec saved (loads _ after answers)
      refine Pass.ensures_bind.mpr (Pass.ensures_attempt.mpr ((ensures_determined provisions).mono ?_ ?_))
      · rintro seen worked ⟨kept, ran⟩
        rw [ran] at publishes
        refine (silent_clock before kept).bind fun clock _ kept => ?_
        refine (publishes clock _ kept).bind fun _ _ ended => ?_
        refine ((silent_counts rest).ensures _ ended).bind fun _ _ ended => ?_
        exact Pass.ensures_pure.mpr ended
      · rintro failure worked ⟨kept, ran⟩
        rw [ran] at publishes
        refine ((silent_counts before).ensures _ kept).bind fun _ _ kept => ?_
        refine (silent_clock before kept).bind fun clock _ kept => ?_
        refine Pass.ensures_bind.mpr (Pass.ensures_tryCatch.mpr ((publishes clock _ kept).mono ?_ ?_))
        · exact fun _ _ ended => Pass.ensures_throw.mpr ended
        · exact fun _ _ ended => Pass.ensures_pure.mpr (Pass.ensures_throw.mpr ended)

/-- A publication that meets no fault is what is published after it. -/
theorem published_publish {status : Status} {reply : Except Failure Unit}
    (unfaulted : world.Unfaulted "publish_status")
    (answers : (reply, after) = world.answer (.store (.publishStatus key status))) :
    reply = .ok () ∧ after.published key = some status := by
  have answered := @Unfaulted.answerStore world (.publishStatus key status) unfaulted
  change (reply, after) = world.answerStore (.publishStatus key status) at answers
  rw [← answers] at answered
  obtain ⟨replies, memory⟩ := answered
  refine ⟨replies, ?_⟩
  have stored := world.memory.status_modifySaved key key fun saved => { saved with status := some status }
  rw [if_pos rfl] at stored
  unfold published
  rw [memory]
  exact stored

/-- What is published after a pass follows from its outcome and from what was published before. -/
theorem published_reconcile (loads : world.Unfaulted "load")
    (publishes : world.Unfaulted "publish_status") :
    ∃ clock, (world.pass (Engine.reconcile options key spec)).2.published key =
      some (Lifecycle.conclusion (world.published key) clock
        (world.pass (provision options key spec)).1) := by
  have ensures := @reconcile_concludes world key options spec (fun _ _ => True)
    (fun after => after.published key = world.published key ∧ after.Unfaulted "publish_status")
    (fun after => ∃ clock, after.published key = some (Lifecycle.conclusion (world.published key) clock
      (world.pass (provision options key spec)).1)) ?_ ?_ ⟨rfl, publishes⟩ ?_ ?_
  · have ended := (pass_of_attending ensures).1
    cases result : (world.pass (Engine.reconcile options key spec)).1 with
    | ok action =>
        rw [result] at ended
        exact ended
    | error failure =>
        rw [result] at ended
        exact ended
  · rintro before effect ⟨kept, unfaulted⟩ silent
    refine ⟨trivial, fun reply after answers => ?_⟩
    obtain rfl : after = _ := congrArg Prod.snd answers
    exact ⟨(published_answer before key silent).trans kept, unfaulted.answer effect⟩
  · rintro before effect ⟨clock, concluded⟩ silent
    refine ⟨trivial, fun reply after answers => ?_⟩
    obtain rfl : after = _ := congrArg Prod.snd answers
    exact ⟨clock, (published_answer before key silent).trans concluded⟩
  · intro fault after answers
    have answered := (@Unfaulted.answerStore world (.load key) loads).1
    rw [show (world.answerStore (.load key)).1 = .error fault from (congrArg Prod.fst answers).symm]
      at answered
    cases answered
  · rintro clock before ⟨kept, unfaulted⟩
    unfold publishChange
    split
    · next same => exact Pass.ensures_pure.mpr ⟨clock, kept.trans same⟩
    · refine Pass.ensures_store.mpr ⟨trivial, fun _ after answers => ?_, fun fault after answers => ?_⟩
      · exact ⟨clock, (published_publish unfaulted answers).2⟩
      · cases (published_publish unfaulted answers).1

/-- A pass whose outcome has been published publishes nothing. -/
theorem silent_reconcile {previous : Option Status} {clock : ClockReadings}
    (concluded : world.published key = some (Lifecycle.conclusion previous clock
      (world.pass (provision options key spec)).1)) :
    ∀ exchange ∈ world.exchanges (Engine.reconcile options key spec), Silent exchange.1 := by
  have silent : (Protocol.attending World.answer fun _ => Silent).Tolerates (fun _ => True) Silent :=
    fun _ _ _ silent => ⟨silent, fun _ _ _ => trivial⟩
  have ensures := @reconcile_concludes world key options spec (fun _ => Silent) (fun _ => True)
    (fun _ => True) silent silent trivial (fun _ _ _ => trivial) ?_
  · unfold Pass.Ensures at ensures
    exact ensures.asked
  · intro clock' after _
    rw [concluded, Lifecycle.conclusion_idem]
    unfold publishChange
    rw [if_pos rfl]
    exact Pass.ensures_pure.mpr trivial

/-- A status derived again from the same outcome is the same at any time, so a pass with the outcome of
    the pass before publishes nothing. -/
theorem repeats_publish_nothing :
    (∀ previous clock clock' seen providerId,
      Lifecycle.observedStatus (some (Lifecycle.observedStatus previous clock seen providerId)) clock'
          seen providerId = Lifecycle.observedStatus previous clock seen providerId) ∧
    (∀ previous clock clock' failure,
      Lifecycle.failureStatus (some (Lifecycle.failureStatus previous clock failure)) clock' failure =
        Lifecycle.failureStatus previous clock failure) ∧
    ∀ (world later : World) (key : Key) (options options' : Options) (spec spec' : Spec),
      world.Unfaulted "load" → world.Unfaulted "publish_status" →
      later.published key = (world.pass (Engine.reconcile options key spec)).2.published key →
      (later.pass (provision options' key spec')).1 = (world.pass (provision options key spec)).1 →
        ∀ exchange ∈ later.exchanges (Engine.reconcile options' key spec'), Silent exchange.1 := by
  refine ⟨fun _ _ _ _ _ => Lifecycle.observedStatus_idem, fun _ _ _ _ => Lifecycle.failureStatus_idem, ?_⟩
  intro world later key options options' spec spec' loads publishes kept same
  obtain ⟨clock, concluded⟩ := @published_reconcile world key options spec loads publishes
  rw [← same] at concluded
  exact silent_reconcile (kept.trans concluded)

def deployedMachine : Maas.Machine :=
  { systemId := "m1", hostname := "worker-0", cpuCount := 8, memory := 65536,
    statusName := "Deployed", powerState := "on", ipAddresses := ["10.0.0.1"] }

/-- A recorded machine is deployed. -/
def deployedScene : World where
  region := Region.empty.after (.addMachine deployedMachine)
  memory := Store.Memory.modifySaved {} ⟨"metal", "worker-0"⟩ fun saved =>
    { saved with checkpoint := some (.new "m1" none (some "worker-0")) }
  clock := ⟨0, 0⟩

theorem published_at (world : World) (t : Instant) (key : Key) :
    { world with clock := t }.published key = world.published key := rfl

theorem eq_ok_of_toOption {α : Type} {result : Except Failure α} {value : α}
    (given : result.toOption = some value) : result = .ok value := by
  cases result with
  | ok other => exact congrArg _ (Option.some.inj given)
  | error failure => cases given

/-- The pass over the deployed machine publishes its status, and the one a minute later finds nothing
    to publish. -/
theorem repeats_publish_nothing_deployed :
    let key : Key := ⟨"metal", "worker-0"⟩
    let spec : Spec := { minCpu := 1, minMemoryMib := 1 }
    let first := deployedScene.pass (Engine.reconcile {} key spec)
    let later := { first.2 with clock := ⟨60, 0⟩ }
    first.2.memory.statusWrites = 1 ∧
      ∀ exchange ∈ later.exchanges (Engine.reconcile {} key spec), Silent exchange.1 := by
  intro key spec first later
  have seen : (deployedScene.pass (provision {} key spec)).1 = .ok (.ofMachine deployedMachine) :=
    eq_ok_of_toOption (by decide +kernel)
  have again : (later.pass (provision {} key spec)).1 = .ok (.ofMachine deployedMachine) :=
    eq_ok_of_toOption (by decide +kernel)
  have kept : later.published key = first.2.published key := published_at first.2 ⟨60, 0⟩ key
  exact ⟨by decide +kernel, repeats_publish_nothing.2.2 deployedScene later key {} {} spec spec rfl rfl
    kept (again.trans seen.symm)⟩

end World

end MachineProvisioning
