import MachineProvisioning.Proofs.Engine.Standing
import MachineProvisioning.Proofs.Store.Publication
import Mathlib.Data.List.Dedup

/-! # Readiness in Kubernetes

Passes of one machine follow each other from no status at all, and each may be stopped anywhere, also
within a call of the store. An instance is stored as ready only when a pass has seen it up, as long as
no pass starts from a status that is ready and names no instance. Such a status is what remains when
the record of a ready instance is cleared and nothing is published after it.
-/

namespace MachineProvisioning.Store.Kubernetes

open Json
open Engine (Discipline Effect Transcript Options Standing Procedure Carries publishing)
open Program (Exchange)
open Resource (Key Spec Object)

variable {name x : String} {key : Key} {status status' : Json}

/-- The instance that a status names and whether it is ready, as they are stored. -/
def standingOf (status : Json) : Standing where
  named := (status.get? "instanceId").bind text?
  ready := ((status.get? "ready").bind bool?).getD false

theorem named_standingOf :
    (standingOf status).named = some x ↔ status.get? "instanceId" = some (.str x) := by
  cases found : status.get? "instanceId" with
  | none => simp [standingOf, found]
  | some j => cases j <;> simp [standingOf, found, text?]

theorem ready_standingOf :
    (standingOf status).ready = true ↔ status.get? "ready" = some (.bool true) := by
  cases found : status.get? "ready" with
  | none => simp [standingOf, found]
  | some j => cases j <;> simp [standingOf, found, bool?]

theorem standingOf_mergePatch {patch : List (String × Json)} (unique : (patch.map Prod.fst).Nodup) :
    standingOf (mergePatch status (.obj patch)) =
      { named := (mergeField (status.get? "instanceId") (field? "instanceId" patch)).bind text?
        ready := ((mergeField (status.get? "ready") (field? "ready" patch)).bind bool?).getD false } := by
  simp only [standingOf, get?_mergePatch unique]

theorem standingOf_statusAfter {call : Call} (concerns : Concerns key call) :
    standingOf (statusAfter status call) = (standingOf status).after key (.store call) := by
  cases call with
  | recordInstance k checkpoint =>
      cases concerns
      have unique : ((checkpointFields checkpoint).map Prod.fst).Nodup := by
        simp [checkpointFields]
      have instanceId : field? "instanceId" (checkpointFields checkpoint) =
          some (.str checkpoint.instanceId) := by simp [checkpointFields, field?_cons, field?_nil]
      have ready : field? "ready" (checkpointFields checkpoint) = none := by
        simp [checkpointFields, field?_cons, field?_nil]
      rw [statusAfter, standingOf_mergePatch unique, instanceId, ready]
      simp [standingOf, Standing.after, mergeField, mergePatch, text?]
  | clearInstance k =>
      cases concerns
      rw [statusAfter, standingOf_mergePatch (by decide)]
      simp [standingOf, Standing.after, clearedFields, field?_cons, field?_nil, mergeField]
  | publishStatus k published =>
      cases concerns
      have instanceId : field? "instanceId" (publishedFields published) = none :=
        field?_publishedFields_identifier (by decide)
      have ready : field? "ready" (publishedFields published) = some (.bool published.ready) :=
        (field?_publishedFields (by decide)).trans (by simp [field?_toFields])
      rw [statusAfter, standingOf_mergePatch (nodup_publishedFields published), instanceId, ready]
      simp [standingOf, Standing.after, mergeField, mergePatch, bool?]
  | _ => rfl

theorem bool_of_readsDefault {found found' : Option Json} {value : Bool}
    (same : SameField found found') (reads : ReadsDefault false bool? found value) :
    (found'.bind bool?).getD false = value := by
  cases found' with
  | none =>
      rw [same.eq_none] at reads
      exact Option.some.inj reads
  | some j =>
      obtain ⟨j', rfl, alike⟩ := same.eq_some
      cases j' with
      | bool b =>
          cases Same.bool (Eq.symm alike)
          exact Option.some.inj reads
      | _ => cases reads

/-- What is loaded shows the instance that is named and whether it is ready. -/
theorem Loaded.shows {saved : Saved} (loaded : Loaded key status saved) :
    (standingOf status).Shows saved := by
  obtain ⟨-, get, found, reads⟩ := loaded.status
  constructor
  · rw [loaded.checkpoint, bind_checkpointOf, instanceId_checkpointOf, standingOf, get?_eq_field?]
    exact (text_of_readsOptional (found _) reads.instanceId).symm
  · simp only [standingOf, get?_eq_field?]
    exact (bool_of_readsDefault (found _) reads.ready).symm

/-- What a request of a pass can do to the status that the API server keeps. A call of the store that
    breaks off is answered with an error, or the pass is stopped in it. -/
inductive Affects (key : Key) (status : Json) : (effect : Effect) → effect.Answer → Json → Prop where
  | answered {call : Call} {reply : call.Reply} {status' : Json} (concerns : Concerns key call)
      (yields : Yields key status call reply status') : Affects key status (.store call) reply status'
  | broken {call : Call} {fault : Failure} {status' : Json} (concerns : Concerns key call)
      (breaks : Breaks key status call status') :
      Affects key status (.store call) (.error fault) status'
  | apart {effect : Effect} {answer : effect.Answer}
      (other : ∀ call, effect = .store call → ¬Concerns key call) :
      Affects key status effect answer status

/-- The status that the API server keeps while passes are made. -/
def keeping (key : Key) : Discipline Json where
  allows _ _ := True
  leads := Affects key

theorem publishing_of_affects {effect : Effect} {answer : effect.Answer}
    (affects : Affects key status effect answer status')
    (carries : ∀ y, Carries y effect answer) :
    (publishing key fun _ => True).leads (standingOf status) effect answer (standingOf status') := by
  cases affects with
  | answered concerns yields =>
      refine ⟨?_, ?_, carries⟩
      · rw [← standingOf_statusAfter concerns]
        exact (yields.leaves concerns).1.imp (congrArg _) (congrArg _)
      · intro saved same
        cases same
        exact yields.loads.2.shows
  | broken concerns breaks =>
      refine ⟨?_, ?_, carries⟩
      · rw [← standingOf_statusAfter concerns]
        exact (breaks.either concerns).imp (congrArg _) (congrArg _)
      · intro saved same
        cases same
  | apart other =>
      refine ⟨.inl rfl, ?_, carries⟩
      intro saved same
      cases same
      exact absurd rfl (other _ rfl)

/-- A pass of a run, which may have been stopped. -/
structure Attempt where
  options : Options
  spec : Spec
  /-- What is kept before the pass. -/
  before : Json
  transcript : Transcript
  /-- What is kept after the pass. -/
  after : Json

/-- The attempts are passes of the machine, one after another, from one status to the other. -/
def IsHistory (key : Key) : Json → List Attempt → Json → Prop
  | status, [], last => last = status
  | status, attempt :: rest, last =>
      attempt.before = status ∧
        Program.Part (Engine.reconcile attempt.options key attempt.spec).run attempt.transcript ∧
        (keeping key).Follows attempt.before attempt.transcript attempt.after ∧
        IsHistory key attempt.after rest last

/-- The pass has seen the instance deployed, or on the way to it, with an address. -/
def Attempt.Observes (key : Key) (attempt : Attempt) (systemId : String) : Prop :=
  Engine.Observes attempt.options key attempt.spec systemId attempt.transcript

/-- Answers about a machine carry its identifier. -/
def Attempt.Honest (attempt : Attempt) : Prop :=
  ∀ exchange ∈ attempt.transcript, ∀ y, Carries y exchange.1 exchange.2

/-- The status is ready and names this instance. -/
def ReadyAs (status : Json) (systemId : String) : Prop :=
  status.get? "instanceId" = some (.str systemId) ∧ status.get? "ready" = some (.bool true)

/-- The status is not ready unless it names an instance. -/
def Owned (status : Json) : Prop :=
  status.get? "ready" = some (.bool true) → ∃ y, status.get? "instanceId" = some (.str y)

theorem Owned.named (owned : Owned status) (ready : (standingOf status).ready = true) :
    (standingOf status).named ≠ none := by
  obtain ⟨y, named⟩ := owned (ready_standingOf.mp ready)
  rw [named_standingOf.mpr named]
  simp

theorem sound_of_history {observed : String → Prop} {attempts : List Attempt} {last : Json}
    (history : IsHistory key status attempts last) (sound : (standingOf status).Sound observed)
    (honest : ∀ attempt ∈ attempts, attempt.Honest)
    (owned : ∀ attempt ∈ attempts, Owned attempt.before) :
    (standingOf last).Sound fun x => observed x ∨ ∃ attempt ∈ attempts, attempt.Observes key x := by
  -- By induction on the passes: what the first one has seen counts as observed before the others.
  induction attempts generalizing status observed with
  | nil =>
      cases history
      exact fun x named ready => .inl (sound x named ready)
  | cons attempt rest ih =>
      obtain ⟨rfl, part, follows, history⟩ := history
      have publishes : (publishing key fun _ => True).Follows (standingOf attempt.before)
          attempt.transcript (standingOf attempt.after) :=
        follows.view standingOf fun exchange mem _ _ affects =>
          publishing_of_affects affects (honest attempt (.head rest) exchange mem)
      have kept := Engine.sound_of_reconcile sound (owned attempt (.head rest)).named part publishes
      intro x named ready
      obtain (before | here) | ⟨other, mem, later⟩ :=
        ih history kept (fun other mem => honest other (.tail attempt mem))
          (fun other mem => owned other (.tail attempt mem)) x named ready
      · exact .inl before
      · exact .inr ⟨attempt, .head rest, here⟩
      · exact .inr ⟨other, .tail attempt mem, later⟩

/-- What is loaded of an object with this status. -/
def savedOf (status : Json) : Option Saved :=
  (Object.ofJson? (document status).canonical).map savedIn

/-- What a call succeeds with. Annotations and listings are not served. -/
def valueOf (status : Json) : (call : Call) → Option call.Value
  | .load _ => savedOf status
  | .recordInstance _ _ | .clearInstance _ | .publishStatus _ _ => some ()
  | _ => none

/-- Calls about `worker` are answered, and do nothing when they are refused. -/
def store (refuses : Call → Bool) (call : Call) (status : Json) : call.Reply × Json :=
  match if Concerns worker call ∧ refuses call = false then valueOf status call else none with
  | some value => (.ok value, statusAfter status call)
  | none => (.error (.persistence "unavailable"), status)

/-- MAAS and the API server answer, at the start of 1970. -/
def served (maas : (call : Maas.Call) → call.Reply) (refuses : Call → Bool) :
    (effect : Effect) → Json → effect.Answer × Json
  | .maas call, status => (maas call, status)
  | .store call, status => store refuses call status
  | .clock, status => (⟨0, 0⟩, status)
  | .count _, status => ((), status)

theorem yields_store {call : Call} {value : call.Value} {saved saved' : Saved}
    (concerns : Concerns worker call) (found : valueOf status call = some value)
    (legible : Legible status saved) (legible' : Legible (statusAfter status call) saved') :
    Yields worker status call (.ok value) (statusAfter status call) := by
  have shown := gives_showing legible
  have shown' := gives_showing legible'
  cases call with
  | load k =>
      cases concerns
      obtain rfl : saved = value :=
        Option.some.inj (legible.2.2.2.2.symm.trans found)
      exact yields_load readable_worker shown
  | recordInstance k checkpoint =>
      cases concerns
      exact yields_record readable_worker writable_worker shown shown'
  | clearInstance k =>
      cases concerns
      exact yields_clear readable_worker writable_worker shown shown'
  | publishStatus k published =>
      cases concerns
      exact yields_publish writable_worker shown'
  | _ => cases found

theorem affects_store {refuses : Call → Bool} {call : Call} {saved saved' : Saved}
    (legible : Legible status saved) (legible' : Legible (store refuses call status).2 saved') :
    Affects worker status (.store call) (store refuses call status).1
      (store refuses call status).2 := by
  by_cases concerns : Concerns worker call
  · cases given : if Concerns worker call ∧ refuses call = false then valueOf status call else none with
    | none =>
        simp only [store, given]
        exact .broken concerns ⟨[], .stopped _, rfl⟩
    | some value =>
        simp only [store, given] at legible' ⊢
        have found : valueOf status call = some value := by
          revert given
          split <;> simp
        exact .answered concerns (yields_store concerns found legible legible')
  · simp only [store, concerns, false_and, if_false]
    exact .apart fun _ same => by cases same; exact concerns

/-- The statuses of a run of passes, and the one it ends with. -/
def statuses {α : Type} (maas : (call : Maas.Call) → call.Reply) (refuses : Call → Bool)
    (p : Procedure α) (status : Json) : List Json :=
  p.stages (served maas refuses) status ++ [(p.run (served maas refuses) status).2]

theorem mem_statuses {α : Type} (maas : (call : Maas.Call) → call.Reply) (refuses : Call → Bool)
    (p : Procedure α) (status : Json) : status ∈ statuses maas refuses p status := by
  cases p with
  | done a => exact .head _
  | ask effect next => exact .head _

/-- All statuses that are kept can be read. -/
def AllLegible (statuses : List Json) : Prop :=
  ∀ status ∈ statuses.dedup, ∃ saved ∈ savedOf status, Legible status saved

instance (statuses : List Json) : Decidable (AllLegible statuses) :=
  inferInstanceAs (Decidable (∀ _ ∈ _, _))

theorem keeping_served {α : Type} {maas : (call : Maas.Call) → call.Reply} {refuses : Call → Bool}
    {p : Procedure α} (legible : AllLegible (statuses maas refuses p status)) :
    (keeping worker).Follows status (p.exchanges (served maas refuses) status)
      (p.run (served maas refuses) status).2 := by
  have each : ∀ s ∈ statuses maas refuses p status, ∃ saved, Legible s saved := by
    intro s mem
    obtain ⟨saved, -, read⟩ := legible s (List.mem_dedup.mpr mem)
    exact ⟨saved, read⟩
  clear legible
  induction p generalizing status with
  | done a => rfl
  | ask effect next ih =>
      -- An answer is read from the status before a call and the one after it, both of the list.
      refine ⟨(served maas refuses effect status).2, ?_, ih _ fun s mem => each s (.tail _ mem)⟩
      cases effect with
      | store call =>
          obtain ⟨saved, legible⟩ := each status (.head _)
          obtain ⟨saved', legible'⟩ := each _ (.tail _ (mem_statuses maas refuses _ _))
          exact affects_store legible legible'
      | _ => exact .apart fun _ same => by cases same

/-- A pass of `worker` from this status that is not stopped. -/
def attempt (maas : (call : Maas.Call) → call.Reply) (refuses : Call → Bool) (status : Json) :
    Attempt :=
  let spec : Spec := { minCpu := 1, minMemoryMib := 1 }
  let pass := (Engine.reconcile {} worker spec).run
  { options := {}
    spec
    before := status
    transcript := pass.exchanges (served maas refuses) status
    after := (pass.run (served maas refuses) status).2 }

/-- All statuses of the attempt can be read. -/
def Readable (maas : (call : Maas.Call) → call.Reply) (refuses : Call → Bool) (status : Json) : Prop :=
  AllLegible (statuses maas refuses
    (Engine.reconcile {} worker { minCpu := 1, minMemoryMib := 1 }).run status)

instance (maas : (call : Maas.Call) → call.Reply) (refuses : Call → Bool) (status : Json) :
    Decidable (Readable maas refuses status) := inferInstanceAs (Decidable (AllLegible _))

theorem isHistory_cons {maas : (call : Maas.Call) → call.Reply} {refuses : Call → Bool}
    {rest : List Attempt} {last : Json} (readable : Readable maas refuses status)
    (history : IsHistory worker (attempt maas refuses status).after rest last) :
    IsHistory worker status (attempt maas refuses status :: rest) last :=
  ⟨rfl, (Program.trace_exchanges _ _ _).part, keeping_served readable, history⟩

/-- MAAS hands this machine out, deploys it if it can, and knows no machine later. -/
def handsOut (machine : Maas.Machine) (deploys : Bool) : (call : Maas.Call) → call.Reply
  | .allocate params => .ok { machine with systemId := params.systemId.getD machine.systemId }
  | .deploy systemId _ =>
      if deploys then .ok { machine with systemId, statusName := "Deploying" }
      else .error (.api "no image")
  | .getMachine _ => .error (.notFound "no such machine")
  | _ => .error .transport

theorem honest_attempt (machine : Maas.Machine) (deploys : Bool) (refuses : Call → Bool)
    (status : Json) : (attempt (handsOut machine deploys) refuses status).Honest := by
  refine (Program.exchanges_invariant (fun _ => True)
    (fun exchange => ∀ y, Carries y exchange.1 exchange.2) ?_ _ status trivial).1
  intro effect status _
  refine ⟨fun y => ?_, trivial⟩
  cases effect with
  | maas call =>
      cases call with
      | allocate params =>
          intro asked
          exact congrArg (·.getD machine.systemId) asked
      | deploy systemId params => cases deploys <;> simp [served, handsOut, Carries]
      | _ => trivial
  | _ => trivial

/-! One machine is deployed and vanishes; while its end cannot be published, and another one takes its
place that cannot be deployed. -/

def machine (systemId : String) : Maas.Machine where
  systemId
  hostname := "worker-0"
  statusName := "Allocated"
  powerState := "off"
  swapSize := some 0
  ipAddresses := ["10.0.0.1"]

def isPublication : Call → Bool
  | .publishStatus _ _ => true
  | _ => false

def deployed : Attempt := attempt (handsOut (machine "m1") true) (fun _ => false) .null

def lost : Attempt := attempt (handsOut (machine "m1") true) isPublication deployed.after

def replaced : Attempt := attempt (handsOut (machine "m2") false) (fun _ => false) lost.after

theorem readable_deployed :
    Readable (handsOut (machine "m1") true) (fun _ => false) .null := by decide +kernel

theorem readable_lost :
    Readable (handsOut (machine "m1") true) isPublication deployed.after := by decide +kernel

theorem readable_replaced :
    Readable (handsOut (machine "m2") false) (fun _ => false) lost.after := by decide +kernel

instance : Decidable (ReadyAs status x) := inferInstanceAs (Decidable (_ ∧ _))

instance (attempt : Attempt) : Decidable (attempt.Observes key x) :=
  inferInstanceAs (Decidable (Engine.Observes ..))

theorem honest_deployed : deployed.Honest :=
  honest_attempt (machine "m1") true (fun _ => false) .null

theorem honest_lost : lost.Honest :=
  honest_attempt (machine "m1") true isPublication deployed.after

theorem honest_replaced : replaced.Honest :=
  honest_attempt (machine "m2") false (fun _ => false) lost.after

/-- A status that is ready names an instance that some pass has seen up, when the first pass started
    from no status and none from one that is ready and names no instance. -/
theorem ready_was_observed {attempts : List Attempt} {last : Json}
    (history : IsHistory key .null attempts last) (honest : ∀ attempt ∈ attempts, attempt.Honest)
    (owned : ∀ attempt ∈ attempts, Owned attempt.before) (ready : ReadyAs last x) :
    ∃ attempt ∈ attempts, attempt.Observes key x := by
  have nothing : (standingOf .null).Sound fun _ => False := fun y named => by cases named
  obtain never | observed := sound_of_history history nothing honest owned x
    (named_standingOf.mpr ready.1) (ready_standingOf.mpr ready.2)
  · exact never.elim
  · exact observed

theorem ready_was_observed_deployed :
    IsHistory worker .null [deployed] deployed.after ∧
      (∀ attempt ∈ [deployed], attempt.Honest) ∧
      (∀ attempt ∈ [deployed], Owned attempt.before) ∧ ReadyAs deployed.after "m1" ∧
      ∃ attempt ∈ [deployed], attempt.Observes worker "m1" := by
  have history : IsHistory worker .null [deployed] deployed.after :=
    isHistory_cons readable_deployed rfl
  have honest : ∀ attempt ∈ [deployed], attempt.Honest := by
    intro attempt mem
    cases List.mem_singleton.mp mem
    exact honest_deployed
  have owned : ∀ attempt ∈ [deployed], Owned attempt.before := by
    intro attempt mem
    cases List.mem_singleton.mp mem
    intro ready
    cases ready
  have ready : ReadyAs deployed.after "m1" := by decide +kernel
  exact ⟨history, honest, owned, ready, ready_was_observed history honest owned ready⟩

/-- The second machine is never seen up, but takes over the readiness of the first one. -/
theorem ready_unobserved_replaced :
    ¬∀ (key : Key) (attempts : List Attempt) (last : Json) (x : String),
      IsHistory key .null attempts last → (∀ attempt ∈ attempts, attempt.Honest) →
        ReadyAs last x → ∃ attempt ∈ attempts, attempt.Observes key x := by
  intro claim
  have history : IsHistory worker .null [deployed, lost, replaced] replaced.after :=
    isHistory_cons readable_deployed (isHistory_cons readable_lost (isHistory_cons readable_replaced rfl))
  have honest : ∀ attempt ∈ [deployed, lost, replaced], attempt.Honest := by
    intro attempt mem
    obtain rfl | rfl | rfl : attempt = deployed ∨ attempt = lost ∨ attempt = replaced := by
      simpa using mem
    · exact honest_deployed
    · exact honest_lost
    · exact honest_replaced
  have ready : ReadyAs replaced.after "m2" := by decide +kernel
  have unseen : ¬∃ attempt ∈ [deployed, lost, replaced], attempt.Observes worker "m2" := by
    decide +kernel
  exact unseen (claim worker _ _ "m2" history honest ready)

end MachineProvisioning.Store.Kubernetes
