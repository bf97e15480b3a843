import MachineProvisioning.Proofs.Engine.Settled
import MachineProvisioning.Proofs.Lifecycle.Status
import MachineProvisioning.Proofs.Store.Readiness

/-! # Settled machines in Kubernetes

Two whole passes find a machine deployed, powered on and otherwise as it was. The second one has
nothing new to write if what is stored after the first one identifies the machine: its provider id is
never published, and a zone that is stored stays when the machine has none, so both have to be right
before. Where they are not, every pass writes the status again.
-/

namespace MachineProvisioning.Store.Kubernetes

open Engine (Effect Transcript IsSettled Revisits sighting look Action readyRequeue)
open Lifecycle (Instance ClockReadings)
open Maas (Machine)
open Resource (Key Status)

variable {key : Key} {status status' : Json} {machine : Machine} {stored : Status} {saved : Saved}
  {clock : ClockReadings} {pass first second : Attempt} {action : Action}
  {result : Except Failure Action}

/-- The request writes the status of a machine. -/
def WritesStatus : Effect → Prop
  | .store (.recordInstance _ _) | .store (.clearInstance _) | .store (.publishStatus _ _) => True
  | _ => False

instance : DecidablePred WritesStatus
  | .store (.recordInstance _ _) | .store (.clearInstance _) | .store (.publishStatus _ _) =>
      inferInstanceAs (Decidable True)
  | .store (.load _) | .store (.annotate _ _ _) | .store (.listStaticIps _) | .maas _ | .clock
  | .count _ => inferInstanceAs (Decidable False)

theorem eq_of_affects {effect : Effect} {answer : effect.Answer} (quiet : ¬WritesStatus effect)
    (affects : Affects key status effect answer status') : status' = status := by
  cases affects with
  | @answered call reply _ concerns yields =>
      obtain same | same := (yields.leaves concerns).1
      · exact same
      · cases call <;> first | exact same | exact absurd trivial quiet
  | @broken call fault _ concerns breaks =>
      obtain same | same := breaks.either concerns
      · exact same
      · cases call <;> first | exact same | exact absurd trivial quiet
  | apart other => rfl

theorem loaded_of_affects (affects : Affects key status (.store (.load key)) (.ok saved) status') :
    Loaded key status saved := by
  cases affects with
  | answered concerns yields => exact yields.loads.2
  | apart other => exact absurd rfl (other _ rfl)

theorem published_of_affects {published : Status}
    (affects : Affects key status (.store (.publishStatus key published)) (.ok ()) status') :
    status' = statusAfter status (.publishStatus key published) := by
  cases affects with
  | answered concerns yields => exact (yields.leaves concerns).2 () rfl
  | apart other => exact absurd rfl (other _ rfl)

theorem look_keeps {systemId : String} {rest : Transcript}
    (follows : (keeping key).Follows status (look key systemId machine saved clock ++ rest) status') :
    Loaded key status saved ∧ (keeping key).Follows status rest status' := by
  obtain ⟨before, looks, follows'⟩ := Protocol.follows_append.mp follows
  obtain rfl : before = status := by
    refine looks.eq_of_leads_eq fun exchange mem s affects => ?_
    simp only [look, List.mem_cons, List.not_mem_nil, or_false] at mem
    obtain rfl | rfl | rfl | rfl := mem <;> exact eq_of_affects id affects
  obtain ⟨_, affects, -⟩ := looks
  exact ⟨loaded_of_affects affects, follows'⟩

/-- The provider id that is stored is that of the machine, and no zone is stored for a machine without
    one. -/
structure HasIdentity (stored : Status) (machine : Machine) : Prop where
  providerId :
    stored.providerId = some (Store.providerId (machine.zone.map (·.name)) machine.systemId)
  failureDomain : machine.zone = none → stored.failureDomain = none

/-- What is stored after a pass that has derived a status. -/
def identified (stored derived : Status) : Status :=
  { derived with
    instanceId := stored.instanceId
    providerId := stored.providerId
    failureDomain := derived.failureDomain.or stored.failureDomain }

theorem publishedOver_sighting
    (differs : saved.status ≠ some (sighting machine saved clock)) :
    publishedOver stored (sighting machine saved clock) =
      identified stored (sighting machine saved clock) := by
  have time : (sighting machine saved clock).lastReconciled = some clock.pass :=
    Lifecycle.lastReconciled_stamp differs
  generalize derived_eq : sighting machine saved clock = derived at time ⊢
  unfold sighting Lifecycle.observedStatus at derived_eq
  rw [Lifecycle.stamp_eq] at derived_eq
  subst derived_eq
  simp only at time
  simp [publishedOver, identified, time]

theorem identifies_identified_iff {providerId : String} {derived : Status} {seen : Instance}
    (derives : Lifecycle.Identifies derived seen providerId) :
    Lifecycle.Identifies (identified stored derived) seen providerId ↔
      stored.instanceId = some seen.systemId ∧ stored.providerId = some providerId ∧
        (seen.zone = none → stored.failureDomain = none) := by
  have zone : (identified stored derived).failureDomain = seen.zone ↔
      (seen.zone = none → stored.failureDomain = none) := by
    rw [← or_eq_left_iff, ← derives.failureDomain]
    rfl
  exact ⟨fun ⟨named, provider, same⟩ => ⟨named, provider, zone.mp same⟩,
    fun ⟨named, provider, same⟩ => ⟨named, provider, zone.mpr same⟩⟩

/-- What was stored by a pass is derived again exactly when it has the identity of the machine. -/
theorem sighting_again_iff {saved' : Saved} {clock' : ClockReadings}
    (owned : stored.instanceId = some machine.systemId)
    (loads : saved'.status = some (identified stored (sighting machine saved clock))) :
    saved'.status = some (sighting machine saved' clock') ↔ HasIdentity stored machine := by
  unfold sighting at loads ⊢
  rw [loads]
  refine (Lifecycle.observedStatus_again rfl).trans
    ((identifies_identified_iff Lifecycle.identifies_observedStatus).trans ?_)
  have zone : (Instance.ofMachine machine).zone = none ↔ machine.zone = none := by
    simp [Instance.ofMachine]
  rw [zone]
  exact ⟨fun ⟨_, provider, same⟩ => ⟨provider, same⟩,
    fun ⟨provider, same⟩ => ⟨owned, provider, same⟩⟩

/-- A whole pass of the machine, which finds its instance as it is here. -/
structure Visit (key : Key) (machine : Machine) (pass : Attempt)
    (result : Except Failure Action) : Prop where
  ends : Program.Trace (Engine.reconcile pass.options key pass.spec).run pass.transcript result
  keeps : (keeping key).Follows pass.before pass.transcript pass.after
  finds : ∀ reply, ⟨.maas (.getMachine machine.systemId), reply⟩ ∈ pass.transcript →
    reply = .ok machine
  clock : ∀ t, ⟨.clock, t⟩ ∈ pass.transcript → t.IsProper

/-- Whoever reads the status reads this one. -/
def OnlyReadAs (status : Json) (stored : Status) : Prop :=
  ∀ seen, ReadAs status seen → seen = some stored

theorem Visit.revisits (visit : Visit key machine pass result) (settled : IsSettled machine)
    (reads : OnlyReadAs pass.before stored) (owned : stored.instanceId = some machine.systemId) :
    Revisits key machine.systemId machine result pass.transcript := by
  refine Engine.revisits_of_trace settled visit.ends fun before exchange after split => ⟨?_, ?_⟩
  · rintro reply rfl
    exact visit.finds reply (split ▸ List.mem_append_right _ (.head _))
  · rintro rfl saved rfl
    have follows := visit.keeps
    rw [split] at follows
    obtain ⟨_, affects, -⟩ := follows
    have loaded := loaded_of_affects affects
    rw [loaded.checkpoint, reads _ loaded.status]
    exact ⟨_, by rw [Option.bind_some, checkpointOf, owned]; rfl, rfl⟩

/-- What is read after a pass that has succeeded. -/
theorem Visit.reads (visit : Visit key machine pass (.ok action)) (settled : IsSettled machine)
    (reads : OnlyReadAs pass.before stored) (owned : stored.instanceId = some machine.systemId) :
    ∃ saved clock, OnlyReadAs pass.after (identified stored (sighting machine saved clock)) := by
  have revisits := visit.revisits settled reads owned
  obtain ⟨-, keeps, -, proper⟩ := visit
  obtain ⟨options, spec, before, transcript, after⟩ := pass
  dsimp only at *
  cases revisits with
  | @unchanged saved clock _ same =>
      obtain ⟨loaded, _, affects, rfl⟩ := look_keeps keeps
      obtain rfl := eq_of_affects id affects
      obtain rfl : stored = sighting machine saved clock :=
        Option.some.inj ((reads _ loaded.status).symm.trans same)
      refine ⟨saved, clock, fun seen reads' => (reads seen reads').trans ?_⟩
      simp [identified]
  | @published saved clock _ differs =>
      obtain ⟨loaded, _, affects, _, affects', rfl⟩ := look_keeps keeps
      obtain rfl := eq_of_affects id affects'
      obtain rfl := published_of_affects affects
      have same := reads _ loaded.status
      have before' : ReadAs before (some stored) := same ▸ loaded.status
      refine ⟨saved, clock, fun seen reads' => ?_⟩
      rw [← publishedOver_sighting differs]
      refine readAs_published ?_ before' reads'
      refine Lifecycle.isProper_observedStatus ?_ ⟨proper _ ?_, proper _ ?_⟩
      · rw [same]
        rintro _ ⟨⟩
        exact before'.isProper
      · simp [look]
      · simp [look]

/-! An instance is recorded in one zone, and found settled in the same zone or in another one. -/

def recordedIn (zone : String) : Json :=
  statusAfter .null (.recordInstance worker (.new "m1" (some zone) (some "worker-0")))

def storedIn (zone : String) : Status where
  instanceId := some "m1"
  providerId := some (Store.providerId (some zone) "m1")
  failureDomain := some zone
  hostname := some "worker-0"

def settledIn (zone : String) : Machine :=
  { Kubernetes.machine "m1" with
    statusName := "Deployed", powerState := "on", zone := some ⟨1, zone⟩ }

/-- MAAS shows this machine and does nothing. -/
def showingOnly (machine : Machine) : (call : Maas.Call) → call.Reply
  | .getMachine _ => .ok machine
  | _ => .error .transport

def visitIn (zone : String) (status : Json) : Attempt :=
  attempt (showingOnly (settledIn zone)) (fun _ => false) status

/-- How the pass ends. -/
def endIn (zone : String) (status : Json) : Except Failure Action :=
  ((Engine.reconcile {} worker { minCpu := 1, minMemoryMib := 1 }).run.run
    (served (showingOnly (settledIn zone)) fun _ => false) status).1

theorem isSettled_settledIn (zone : String) : IsSettled (settledIn zone) where
  deployed := by
    change Lifecycle.State.ofText "Deployed" = .deployed
    decide +kernel
  poweredOn := by
    change Lifecycle.Power.ofText "on" = .on
    decide +kernel

/-- MAAS shows the machine, and the clock stands still. -/
def ShowsIn (zone : String) (exchange : Program.Exchange Effect Effect.Answer) : Prop :=
  (∀ reply, exchange = ⟨.maas (.getMachine "m1"), reply⟩ → reply = .ok (settledIn zone)) ∧
    ∀ t, exchange = ⟨.clock, t⟩ → t = ⟨0, 0⟩

theorem showsIn_served (zone : String) (effect : Effect) (status : Json) :
    ShowsIn zone
      ⟨effect, (served (showingOnly (settledIn zone)) (fun _ => false) effect status).1⟩ := by
  constructor
  · rintro reply same
    cases same
    rfl
  · rintro t same
    cases same
    rfl

theorem visit_visitIn {zone : String}
    (readable : Readable (showingOnly (settledIn zone)) (fun _ => false) status) :
    Visit worker (settledIn zone) (visitIn zone status) (endIn zone status) := by
  have answers := (Program.exchanges_invariant (fun _ => True) (ShowsIn zone)
    (fun effect status _ => ⟨showsIn_served zone effect status, trivial⟩)
    (Engine.reconcile {} worker { minCpu := 1, minMemoryMib := 1 }).run status trivial).1
  refine ⟨Program.trace_exchanges _ _ _, keeping_served readable, fun reply mem => ?_,
    fun t mem => ?_⟩
  · exact (answers _ mem).1 reply rfl
  · rw [(answers _ mem).2 t rfl]
    decide

theorem legible_recordedIn : Legible (recordedIn "z1")
    { checkpoint := checkpointOf (storedIn "z1"), status := some (storedIn "z1") } := by
  decide +kernel

theorem readAs_recordedIn : ReadAs (recordedIn "z1") (some (storedIn "z1")) :=
  (yields_load readable_worker (gives_showing legible_recordedIn)).loads.2.status

theorem succeeds_recordedIn (zone : String) (mem : zone ∈ ["z1", "z2"]) :
    (endIn zone (recordedIn "z1")).toOption = some (.requeue readyRequeue) := by
  revert zone
  decide +kernel

theorem readable_recordedIn (zone : String) (mem : zone ∈ ["z1", "z2"]) :
    Readable (showingOnly (settledIn zone)) (fun _ => false) (recordedIn "z1") := by
  revert zone
  decide +kernel

theorem readable_again (zone : String) (mem : zone ∈ ["z1", "z2"]) :
    Readable (showingOnly (settledIn zone)) (fun _ => false)
      (visitIn zone (recordedIn "z1")).after := by
  revert zone
  decide +kernel

theorem visit_recordedIn {zone : String} (mem : zone ∈ ["z1", "z2"]) :
    Visit worker (settledIn zone) (visitIn zone (recordedIn "z1")) (.ok (.requeue readyRequeue)) := by
  have visit := visit_visitIn (readable_recordedIn zone mem)
  have succeeds := succeeds_recordedIn zone mem
  cases ends : endIn zone (recordedIn "z1") with
  | error failure =>
      rw [ends] at succeeds
      cases succeeds
  | ok action =>
      rw [ends] at succeeds visit
      cases succeeds
      exact visit

/-- Of two whole passes that find the machine settled and the first of which succeeds, the second one
    writes the status exactly when it loads the object and the identity that was stored is not that of
    the machine. -/
theorem settled_is_rewritten_iff (settled : IsSettled machine)
    (reads : ReadAs first.before (some stored)) (owned : stored.instanceId = some machine.systemId)
    (visit : Visit key machine first (.ok action)) (visit' : Visit key machine second result)
    (next : second.before = first.after) :
    (∃ exchange ∈ second.transcript, WritesStatus exchange.1) ↔
      (∃ saved, ⟨.store (.load key), .ok saved⟩ ∈ second.transcript) ∧
        ¬HasIdentity stored machine := by
  obtain ⟨saved, clock, reads'⟩ :=
    visit.reads settled (fun seen other => other.unique reads) owned
  rw [← next] at reads'
  have revisits := visit'.revisits settled reads' owned
  obtain ⟨-, keeps, -, -⟩ := visit'
  obtain ⟨options, spec, before, transcript, after⟩ := second
  dsimp only at *
  cases revisits with
  | unloaded fault => simp [WritesStatus]
  | @unchanged saved' clock' action' same =>
      obtain ⟨loaded, -⟩ := look_keeps keeps
      have identity := (sighting_again_iff owned (reads' _ loaded.status)).mp same
      simp [WritesStatus, look, identity]
  | @published saved' clock' action' differs =>
      obtain ⟨loaded, -⟩ := look_keeps keeps
      have identity := (sighting_again_iff owned (reads' _ loaded.status)).not.mp differs
      simp [WritesStatus, look, identity]
  | @unpublished saved' clock' fault differs =>
      obtain ⟨loaded, -⟩ := look_keeps keeps
      have identity := (sighting_again_iff owned (reads' _ loaded.status)).not.mp differs
      simp [WritesStatus, look, identity]

theorem settled_is_rewritten_iff_stays :
    let first := visitIn "z1" (recordedIn "z1")
    let second := visitIn "z1" first.after
    IsSettled (settledIn "z1") ∧ ReadAs first.before (some (storedIn "z1")) ∧
      Visit worker (settledIn "z1") first (.ok (.requeue readyRequeue)) ∧
      Visit worker (settledIn "z1") second (endIn "z1" first.after) ∧
      ∀ exchange ∈ second.transcript, ¬WritesStatus exchange.1 := by
  intro first second
  have visit : Visit worker (settledIn "z1") first (.ok (.requeue readyRequeue)) :=
    visit_recordedIn (by decide)
  have visit' : Visit worker (settledIn "z1") second (endIn "z1" first.after) :=
    visit_visitIn (readable_again "z1" (by decide))
  have settled := isSettled_settledIn "z1"
  refine ⟨settled, readAs_recordedIn, visit, visit', fun exchange mem writes => ?_⟩
  have rewritten := settled_is_rewritten_iff settled readAs_recordedIn rfl visit visit' rfl
  exact (rewritten.mp ⟨exchange, mem, writes⟩).2 ⟨rfl, nofun⟩

/-- The status of a machine that has moved to another zone is written again. -/
theorem settled_is_rewritten_moved :
    ¬∀ (key : Key) (machine : Machine) (first second : Attempt) (stored : Status) (action : Action)
      (result : Except Failure Action),
      IsSettled machine → ReadAs first.before (some stored) →
      stored.instanceId = some machine.systemId → Visit key machine first (.ok action) →
      Visit key machine second result → second.before = first.after →
      ∀ exchange ∈ second.transcript, ¬WritesStatus exchange.1 := by
  intro claim
  have quiet := claim worker (settledIn "z2") (visitIn "z2" (recordedIn "z1"))
    (visitIn "z2" (visitIn "z2" (recordedIn "z1")).after) (storedIn "z1") _ _
    (isSettled_settledIn "z2") readAs_recordedIn rfl (visit_recordedIn (by decide))
    (visit_visitIn (readable_again "z2" (by decide))) rfl
  revert quiet
  decide +kernel

end MachineProvisioning.Store.Kubernetes
