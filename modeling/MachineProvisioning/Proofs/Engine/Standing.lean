import MachineProvisioning.Proofs.Engine.Intake
import MachineProvisioning.Proofs.Engine.Runs

/-! # Which instance is ready

A stored status names an instance and says whether it is ready. The name is written with the checkpoint
and readiness when a status is published, so a pass that is stopped in between leaves the name of one
time with the readiness of another. What a pass makes ready, it has seen; what was ready before stays
ready for whichever instance is named next.
-/

namespace MachineProvisioning.Engine

open Program (Exchange)
open Resource (Key Spec Status)
open Lifecycle (Instance)
open Store (Checkpoint Saved)

/-- The instance that a stored status names, and whether the status is ready. -/
structure Standing where
  named : Option String
  ready : Bool

namespace Standing

/-- The standing after a write that is made. -/
def after (key : Key) (standing : Standing) : Effect → Standing
  | .store (.recordInstance k checkpoint) =>
      if k = key then { standing with named := some checkpoint.instanceId } else standing
  | .store (.clearInstance k) => if k = key then { standing with named := none } else standing
  | .store (.publishStatus k status) =>
      if k = key then { standing with ready := status.ready } else standing
  | _ => standing

/-- This is what a pass loads. -/
structure Shows (standing : Standing) (saved : Saved) : Prop where
  checkpoint : saved.checkpoint.map (·.instanceId) = standing.named
  ready : (saved.status.getD {}).ready = standing.ready

/-- What is ready is an instance of which this holds. -/
def Sound (observed : String → Prop) (standing : Standing) : Prop :=
  ∀ x, standing.named = some x → standing.ready = true → observed x

end Standing

/-- What is stored of a machine. Loads and answers about a machine are truthful, and a write may be made
    or not. -/
def publishing (key : Key) (good : Standing → Prop) : Discipline Standing where
  allows standing _ := good standing
  leads standing effect answer standing' :=
    (standing' = standing ∨ standing' = standing.after key effect) ∧
      (∀ saved, (⟨effect, answer⟩ : Exchange Effect Effect.Answer) =
        ⟨.store (.load key), .ok saved⟩ → standing.Shows saved) ∧
      ∀ x, Carries x effect answer

/-- The instance is named, or none is, and readiness is that of the start. -/
structure Standing.Names (start : Standing) (systemId : String) (standing : Standing) : Prop where
  ready : standing.ready = start.ready
  named : standing.named = none ∨ standing.named = some systemId

variable {key : Key} {spec : Spec} {hostname x : String} {good invariant : Standing → Prop}
  {start standing : Standing}

theorem after_of_routine {effect : Effect} (routine : Routine effect ∨ ∃ event, effect = .count event) :
    standing.after key effect = standing ∨
      standing.after key effect = { standing with named := none } := by
  cases effect with
  | store call =>
      cases call with
      | clearInstance k =>
          simp only [Standing.after]
          split
          · exact .inr rfl
          · exact .inl rfl
      | recordInstance | publishStatus => simp [Routine, Surveys, Tends, Recovers] at routine
      | _ => exact .inl rfl
  | _ => exact .inl rfl

/-- The invariant holds in states that are good, and whatever is named it does not depend on that. -/
structure Clears (good invariant : Standing → Prop) : Prop where
  good : ∀ standing, invariant standing → good standing
  clears : ∀ standing, invariant standing → invariant { standing with named := none }

theorem Clears.tolerates (clears : Clears good invariant) :
    (publishing key good).Tolerates invariant
      fun effect => Routine effect ∨ ∃ event, effect = .count event := by
  intro standing effect kept routine
  refine ⟨clears.good standing kept, ?_⟩
  rintro answer standing' ⟨either, -⟩
  obtain rfl | rfl := either
  · exact kept
  · obtain same | same : standing.after key effect = standing ∨
        standing.after key effect = { standing with named := none } := after_of_routine routine
    · rwa [same]
    · rw [same]
      exact clears.clears standing kept

theorem Clears.routine (clears : Clears good invariant) :
    (publishing key good).Tolerates invariant Routine :=
  clears.tolerates.mono fun _ => .inl

theorem Clears.counts (clears : Clears good invariant) : Counts (publishing key good) invariant :=
  clears.tolerates.mono fun _ => .inr

/-- A call of MAAS leaves what is stored. -/
theorem publishing_maas {call : Maas.Call} {reply : call.Reply} {standing' : Standing}
    (leads : (publishing key good).leads standing (.maas call) reply standing') :
    standing' = standing ∧ ∀ x, Carries x (.maas call) reply :=
  ⟨leads.1.elim id id, leads.2.2⟩

variable {err : Failure → Standing → Prop}

section

variable (clears : Clears good invariant)
  (fails : ∀ failure standing, invariant standing → err failure standing)

include clears fails

theorem publishing_sustains :
    Sustains (publishing key good) invariant key (· = x) hostname err where
  tends y _ := clears.routine.mono fun _ h => .inr (.inl ⟨y, _, h⟩)
  fails failure standing _ := fails failure standing
  reallocates y standing _ kept := clears.good standing kept
  reallocated := by
    rintro y standing machine standing' rfl kept leads
    obtain ⟨rfl, carries⟩ := publishing_maas leads
    exact ⟨carries y rfl, kept⟩
  deployed := by
    rintro y params standing machine standing' rfl _ leads
    exact (publishing_maas leads).2 y rfl
  poweredOn := by
    rintro y standing machine standing' rfl _ leads
    exact (publishing_maas leads).2 y rfl
  recovers := by
    rintro y call error standing standing' - kept - leads context α ok
    obtain ⟨rfl, -⟩ := publishing_maas leads
    exact routine_failWith clears.routine fails kept

theorem publishing_resumes (kept : invariant standing) :
    Resumes (publishing key good) invariant key (· = x) x err standing where
  allowed := clears.good standing kept
  seen := by
    intro machine standing' leads
    obtain ⟨rfl, carries⟩ := publishing_maas leads
    exact ⟨carries x rfl, kept⟩
  broken := by
    intro machine standing' leads _ hostId ok
    obtain ⟨rfl, -⟩ := publishing_maas leads
    exact routine_recoverBroken clears.routine fails _ hostId kept
  failed := by
    intro machine standing' leads _
    obtain ⟨rfl, -⟩ := publishing_maas leads
    exact routine_release clears.routine fails _ kept
  gone := by
    intro text standing' leads
    obtain ⟨rfl, -⟩ := publishing_maas leads
    have asks : (Pass.store (.clearInstance key)).Asks Routine :=
      Pass.asks_store (.inr (.inr ⟨key, x, rfl⟩))
    exact (asks.ensures clears.routine kept).mono
      (fun _ _ kept failure _ => fails failure _ kept) fails
  refused := by
    intro error standing' leads failure _
    obtain ⟨rfl, -⟩ := publishing_maas leads
    exact fails failure standing' kept

end

/-- Nothing is named, and readiness is that of the start. -/
def Standing.Vacant (start standing : Standing) : Prop :=
  standing.named = none ∧ standing.ready = start.ready

/-- Readiness is that of the start. -/
def Standing.Steady (start standing : Standing) : Prop := standing.ready = start.ready

theorem clears_vacant : Clears start.Steady start.Vacant where
  good _ vacant := vacant.2
  clears _ vacant := ⟨rfl, vacant.2⟩

theorem clears_names : Clears start.Steady (start.Names x) where
  good _ names := names.ready
  clears _ names := ⟨names.ready, .inl rfl⟩

theorem Standing.Vacant.recorded {checkpoint : Checkpoint} (vacant : start.Vacant standing)
    (named : checkpoint.instanceId = x) {standing' : Standing}
    (either : standing' = standing ∨
      standing' = standing.after key (.store (.recordInstance key checkpoint))) :
    start.Names x standing' := by
  subst named
  obtain rfl | rfl := either
  · exact ⟨vacant.2, .inl vacant.1⟩
  · simp only [Standing.after, if_true]
    exact ⟨vacant.2, .inr rfl⟩

theorem publishing_acquires :
    Acquires (publishing key start.Steady) start.Vacant (fun _ => start.Vacant) start.Names key
      fun _ => start.Steady where
  surveys := clears_vacant.routine.mono fun _ => .inl
  fails _ _ _ vacant := vacant.2
  unannotated := by
    rintro name value standing fault standing' vacant ⟨either, -⟩
    obtain rfl | rfl := either <;> exact vacant.2
  records _ _ _ vacant _ := vacant.2
  recorded := by
    rintro y standing checkpoint standing' vacant named ⟨either, -⟩
    exact vacant.recorded named either
  counts _ := clears_names.counts

theorem publishing_allocates :
    Allocates (publishing key start.Steady) start.Vacant (fun _ => start.Vacant) (fun _ => True) key
      spec fun _ => start.Steady where
  allowed _ vacant := vacant.2
  allocated := by
    intro standing machine standing' vacant leads
    obtain ⟨rfl, -⟩ := publishing_maas leads
    exact ⟨trivial, vacant⟩
  refused := by
    intro standing error standing' vacant leads
    obtain ⟨rfl, -⟩ := publishing_maas leads
    exact ⟨fun _ _ => vacant.2, fun context ok =>
      routine_failWith clears_vacant.routine (fun _ _ vacant => vacant.2) vacant⟩
  unrecorded := by
    rintro y standing checkpoint fault standing' vacant named ⟨either, -⟩
    have names : start.Names y standing' := vacant.recorded named either
    refine ⟨names.ready, fun reply standing'' leads => ?_⟩
    obtain ⟨rfl, -⟩ := publishing_maas leads
    exact names.ready

theorem publishing_composes :
    Composes (publishing key start.Steady) start.Vacant (fun _ => start.Vacant) key spec
      fun _ => start.Steady := by
  refine Composes.of_unmoved (fun _ _ vacant => vacant.2) ?_ ?_ ?_
  · intro call reply standing standing' vacant leads
    obtain ⟨rfl, -⟩ := publishing_maas leads
    exact vacant
  · exact fun error standing vacant context ok =>
      routine_failWith clears_vacant.routine (fun _ _ vacant => vacant.2) vacant
  · rintro standing checkpoint fault standing' vacant ⟨either, -⟩
    exact (vacant.recorded rfl either).ready

theorem publishing_continues :
    Continues (publishing key start.Steady) start.Names (fun x y => y = x) key hostname
      fun _ => start.Steady where
  sustains x := publishing_sustains clears_names fun _ _ names => names.ready
  known _ := rfl
  looks _ _ names := names.ready
  seen := by
    intro y standing machine standing' names leads
    obtain ⟨rfl, carries⟩ := publishing_maas leads
    exact ⟨carries y rfl, names⟩
  unseen := by
    intro y standing error standing' names leads failure _
    obtain ⟨rfl, -⟩ := publishing_maas leads
    exact names.ready
  broken _ y _ _ names hostId _ :=
    routine_recoverBroken clears_names.routine (fun _ _ names => names.ready) y hostId names
  failed _ y _ _ names :=
    routine_release clears_names.routine (fun _ _ names => names.ready) y names

/-- A pass that starts with nothing named leaves readiness, and names what it has seen or nothing. -/
theorem publishing_take (options : Options) (key : Key) (spec : Spec) {saved : Saved}
    (nothing : saved.checkpoint = none) (vacant : start.Vacant standing) :
    (provisionFrom options key spec saved).Ensures (publishing key start.Steady)
      (fun seen => start.Names seen.systemId) (fun _ => start.Steady) standing := by
  refine (provisionFrom_ensures publishing_acquires (fun _ => publishing_allocates)
    (fun _ => publishing_composes) publishing_continues nothing vacant).mono ?_ fun _ _ => id
  rintro seen standing ⟨x, same, names⟩
  exact same ▸ names

/-- A pass that starts with this instance named leaves readiness, names it or nothing, and sees no
    other one. -/
theorem publishing_resume (options : Options) (key : Key) (spec : Spec) {saved : Saved}
    {checkpoint : Checkpoint} (recorded : saved.checkpoint = some checkpoint)
    (names : start.Names checkpoint.instanceId standing) :
    (provisionFrom options key spec saved).Ensures
      (publishing key (start.Names checkpoint.instanceId))
      (fun seen standing => seen.systemId = checkpoint.instanceId ∧
        start.Names checkpoint.instanceId standing)
      (fun _ => start.Names checkpoint.instanceId) standing := by
  have clears : Clears (start.Names checkpoint.instanceId) (start.Names checkpoint.instanceId) :=
    ⟨fun _ => id, clears_names.clears⟩
  unfold provisionFrom
  rw [recorded]
  exact (publishing_sustains clears fun _ _ => id).resume options rfl
    (publishing_resumes clears (fun _ _ => id) names)

/-- What is asked for at the end of a pass: a status of this readiness may be published. -/
def Publishes (key : Key) (ready : Bool) : Effect → Prop
  | .store (.publishStatus k status) => k = key ∧ status.ready = ready
  | .clock | .count _ => True
  | _ => False

/-- The name is still this one's, and readiness is either this one's or the published one. -/
structure Standing.Settles (before : Standing) (ready : Bool) (standing : Standing) : Prop where
  named : standing.named = before.named
  ready : standing.ready = before.ready ∨ standing.ready = ready

theorem publishing_settles {before : Standing} {ready : Bool} :
    (publishing key fun _ => True).Tolerates (before.Settles ready) (Publishes key ready) := by
  intro standing effect settles publishes
  refine ⟨trivial, ?_⟩
  rintro answer standing' ⟨rfl | rfl, -⟩
  · exact settles
  · unfold Publishes at publishes
    split at publishes
    · obtain ⟨rfl, rfl⟩ := publishes
      simp only [Standing.after, if_true]
      exact ⟨settles.named, .inr rfl⟩
    · exact settles
    · exact settles
    · cases publishes

variable {previous : Option Status}

theorem asks_publishChange (status : Status) :
    (publishChange key previous status).Asks (Publishes key status.ready) := by
  unfold publishChange
  split
  · exact Pass.asks_pure ()
  · exact Pass.asks_store ⟨rfl, rfl⟩

theorem asks_clock {ready : Bool} : Pass.clock.Asks (Publishes key ready) := by
  have now : Pass.Asks (Publishes key ready) (ExceptT.lift Procedure.now) :=
    Pass.asks_lift (Program.asks_request trivial)
  exact now.bind fun _ => now.bind fun _ => Pass.asks_pure _

theorem ready_stamp (clock : Lifecycle.ClockReadings) (status : Status) :
    (Lifecycle.stamp previous clock status).ready = status.ready := by
  unfold Lifecycle.stamp
  extract_lets kept
  split <;> rfl

theorem asks_concludeSeen (seen : Instance) :
    (concludeSeen key previous seen).Asks (Publishes key (Lifecycle.isReady previous seen)) := by
  refine asks_clock.bind fun clock => ?_
  have ready : (Lifecycle.observedStatus previous clock seen
      (Store.providerId seen.zone seen.systemId)).ready = Lifecycle.isReady previous seen :=
    ready_stamp clock _
  refine (ready ▸ asks_publishChange _).bind fun _ => ?_
  exact (Pass.asks_count trivial).bind fun _ => Pass.asks_pure _

/-- The readiness that is published after a failure: it is kept unless the instance is gone. -/
def readyAfter (failure : Failure) (previous : Option Status) : Bool :=
  !failure.released && (previous.getD {}).ready

theorem ready_failureStatus (clock : Lifecycle.ClockReadings) (failure : Failure) :
    (Lifecycle.failureStatus previous clock failure).ready = readyAfter failure previous := by
  unfold Lifecycle.failureStatus readyAfter
  extract_lets before kept
  refine (ready_stamp clock _).trans ?_
  change kept.ready = _
  unfold kept
  split <;> simp_all [Lifecycle.forgetInstance, before]

theorem asks_concludeFailed {α : Type} (failure : Failure) :
    (concludeFailed key previous failure : Pass α).Asks
      (Publishes key (readyAfter failure previous)) := by
  refine (Pass.asks_count trivial).bind fun _ => asks_clock.bind fun clock => ?_
  have publishes : (publishChange key previous (Lifecycle.failureStatus previous clock failure)).Asks
      (Publishes key (readyAfter failure previous)) := by
    rw [← ready_failureStatus clock failure]
    exact asks_publishChange _
  exact (publishes.tryCatch fun _ => Pass.asks_pure ()).bind fun _ => Pass.asks_throw failure

/-! ## A reconciliation -/

/-- What can be stored while nothing is published: readiness is kept, and an instance that was named
    is named or nothing is. -/
structure Standing.Under (start standing : Standing) : Prop where
  ready : standing.ready = start.ready
  named : ∀ x, start.named = some x → standing.named = none ∨ standing.named = some x

variable {options : Options} {saved : Saved} {transcript : Transcript} {last : Standing}
  {observed : String → Prop}

/-- What is named is what the checkpoint names. -/
theorem Standing.Shows.recorded (shows' : start.Shows saved) {y : String}
    (named : start.named = some y) :
    ∃ checkpoint, saved.checkpoint = some checkpoint ∧ checkpoint.instanceId = y :=
  Option.map_eq_some_iff.mp (shows'.checkpoint.trans named)

theorem Standing.Shows.unrecorded (shows' : start.Shows saved) (nothing : start.named = none) :
    saved.checkpoint = none :=
  Option.map_eq_none_iff.mp (shows'.checkpoint.trans nothing)

/-- The pass has seen what is named, if anything is, and what was named before. -/
structure Standing.Sees (start : Standing) (seen : Instance) (standing : Standing) : Prop where
  under : start.Under standing
  named : standing.named = none ∨ standing.named = some seen.systemId
  same : ∀ x, start.named = some x → seen.systemId = x

theorem publishing_permits {good good' : Standing → Prop} {α : Type} {p : Pass α}
    {ok : α → Standing → Prop} {err : Failure → Standing → Prop}
    (ensures : p.Ensures (publishing key good) ok err start)
    (wider : ∀ standing, good standing → good' standing) :
    p.Ensures (publishing key good') ok err start :=
  ensures.permit (fun standing _ => wider standing) fun _ _ _ _ => id

theorem publishing_provisionFrom (shows' : start.Shows saved) :
    (provisionFrom options key spec saved).Ensures (publishing key start.Under) start.Sees
      (fun _ => start.Under) start := by
  -- With nothing named the pass takes an instance, and otherwise it resumes the named one.
  cases owner : start.named with
  | none =>
      have under : ∀ standing, start.Steady standing → start.Under standing :=
        fun standing steady => ⟨steady, fun x named => by simp [owner] at named⟩
      have takes := publishing_take options key spec (shows'.unrecorded owner) ⟨owner, rfl⟩
      refine (publishing_permits takes under).mono (fun seen standing names => ?_) fun _ => under
      exact ⟨under standing names.ready, names.named, fun x named => by simp [owner] at named⟩
  | some x =>
      obtain ⟨checkpoint, recorded, rfl⟩ := shows'.recorded owner
      have under : ∀ standing, start.Names checkpoint.instanceId standing → start.Under standing := by
        intro standing names
        refine ⟨names.ready, fun x named => ?_⟩
        obtain rfl := Option.some.inj (owner.symm.trans named)
        exact names.named
      have resumes := publishing_resume options key spec recorded ⟨rfl, .inr owner⟩
      refine (publishing_permits resumes under).mono ?_ fun _ => under
      rintro seen standing ⟨same, names⟩
      exact ⟨under standing names, same.symm ▸ names.named,
        fun x named => same.trans (Option.some.inj (owner.symm.trans named))⟩

theorem under_of_provisionFrom (shows' : start.Shows saved)
    (part : Program.Part (provisionFrom options key spec saved).run transcript)
    (follows : (publishing key fun _ => True).Follows start transcript last) : start.Under last := by
  obtain ⟨_, under⟩ | ⟨result, ends⟩ :=
    (publishing_provisionFrom shows').stop part (follows.view id fun _ _ _ _ => id)
  · exact under
  · cases result with
    | ok seen => exact ends.under
    | error failure => exact ends

theorem sees_of_provisionFrom {seen : Instance} (shows' : start.Shows saved)
    (trace : Program.Trace (provisionFrom options key spec saved).run transcript (.ok seen))
    (follows : (publishing key fun _ => True).Follows start transcript last) :
    start.Sees seen last :=
  (publishing_provisionFrom shows').follow trace (follows.view id fun _ _ _ _ => id)

/-- The instance is deployed or on the way to it, and has an address. -/
def IsUp (seen : Instance) : Prop :=
  (seen.state = .deploying ∨ seen.state = .deployed) ∧ seen.addresses ≠ []

theorem isUp_of_isReady {seen : Instance} (ready : Lifecycle.isReady previous seen = true) :
    (previous.getD {}).ready = true ∨ IsUp seen := by
  simp only [Lifecycle.isReady, Bool.or_eq_true] at ready
  obtain sticky | up := ready
  · left
    cases previous with
    | none => cases sticky
    | some status => simp_all
  · right
    rw [Bool.and_eq_true] at up
    refine ⟨?_, by simpa using up.2⟩
    cases state : seen.state <;> simp_all

/-- The pass has seen this instance up. -/
def Observes (options : Options) (key : Key) (spec : Spec) (systemId : String)
    (transcript : Transcript) : Prop :=
  ∃ first rest seen, transcript = first ++ rest ∧
    Program.Trace (provision options key spec).run first (.ok seen) ∧
    seen.systemId = systemId ∧ IsUp seen

instance (seen : Instance) : Decidable (IsUp seen) := inferInstanceAs (Decidable (_ ∧ _))

theorem observes_iff {systemId : String} :
    Observes options key spec systemId transcript ↔
      ∃ result ∈ (provision options key spec).run.replay transcript,
        ∃ seen ∈ result.toOption, seen.systemId = systemId ∧ IsUp seen := by
  constructor
  · rintro ⟨first, rest, seen, same, trace, isUp⟩
    exact ⟨.ok seen, Program.replay_eq_some_iff.mpr ⟨first, rest, same, trace⟩, seen, rfl, isUp⟩
  · rintro ⟨result, replays, seen, ends, isUp⟩
    obtain ⟨first, rest, same, trace⟩ := Program.replay_eq_some_iff.mp replays
    cases result with
    | ok other =>
        cases ends
        exact ⟨first, rest, seen, same, trace, isUp⟩
    | error failure => cases ends

instance {systemId : String} : Decidable (Observes options key spec systemId transcript) :=
  decidable_of_iff _ observes_iff.symm

theorem Standing.Sound.under (sound : start.Sound observed)
    (owned : start.ready = true → start.named ≠ none) (under : start.Under last) :
    last.Sound observed := by
  intro x named ready
  rw [under.ready] at ready
  obtain ⟨y, owner⟩ := Option.ne_none_iff_exists'.mp (owned ready)
  obtain nothing | same := under.named y owner
  · simp [nothing] at named
  · obtain rfl := Option.some.inj (same.symm.trans named)
    exact sound _ owner ready

/-- The request writes nothing. -/
def Inert (key : Key) (effect : Effect) : Prop :=
  ∀ standing : Standing, standing.after key effect = standing

theorem publishing_inert : (publishing key fun _ => True).Tolerates (· = start) (Inert key) := by
  rintro _ effect rfl inert
  refine ⟨trivial, ?_⟩
  rintro answer standing' ⟨either, -⟩
  rw [inert] at either
  exact either.elim id id

theorem sound_of_concludeSeen {seen : Instance} {before : Standing}
    (sound : start.Sound observed) (owned : start.ready = true → start.named ≠ none)
    (shows' : start.Shows saved) (sees : start.Sees seen before)
    (up : IsUp seen → observed seen.systemId)
    (part : Program.Part (concludeSeen key saved.status seen).run transcript)
    (follows : (publishing key fun _ => True).Follows before transcript last) :
    last.Sound observed := by
  have settles := (asks_concludeSeen seen).stop publishing_settles ⟨rfl, .inl rfl⟩ part follows
  intro x named' ready
  rw [settles.named] at named'
  obtain rfl : seen.systemId = x := by
    obtain nothing | some := sees.named
    · simp [nothing] at named'
    · exact Option.some.inj (some.symm.trans named')
  -- What was ready before the pass was the instance that the pass has seen.
  have before' : start.ready = true → observed seen.systemId := by
    intro ready
    obtain ⟨y, owner⟩ := Option.ne_none_iff_exists'.mp (owned ready)
    rw [sees.same y owner]
    exact sound y owner ready
  obtain kept | published := settles.ready
  · exact before' (by rw [← sees.under.ready, ← kept, ready])
  · obtain sticky | isUp := isUp_of_isReady (published.symm.trans ready)
    · exact before' (shows'.ready ▸ sticky)
    · exact up isUp

theorem sound_of_concludeFailed {failure : Failure} {before : Standing} {α : Type}
    (sound : start.Sound observed) (owned : start.ready = true → start.named ≠ none)
    (shows' : start.Shows saved) (under : start.Under before)
    (part : Program.Part (concludeFailed key saved.status failure : Pass α).run transcript)
    (follows : (publishing key fun _ => True).Follows before transcript last) :
    last.Sound observed := by
  have settles := (asks_concludeFailed failure).stop publishing_settles ⟨rfl, .inl rfl⟩ part follows
  have sound' := sound.under owned under
  intro x named ready
  rw [settles.named] at named
  obtain kept | published := settles.ready
  · exact sound' x named (kept.symm.trans ready)
  · have lasting : (saved.status.getD {}).ready = true := by
      have published := published.symm.trans ready
      simp only [readyAfter, Bool.and_eq_true] at published
      exact published.2
    exact sound' x named (by rw [under.ready, ← shows'.ready, lasting])

/-- A reconciliation that does not start from a status that is ready and names nothing makes no
    instance ready but one that it has seen up. -/
theorem sound_of_reconcile (sound : start.Sound observed)
    (owned : start.ready = true → start.named ≠ none)
    (part : Program.Part (reconcile options key spec).run transcript)
    (follows : (publishing key fun _ => True).Follows start transcript last) :
    last.Sound fun x => observed x ∨ Observes options key spec x transcript := by
  have still : start.Sound fun x => observed x ∨ Observes options key spec x transcript :=
    fun x named ready => .inl (sound x named ready)
  have inert : (publishing key fun _ => True).Tolerates (· = start) (Inert key) := publishing_inert
  have asks : Program.Asks (Inert key) (Procedure.store (.load key)) :=
    Program.asks_request fun _ => rfl
  rw [reconcile, Pass.tryStore, ExceptT.run_bind_lift] at part
  obtain unloaded | ⟨loading, rest, reply, rfl, loads, goesOn⟩ := part.of_bind
  · rwa [asks.stop inert rfl unloaded follows]
  obtain ⟨loaded, opens, after⟩ := Protocol.follows_append.mp follows
  have same := asks.stop inert rfl loads.part opens
  subst same
  cases loads with
  | ask reply done =>
  cases done
  cases reply with
  | error fault =>
      have counts : Pass.Asks (Inert key)
          (do Pass.count (.reconciled (outcomeOf fault)); throw fault : Pass Action) :=
        Pass.Asks.bind (Pass.asks_count fun _ => rfl) fun _ => Pass.asks_throw fault
      rwa [counts.stop inert rfl goesOn after]
  | ok saved =>
      obtain ⟨_, leads, -⟩ := opens
      have shows' := leads.2.1 saved rfl
      simp only [ExceptT.run_bind_lift] at goesOn
      -- The pass is stopped while it provisions, or it concludes from what it has seen or met.
      obtain stopped | ⟨first, rest, result, rfl, provisions, concludes⟩ := goesOn.of_bind
      · exact still.under owned (under_of_provisionFrom shows' stopped after)
      obtain ⟨before, takes, ends⟩ := Protocol.follows_append.mp after
      cases result with
      | ok seen =>
          have sees := sees_of_provisionFrom shows' provisions takes
          refine sound_of_concludeSeen still owned shows' sees (fun isUp => ?_) concludes ends
          have trace : Program.Trace (provision options key spec).run
              (⟨.store (.load key), .ok saved⟩ :: first) (.ok seen) := by
            refine .ask _ ?_
            exact provisions
          exact .inr ⟨_, rest, seen, rfl, trace, rfl, isUp⟩
      | error failure =>
          have under := under_of_provisionFrom shows' provisions.part takes
          exact sound_of_concludeFailed still owned shows' under concludes ends

end MachineProvisioning.Engine
