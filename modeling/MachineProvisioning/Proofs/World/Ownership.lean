import MachineProvisioning.Proofs.Region.Allocation
import MachineProvisioning.Proofs.World.Sharing

/-! # What keeps a recorded machine from others

Only machines that are ready are allocated, so a recorded machine is safe from other physical ones while it
is not ready. A world is guarded when that holds of all that is recorded and nothing is shared. Under
faithful answers a task leaves a guarded world guarded, unless it adopts a machine that is ready or
recorded: what else it records is not ready, and what it releases it forgets.
-/

namespace MachineProvisioning

open Program (Exchange)
open Resource (Key Spec)
open Store (Checkpoint Saved)
open Maas (Machine)
open Region (IsReady)
open Engine

namespace World

/-- Nothing is shared, and nothing that is recorded is ready but what is `loose`. -/
structure Guarded (loose : Option String) (world : World) : Prop where
  lawful : world.region.Lawful
  unshared : Unshared world.memory.checkpoint?
  busy : ∀ x, world.Claimed x → IsReady x world.region → loose = some x

/-- Another declared machine has the instance recorded. -/
def Foreign (world : World) (key : Key) (x : String) : Prop :=
  ∃ other checkpoint, other ≠ key ∧ world.memory.checkpoint? other = some checkpoint ∧
    checkpoint.instanceId = x

/-- The record can be read and cleared, and MAAS calls no machine broken that another declared machine has
    recorded. -/
structure Faithful (start : World) (key : Key) (exchange : Exchange Effect Effect.Answer) : Prop where
  loads : ∀ fault, exchange ≠ ⟨.store (.load key), .error fault⟩
  clears : ∀ fault, exchange ≠ ⟨.store (.clearInstance key), .error fault⟩
  blames : ∀ call x hostId text,
    exchange = ⟨.maas call, .error (.brokenMachine (some x) hostId text)⟩ → Breaks call →
      ¬start.Foreign key x

/-- A virtual machine comes by an instance whose state or record does not keep others from it: it adopts one
    that is ready or recorded, or is composed under an id that is recorded. -/
inductive Endangers (start : World) (key : Key) (spec : Spec) (x : String) : Prop where
  | adopted (machine : Machine) (adopts : Adopts start key spec x machine)
      (available : machine.statusName = "Ready" ∨ start.Claimed x)
  | composed (virtual : spec.mode = .virtualized) (next : x = Region.composedId start.region.nextId)
      (claimed : start.Claimed x)

/-- What the answers to a task are taken to be that starts in this world. -/
structure Fair (start : World) (key : Key) (spec? : Option Spec)
    (exchange : Exchange Effect Effect.Answer) : Prop where
  faithful : Faithful start key exchange
  safe : ∀ checkpoint, exchange = ⟨.store (.recordInstance key checkpoint), .ok ()⟩ →
    ∀ spec ∈ spec?, ¬Endangers start key spec checkpoint.instanceId

/-- A world that answers fairly. -/
def fairly (start : World) (key : Key) (spec? : Option Spec) : Discipline World :=
  .answering World.answer (Fair start key spec?)

/-- The world is guarded, and what other declared machines have recorded is what they had at the start. -/
structure Guards (start : World) (key : Key) (loose : Option String) (world : World) : Prop where
  guarded : world.Guarded loose
  others : ∀ other ≠ key, world.memory.checkpoint? other = start.memory.checkpoint? other

/-- Nothing is released and nothing is written. -/
def Quiet : (effect : Effect) → effect.Answer → Prop
  | .maas (.release _ _), .ok _ => False
  | .store (.recordInstance _ _), .ok _ => False
  | .store (.clearInstance _), .ok _ => False
  | _, _ => True

/-- Whatever is answered, nothing is released and nothing is written. -/
def Gentle (effect : Effect) : Prop := ∀ reply, Quiet effect reply

variable {start world after : World} {key : Key} {spec : Spec} {spec? : Option Spec}
  {loose : Option String} {x : String} {effect : Effect} {reply : effect.Answer}
  {options : Options}

theorem Gentle.of_surveys (surveys : Surveys effect) : Gentle effect := by
  unfold Surveys at surveys
  split at surveys <;> intro reply <;> trivial

theorem Gentle.of_tends {hostname : String} (tends : Tends x hostname effect) : Gentle effect := by
  unfold Tends at tends
  split at tends <;> intro reply <;> trivial

theorem Gentle.of_inspects (inspects : Inspects effect) : Gentle effect := by
  unfold Inspects at inspects
  split at inspects <;> intro reply <;> trivial

theorem Gentle.of_concludes (concludes : Concludes effect) : Gentle effect := by
  unfold Concludes at concludes
  split at concludes <;> intro reply <;> trivial

theorem recordAfter_of_quiet {recorded : Option Checkpoint} (quiet : Quiet effect reply) :
    recordAfter key recorded effect reply = recorded := by
  unfold recordAfter
  split <;> first | rfl | exact quiet.elim

/-- What is ready after a request was so before, or is released by it. -/
theorem isReady_cases (effect : Effect) {reply : effect.Answer} (lawful : world.region.Lawful)
    (answers : (reply, after) = world.answer effect) (ready : IsReady x after.region) :
    IsReady x world.region ∨ ∃ force,
      (⟨effect, reply⟩ : Exchange Effect Effect.Answer) = ⟨.maas (.release x force), .ok ()⟩ := by
  refine or_iff_not_imp_left.mpr fun unready => ?_
  cases effect with
  | maas call =>
      rcases region_answerMaas answers with ⟨-, -, same⟩ | answered
      · exact absurd (same ▸ ready) unready
      · have readies := lawful.readies_call unready (by rwa [answered])
        cases call with
        | release y force =>
            obtain ⟨rfl, replied⟩ := readies
            rw [answered] at replied
            cases replied
            exact ⟨force, rfl⟩
        | _ => exact readies.elim
  | store call => exact absurd (region_answerStore answers ▸ ready) unready
  | clock =>
      cases answers
      exact absurd ready unready
  | count event =>
      cases answers
      exact absurd ready unready

theorem records_of_quiet (effect : Effect) {reply : effect.Answer} (quiet : Quiet effect reply)
    (answers : (reply, after) = world.answer effect) (key : Key) :
    after.memory.checkpoint? key = world.memory.checkpoint? key :=
  (checkpoint?_answered effect answers key).trans (recordAfter_of_quiet quiet)

/-- What neither releases nor writes leaves a guarded world guarded. -/
theorem Guards.quiet (effect : Effect) {reply : effect.Answer} (guards : Guards start key loose world)
    (quiet : Quiet effect reply) (answers : (reply, after) = world.answer effect) :
    Guards start key loose after := by
  have kept := records_of_quiet effect quiet answers
  have guarded := guards.guarded
  refine ⟨⟨lawful_answer effect guarded.lawful answers, ?_, ?_⟩, fun other differs =>
    (kept other).trans (guards.others other differs)⟩
  · rw [funext kept]
    exact guarded.unshared
  · rintro x ⟨holder, checkpoint, held, own⟩ ready
    refine guarded.busy x ⟨holder, checkpoint, (kept holder).symm.trans held, own⟩ ?_
    rcases isReady_cases effect guarded.lawful answers ready with before | ⟨force, released⟩
    · exact before
    · cases released
      exact quiet.elim

theorem Guards.refused {call : Maas.Call} {error : Maas.Error} (guards : Guards start key loose world)
    (answers : (.error error, after) = world.answer (.maas call)) : Guards start key loose after :=
  guards.quiet (.maas call) (by cases call <;> trivial) answers

theorem Guards.faulted {call : Store.Call} {fault : Failure} (guards : Guards start key loose world)
    (answers : (.error fault, after) = world.answer (.store call)) : Guards start key loose after :=
  guards.quiet (.store call) (by cases call <;> trivial) answers

theorem fairly_tolerates_gentle :
    (fairly start key spec?).Tolerates (Guards start key loose) Gentle :=
  fun _ _ guards gentle => ⟨trivial, fun _ _ leads => guards.quiet _ (gentle _) leads.1⟩

theorem Guarded.guards (guarded : start.Guarded none) : Guards start key none start :=
  ⟨guarded, fun _ _ => rfl⟩

theorem Guards.loosen (guards : Guards start key none world) : Guards start key loose world :=
  ⟨⟨guards.guarded.lawful, guards.guarded.unshared, fun x claimed ready =>
    nomatch guards.guarded.busy x claimed ready⟩, guards.others⟩

/-- What nobody has recorded may be ready. -/
theorem Guards.firm (guards : Guards start key (some x) world) (unclaimed : ¬world.Claimed x) :
    Guards start key none world := by
  refine ⟨⟨guards.guarded.lawful, guards.guarded.unshared, fun y claimed ready => ?_⟩, guards.others⟩
  cases guards.guarded.busy y claimed ready
  exact absurd claimed unclaimed

theorem Guards.released {force : Bool} (guards : Guards start key none world)
    (answers : (.ok (), after) = world.answer (.maas (.release x force))) :
    Guards start key (some x) after := by
  have kept := checkpoint?_answerMaas answers
  have guarded := guards.guarded
  refine ⟨⟨lawful_answer (.maas (.release x force)) guarded.lawful answers, ?_, ?_⟩,
    fun other differs => (kept other).trans (guards.others other differs)⟩
  · rw [funext kept]
    exact guarded.unshared
  · rintro y ⟨holder, checkpoint, held, own⟩ ready
    rcases isReady_cases (.maas (.release x force)) guarded.lawful answers ready with
      before | ⟨force, released⟩
    · cases guarded.busy y ⟨holder, checkpoint, (kept holder).symm.trans held, own⟩ before
    · cases released
      rfl

/-- When the record of a machine is cleared that no other declared machine has recorded, nobody has. -/
theorem Guards.cleared {value : Unit} (guards : Guards start key (some x) world)
    (own : ¬start.Foreign key x)
    (answers : (.ok value, after) = world.answer (.store (.clearInstance key))) :
    Guards start key none after := by
  have region := region_answerStore answers
  have records (k : Key) : after.memory.checkpoint? k =
      if key = k then none else world.memory.checkpoint? k :=
    checkpoint?_answered (.store (.clearInstance key)) answers k
  have before {k : Key} {checkpoint : Checkpoint} (held : after.memory.checkpoint? k = some checkpoint) :
      k ≠ key ∧ world.memory.checkpoint? k = some checkpoint := by
    rw [records] at held
    split at held
    · cases held
    · next differs => exact ⟨Ne.symm differs, held⟩
  refine ⟨⟨region ▸ guards.guarded.lawful, ?_, ?_⟩, fun other differs => ?_⟩
  · exact fun k k' c c' held held' => guards.guarded.unshared k k' c c' (before held).2 (before held').2
  · rintro y ⟨holder, checkpoint, held, rfl⟩ ready
    obtain ⟨differs, held⟩ := before held
    have loose := guards.guarded.busy _ ⟨holder, checkpoint, held, rfl⟩ (region ▸ ready)
    refine absurd ⟨holder, checkpoint, differs, ?_, (Option.some.inj loose).symm⟩ own
    exact (guards.others holder differs).symm.trans held
  · rw [records, if_neg (Ne.symm differs)]
    exact guards.others other differs

/-- However a task ends, the world is guarded. -/
def guarding (start : World) (key : Key) : Failure → World → Prop := fun _ => Guards start key none

theorem Guards.clear (guards : Guards start key (some x) world) (own : ¬start.Foreign key x) :
    (Pass.store (.clearInstance key)).Ensures (fairly start key spec?)
      (fun _ => Guards start key none) (guarding start key) world :=
  Pass.ensures_store.mpr ⟨trivial, fun _ _ leads => guards.cleared own leads.1,
    fun fault _ leads => absurd rfl (leads.2.faithful.clears fault)⟩

theorem Guards.frees (guards : Guards start key none world) (force : Bool) :
    Frees (fairly start key spec?) x force (Guards start key (some x)) (Guards start key none) world where
  allowed := trivial
  released _ leads := guards.released leads.1
  gone _ _ leads := (guards.refused leads.1).loosen
  failed _ _ leads := guards.refused leads.1

theorem guards_counts : Counts (fairly start key spec?) (Guards start key loose) :=
  fairly_tolerates_gentle.mono fun _ ⟨_, counts⟩ => counts ▸ fun _ => trivial

theorem Guards.recoverBroken {α : Type} {ok : α → World → Prop} (guards : Guards start key none world)
    (own : ¬start.Foreign key x) (hostId : Option String) :
    (recoverBroken key x hostId : Pass α).Ensures (fairly start key spec?) ok (guarding start key)
      world := by
  refine recoverBroken_ensures hostId (guards.frees true) guards_counts
    (fun _ _ _ guards => guards) ?_ (fairly_tolerates_gentle.mono fun _ => .of_inspects)
    (fun _ guards => guards)
  intro world guards
  refine Pass.ensures_store.mpr ⟨trivial, fun saved after leads => ?_,
    fun fault _ leads => absurd rfl (leads.2.faithful.loads fault)⟩
  have kept : Guards start key (some x) after := guards.quiet (.store (.load key)) trivial leads.1
  split
  · exact kept.clear own
  · next other =>
      refine kept.firm ?_
      rintro ⟨holder, checkpoint, held, rfl⟩
      by_cases same : holder = key
      · subst same
        refine other ?_
        rw [checkpoint_loaded leads.1, ← records_of_quiet (.store (.load holder)) trivial leads.1, held]
        rfl
      · exact own ⟨holder, checkpoint, same, (kept.others holder same).symm.trans held, rfl⟩

theorem Guards.release (guards : Guards start key none world) (own : ¬start.Foreign key x) :
    (release key x).Ensures (fairly start key spec?) (fun _ => Closes (guarding start key))
      (guarding start key) world := by
  refine release_ensures (guards.frees false) (fun _ guards => guards.frees true) guards_counts
    (fun _ _ _ guards => guards) fun _ guards => ?_
  exact (guards.clear own).mono (fun _ _ guards _ _ => guards) fun _ _ guards => guards

/-- A failed operation may be followed by a recovery of the machine that it addressed, or of one that MAAS
    calls broken. -/
theorem Guards.failWith {α : Type} {ok : α → World → Prop} {context : String} {target : Option String}
    (call : Maas.Call) {error : Maas.Error} (guards : Guards start key none world) (breaks : Breaks call)
    (own : ∀ x ∈ target, ¬start.Foreign key x)
    (fair : Fair start key spec? ⟨.maas call, .error error⟩) :
    (failWith key context target error : Pass α).Ensures (fairly start key spec?) ok
      (guarding start key) world := by
  refine failWith_ensures (Guards start key none)
    (fairly_tolerates_gentle.mono fun _ looks => .of_surveys looks.surveys)
    (fun _ _ _ guards => guards) ?_ ?_ guards
  · exact fun x mem hostId _ guards => guards.recoverBroken (own x mem) hostId
  · rintro x hostId text rfl _ guards
    exact guards.recoverBroken (fair.faithful.blames call x hostId text rfl breaks) hostId

/-- An answer about the instance shows the instance. -/
theorem Guards.carried (x : String) (effect : Effect) {reply : effect.Answer}
    (guards : Guards start key loose world) (answers : (reply, after) = world.answer effect) :
    Carries x effect reply := by
  have carries := (world.carries_answer x effect guards.guarded.lawful.keyed).1
  rwa [← answers] at carries

/-- The world is guarded, and no other declared machine had the instance recorded. -/
structure Owns (start : World) (key : Key) (x : String) (world : World) : Prop where
  guards : Guards start key none world
  own : ¬start.Foreign key x

theorem Owns.quiet (effect : Effect) {reply : effect.Answer} (owns : Owns start key x world)
    (quiet : Quiet effect reply) (answers : (reply, after) = world.answer effect) :
    Owns start key x after := ⟨owns.guards.quiet effect quiet answers, owns.own⟩

theorem owns_tolerates_gentle : (fairly start key spec?).Tolerates (Owns start key x) Gentle :=
  fun _ _ owns gentle => ⟨trivial, fun _ _ leads => owns.quiet _ (gentle _) leads.1⟩

theorem Owns.looked {machine : Machine} (owns : Owns start key x world)
    (answers : (.ok machine, after) = world.answer (.maas (.getMachine x))) :
    machine.systemId = x ∧ Owns start key x after :=
  ⟨owns.guards.carried x (.maas (.getMachine x)) answers rfl,
    owns.quiet (.maas (.getMachine x)) trivial answers⟩

theorem owns_sustains {hostname : String} :
    Sustains (fairly start key spec?) (Owns start key x) key (· = x) hostname (guarding start key) where
  tends _ _ := owns_tolerates_gentle.mono fun _ => .of_tends
  fails _ _ _ owns := owns.guards
  reallocates _ _ _ _ := trivial
  reallocated := by
    rintro x world machine after rfl owns leads
    let call : Maas.Call := .allocate { systemId := some x }
    exact ⟨owns.guards.carried x (.maas call) leads.1 rfl, owns.quiet (.maas call) trivial leads.1⟩
  deployed := by
    rintro x params world machine after rfl owns leads
    exact owns.guards.carried x (.maas (.deploy x params)) leads.1 rfl
  poweredOn := by
    rintro x world machine after rfl owns leads
    exact owns.guards.carried x (.maas (.powerOn x)) leads.1 rfl
  recovers := by
    rintro x call error world after rfl owns operates leads context α ok
    have breaks : Breaks call := by
      unfold Operates at operates
      split at operates <;> trivial
    refine (owns.guards.refused leads.1).failWith call breaks (fun y target => ?_) leads.2
    cases target
    exact owns.own

theorem Owns.resumes (owns : Owns start key x world) :
    Resumes (fairly start key spec?) (Owns start key x) key (· = x) x (guarding start key) world where
  allowed := trivial
  seen _ _ leads := owns.looked leads.1
  broken := by
    intro machine after leads _ hostId ok
    obtain ⟨same, kept⟩ := owns.looked leads.1
    rw [same]
    exact kept.guards.recoverBroken kept.own hostId
  failed := by
    intro machine after leads _
    obtain ⟨same, kept⟩ := owns.looked leads.1
    rw [same]
    exact kept.guards.release kept.own
  gone text after leads :=
    ((owns.guards.refused leads.1).loosen.clear owns.own).mono (fun _ _ guards _ _ => guards)
      fun _ _ guards => guards
  refused _ _ leads _ _ := owns.guards.refused leads.1

theorem owns_continues {hostname : String} :
    Continues (fairly start key spec?) (Owns start key) (fun x y => y = x) key hostname
      (guarding start key) where
  sustains _ := owns_sustains
  known _ := rfl
  looks _ _ _ := trivial
  seen _ _ _ _ owns leads := owns.looked leads.1
  unseen _ _ _ _ owns leads _ _ := owns.guards.refused leads.1
  broken := by
    rintro x _ world rfl owns hostId ok
    exact owns.guards.recoverBroken owns.own hostId
  failed := by
    rintro x _ world rfl owns
    exact owns.guards.release owns.own

/-! ## Coming by an instance -/

/-- What is come by in a guarded world is unrecorded, unless it is endangered. -/
theorem Obtains.unclaimed (obtains : Obtains start key spec x) (guarded : start.Guarded none)
    (safe : ¬Endangers start key spec x) : ¬start.Claimed x := by
  intro claimed
  cases obtains with
  | allocated _ machine there satisfies =>
      cases guarded.busy x claimed ⟨machine, there, (Region.satisfies_iff.mp satisfies).ready⟩
  | adopted machine adopts => exact safe (.adopted machine adopts (.inr claimed))
  | composed virtual next => exact safe (.composed virtual next claimed)

/-- Nothing has changed since the task has started. -/
structure Starts (start : World) (key : Key) (world : World) : Prop where
  guards : Guards start key none world
  unmoved : Unmoved start world

/-- An instance has been come by and is not recorded yet. -/
structure Takes (start : World) (key : Key) (spec : Spec) (x : String) (world : World) : Prop where
  guards : Guards start key none world
  holds : Holds start key spec x world

theorem Takes.unclaimed (takes : Takes start key spec x world) (unclaimed : ¬start.Claimed x) :
    ¬world.Claimed x := by
  rintro ⟨holder, checkpoint, held, own⟩
  exact unclaimed ⟨holder, checkpoint, (takes.holds.recorded holder).symm.trans held, own⟩

/-- What is recorded is not ready, and nobody else has recorded it. -/
theorem Takes.recorded {checkpoint : Checkpoint} {value : Unit}
    (takes : Takes start key spec checkpoint.instanceId world) (guarded : start.Guarded none)
    (safe : ¬Endangers start key spec checkpoint.instanceId)
    (answers : (.ok value, after) = world.answer (.store (.recordInstance key checkpoint))) :
    Owns start key checkpoint.instanceId after := by
  have unclaimed := takes.holds.obtains.unclaimed guarded safe
  have free := takes.unclaimed unclaimed
  have region := region_answerStore answers
  have held {k : Key} {c : Checkpoint} (held : after.memory.checkpoint? k = some c) :
      world.memory.checkpoint? k = some c ∨ k = key ∧ c = checkpoint := by
    rw [show after = (world.answer (.store (.recordInstance key checkpoint))).2 by rw [← answers]]
      at held
    refine (checkpoint?_cases held).imp_right fun booked => ?_
    cases (Sigma.mk.inj booked).1
    exact ⟨rfl, rfl⟩
  refine ⟨⟨⟨region ▸ takes.guards.guarded.lawful, ?_, ?_⟩, fun other differs => ?_⟩, ?_⟩
  · intro k k' c c' held₁ held₂ same
    rcases held held₁ with before | ⟨rfl, rfl⟩ <;> rcases held held₂ with before' | ⟨rfl, rfl⟩
    · exact takes.guards.guarded.unshared k k' c c' before before' same
    · exact absurd ⟨k, c, before, same⟩ free
    · exact absurd ⟨k', c', before', same.symm⟩ free
    · rfl
  · rintro y ⟨holder, c, held₁, rfl⟩ ready
    rw [region] at ready
    rcases held held₁ with before | ⟨-, rfl⟩
    · exact takes.guards.guarded.busy _ ⟨holder, c, before, rfl⟩ ready
    · obtain ⟨machine, known, ready⟩ := ready
      obtain ⟨machine', known', adopts⟩ := takes.holds.there
      cases known.symm.trans known'
      exact absurd (.adopted machine (adopts ready) (.inl ready)) safe
  · exact (checkpoint?_answered (.store (.recordInstance key checkpoint)) answers other).trans
      ((if_neg (Ne.symm differs)).trans (takes.guards.others other differs))
  · rintro ⟨other, c, -, held, own⟩
    exact unclaimed ⟨other, c, held, own⟩

theorem Starts.surveyed {effect : Effect} {reply : effect.Answer} (starts : Starts start key world)
    (surveys : Surveys effect) (answers : (reply, after) = world.answer effect) :
    Starts start key after :=
  ⟨starts.guards.quiet effect (Gentle.of_surveys surveys _) answers,
    starts.unmoved.surveyed surveys answers⟩

theorem fairly_acquires (declared : spec ∈ spec?) (guarded : start.Guarded none) :
    Acquires (fairly start key spec?) (Starts start key) (Takes start key spec) (Owns start key) key
      (guarding start key) where
  surveys _ _ starts surveys := ⟨trivial, fun _ _ leads => starts.surveyed surveys leads.1⟩
  fails _ _ _ starts := starts.guards
  unannotated name value _ fault _ starts leads :=
    starts.guards.quiet (.store (.annotate key name value)) trivial leads.1
  records _ _ _ _ _ := trivial
  recorded := by
    rintro _ world checkpoint after takes rfl leads
    exact takes.recorded guarded (leads.2.safe checkpoint rfl spec declared) leads.1
  counts _ := owns_tolerates_gentle.mono fun _ ⟨_, counts⟩ => counts ▸ fun _ => trivial

theorem Takes.faulted {call : Store.Call} {fault : Failure} (takes : Takes start key spec x world)
    (answers : (.error fault, after) = world.answer (.store call)) : Takes start key spec x after := by
  have kept := records_of_quiet (.store call) (by cases call <;> trivial) answers
  exact
    { guards := takes.guards.faulted answers
      holds :=
        { obtains := takes.holds.obtains
          there := region_answerStore answers ▸ takes.holds.there
          recorded := fun k => (kept k).trans (takes.holds.recorded k) } }

/-- A physical machine that could not be recorded is given back, and nobody has recorded it. -/
theorem Takes.returned {reply : (Maas.Call.release x false).Reply} (takes : Takes start key spec x world)
    (unclaimed : ¬start.Claimed x)
    (answers : (reply, after) = world.answer (.maas (.release x false))) :
    Guards start key none after := by
  cases reply with
  | error error => exact takes.guards.refused answers
  | ok value =>
      refine (takes.guards.released answers).firm ?_
      rintro ⟨holder, checkpoint, held, own⟩
      exact takes.unclaimed unclaimed
        ⟨holder, checkpoint, (checkpoint?_answerMaas answers holder).symm.trans held, own⟩

theorem fairly_allocates (guarded : start.Guarded none) (physical : spec.mode = .bareMetal) :
    Allocates (fairly start key spec?) (Starts start key) (Takes start key spec) (fun _ => True) key
      spec (guarding start key) where
  allowed _ _ := trivial
  allocated _ _ _ starts leads :=
    ⟨trivial, starts.guards.quiet (.maas (.allocate (allocation spec))) trivial leads.1,
      starts.unmoved.allocated guarded.lawful physical leads.1⟩
  refused := by
    intro world error after starts leads
    have kept := starts.guards.refused leads.1
    exact ⟨fun _ _ => kept, fun context ok =>
      kept.failWith (.allocate (allocation spec)) trivial nofun leads.2⟩
  unrecorded := by
    intro x world checkpoint fault after takes own leads
    refine ⟨trivial, fun reply last returns => (takes.faulted leads.1).returned ?_ returns.1⟩
    refine takes.holds.obtains.unclaimed guarded fun endangers => ?_
    cases endangers with
    | adopted machine adopts => exact nomatch physical.symm.trans adopts.virtual
    | composed virtual => exact nomatch physical.symm.trans virtual

theorem fairly_composes (guarded : start.Guarded none) (virtual : spec.mode = .virtualized) :
    Composes (fairly start key spec?) (Starts start key) (Takes start key spec) key spec
      (guarding start key) where
  allowed _ _ _ _ _ := trivial
  composed hostId params _ _ _ _ starts leads :=
    ⟨starts.guards.quiet (.maas (.compose hostId params)) trivial leads.1,
      starts.unmoved.composed virtual leads.1⟩
  refused := by
    intro hostId params world error after _ starts leads
    have kept := starts.guards.refused leads.1
    exact ⟨⟨kept, starts.unmoved.refused leads.1⟩, fun context ok =>
      kept.failWith (.compose hostId params) trivial nofun leads.2⟩
  lists _ _ := trivial
  listed := by
    intro world machines after starts leads
    have kept := starts.guards.quiet (.maas (.listMachines _)) trivial leads.1
    exact (starts.unmoved.listed guarded.lawful virtual leads.1).mono (fun unmoved => ⟨kept, unmoved⟩)
      fun _ holds => ⟨kept, holds⟩
  listFailed _ _ _ starts leads :=
    ⟨starts.guards.refused leads.1, starts.unmoved.answeredMaas leads.1 id rfl⟩
  listsHost _ _ _ := trivial
  listedHost := by
    intro hostId world machines after starts leads
    have kept := starts.guards.quiet (.maas (.listHostVms hostId)) trivial leads.1
    exact (starts.unmoved.listedHost guarded.lawful virtual leads.1).mono
      (fun unmoved => ⟨kept, unmoved⟩) fun _ holds => ⟨kept, holds⟩
  listHostFailed _ _ _ _ starts leads :=
    ⟨starts.guards.refused leads.1, starts.unmoved.answeredMaas leads.1 id rfl⟩
  unrecorded _ _ _ _ _ takes _ leads := takes.guards.faulted leads.1

/-! ## A task -/

/-- A declared machine's own instance is not the one of another. -/
theorem Guarded.own {checkpoint : Checkpoint} (guarded : start.Guarded loose)
    (held : start.memory.checkpoint? key = some checkpoint) :
    ¬start.Foreign key checkpoint.instanceId := by
  rintro ⟨other, c, differs, held', same⟩
  exact differs (guarded.unshared other key c checkpoint held' held same)

theorem fairly_undertakes (guarded : start.Guarded none) :
    Undertakes (fairly start key spec?) key spec? (Guards start key none) start where
  allowed := trivial
  unloaded _ _ leads := guarded.guards.quiet (.store (.load key)) trivial leads.1
  loaded _ _ leads := guarded.guards.quiet (.store (.load key)) trivial leads.1
  provisions := by
    intro options spec saved world declared leads
    have kept : Guards start key none world := guarded.guards.quiet (.store (.load key)) trivial leads.1
    cases recorded : saved.checkpoint with
    | some checkpoint =>
        have owns : Owns start key checkpoint.instanceId world :=
          ⟨kept, guarded.own ((checkpoint_loaded leads.1).symm.trans recorded)⟩
        rw [provisionFrom, recorded]
        exact (owns_sustains.resume options rfl owns.resumes).mono
          (fun _ _ kept => kept.2.guards) fun _ _ guards => guards
    | none =>
        have starts : Starts start key world := ⟨kept, (Unmoved.refl start).read leads.1 id⟩
        refine (provisionFrom_ensures (fairly_acquires declared guarded) (fairly_allocates guarded)
          (fairly_composes guarded) owns_continues recorded starts).mono ?_ fun _ _ guards => guards
        rintro _ _ ⟨_, _, owns⟩
        exact owns.guards
  releases := by
    intro saved checkpoint world recorded leads
    have kept : Guards start key none world := guarded.guards.quiet (.store (.load key)) trivial leads.1
    exact (kept.release (guarded.own ((checkpoint_loaded leads.1).symm.trans recorded))).mono
      (fun _ _ closes => closes _ (Failure.givesUp_instanceGone checkpoint.instanceId))
      fun _ _ guards => guards
  concludes := fairly_tolerates_gentle.mono fun _ => .of_concludes

theorem guarded_task {task : Task} (guarded : world.Guarded none)
    (fair : ∀ exchange ∈ (task.program key).exchanges World.answer world,
      Fair world key task.spec? exchange) : (world.run (task.program key)).2.Guarded none :=
  ((fairly_undertakes guarded).keeps.run fair).guarded

/-- A guarded world is only shared by what endangers an instance. -/
theorem TakesOver.endangers {task : Task} (takes : world.TakesOver key task x)
    (guarded : world.Guarded none) : ∃ spec ∈ task.spec?, Endangers world key spec x := by
  obtain ⟨spec, declared, obtains⟩ := takes.obtains
  by_contra safe
  exact obtains.unclaimed guarded (fun endangers => safe ⟨spec, declared, endangers⟩) takes.claimed

end World

namespace Fleet

/-- The answers to a task are faithful. -/
def Dependable (world : World) : Occurrence → Prop
  | .task key task => ∀ exchange ∈ (task.program key).exchanges World.answer world,
      World.Faithful world key exchange
  | .change _ => True

/-- A task records an instance that it endangers, or a recorded one is made ready from outside. -/
def Exposes (world : World) : Occurrence → Prop
  | .task key task => ∃ x, (∃ spec ∈ task.spec?, World.Endangers world key spec x) ∧
      world.Books key task x
  | .change change => ∃ x, world.Claimed x ∧ world.region.Readies x (.change change)

variable {world : World} {run : List Occurrence} {occurrence : Occurrence}

theorem guarded_of_vacant (lawful : world.region.Lawful)
    (vacant : ∀ key, world.memory.checkpoint? key = none) : world.Guarded none where
  lawful
  unshared k _ c _ held := by
    rw [vacant k] at held
    cases held
  busy := by
    rintro x ⟨key, checkpoint, held, -⟩
    rw [vacant key] at held
    cases held

theorem guarded_after (guarded : world.Guarded none) (dependable : Dependable world occurrence)
    (safe : ¬Exposes world occurrence) : (after world occurrence).Guarded none := by
  cases occurrence with
  | task key task =>
      refine World.guarded_task guarded fun exchange mem => ⟨dependable exchange mem, ?_⟩
      rintro checkpoint rfl spec declared endangers
      exact safe ⟨_, ⟨spec, declared, endangers⟩, checkpoint, rfl, mem⟩
  | change change =>
      refine ⟨guarded.lawful.after change, guarded.unshared, fun x claimed ready => ?_⟩
      by_cases before : IsReady x world.region
      · exact guarded.busy x claimed before
      · exact absurd ⟨x, claimed, Region.readies_change before ready⟩ safe

theorem exposes_of_takeover (guarded : world.Guarded none) (takeover : IsTakeover world occurrence) :
    Exposes world occurrence := by
  cases occurrence with
  | task key task =>
      obtain ⟨x, takes⟩ := takeover
      exact ⟨x, takes.endangers guarded, takes.books⟩
  | change change => exact takeover.elim

/-- Where answers are faithful, an instance is shared only after one has been exposed. -/
theorem exposes_of_shares (guarded : world.Guarded none) (dependable : Always Dependable world run)
    (shares : Shares world run) : Meets Exposes world run := by
  have meets := (shares_iff_meets guarded.lawful guarded.unshared).mp shares
  clear shares
  induction run generalizing world with
  | nil => exact meets.elim
  | cons occurrence rest ih =>
      by_cases exposed : Exposes world occurrence
      · exact .inl exposed
      · obtain takeover | later := meets
        · exact absurd (exposes_of_takeover guarded takeover) exposed
        · exact .inr (ih (guarded_after guarded dependable.1 exposed) dependable.2 later)

end Fleet

end MachineProvisioning
