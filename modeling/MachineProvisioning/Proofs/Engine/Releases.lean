import MachineProvisioning.Proofs.Engine.Recording
import MachineProvisioning.Proofs.Engine.Signals
import MachineProvisioning.Proofs.Engine.Tasks

/-! # Whose instances are released

A task releases the instance of another declared machine on the word of MAAS only: either MAAS has
presented it as the machine that the task is about, or MAAS has just called it broken in answer to an
operation. The proof follows one foreign instance through answers that never present it. Then every
machine that the task goes on with is another one, and only the recovery of a machine that MAAS calls
broken can still meet it.
-/

namespace MachineProvisioning.Engine

open Program (Exchange)
open Resource (Key Spec)
open Store (Checkpoint)
open Lifecycle (Instance)
open Maas (Machine)

/-- An answer about another machine shows this one. -/
def Mistakes (systemId : String) : (effect : Effect) → effect.Answer → Prop
  | .maas (.allocate params), .ok machine =>
      ∃ x, params.systemId = some x ∧ x ≠ systemId ∧ machine.systemId = systemId
  | .maas (.getMachine x), .ok machine => x ≠ systemId ∧ machine.systemId = systemId
  | .maas (.deploy x _), .ok machine => x ≠ systemId ∧ machine.systemId = systemId
  | .maas (.powerOn x), .ok machine => x ≠ systemId ∧ machine.systemId = systemId
  | _, _ => False

/-- The answer presents the machine as the one that the task is about. -/
def Presents (hostname systemId : String) (effect : Effect) (answer : effect.Answer) : Prop :=
  HandsOut hostname systemId effect answer ∨ Mistakes systemId effect answer

/-- An operation that can drive a machine into the broken state. -/
def Breaks : Maas.Call → Prop
  | .allocate _ | .compose _ _ | .setHostname _ _ | .deploy _ _ => True
  | _ => False

/-- MAAS has just called the machine broken in answer to an operation, and has shown it when asked. -/
def Denounced (systemId : String) (past : Transcript) : Prop :=
  ∃ before call hostId text machine, Breaks call ∧ past = before ++
    [⟨.maas call, .error (.brokenMachine (some systemId) hostId text)⟩,
      ⟨.maas (.getMachine systemId), .ok machine⟩]

/-- A task that is never presented with the machine releases it by force only, when it is denounced. -/
def sparing (key : Key) (hostname systemId : String) (recorded : Option Checkpoint) :
    Discipline Transcript :=
  .history
    (fun past effect => ∀ force, effect = .maas (.release systemId force) →
      force = true ∧ Denounced systemId past)
    fun past exchange => ¬Presents hostname systemId exchange.1 exchange.2 ∧
      StartsFrom key recorded past exchange

variable {σ α : Type} {key : Key} {hostname systemId x : String} {recorded : Option Checkpoint}
  {past : Transcript}

/-- Nothing is asked of an end. -/
def always {β : Type} : β → Transcript → Prop := fun _ _ => True

theorem sparing_tolerates {kind : Effect → Prop}
    (never : ∀ force, ¬kind (.maas (.release systemId force))) :
    (sparing key hostname systemId recorded).Tolerates (fun _ => True) kind := by
  intro past effect _ asked
  refine ⟨?_, fun _ _ _ => trivial⟩
  rintro force rfl
  exact absurd asked (never force)

theorem sparing_tolerates_recovery (other : x ≠ systemId) :
    (sparing key hostname systemId recorded).Tolerates (fun _ => True) (Recovers key x) :=
  sparing_tolerates fun _ same => other same.symm

theorem sparing_release (other : x ≠ systemId) :
    (release key x).Ensures (sparing key hostname systemId recorded)
      (fun _ => Closes always) always past :=
  (asks_release.ensures (sparing_tolerates_recovery other) trivial).mono
    (fun _ _ _ _ _ => trivial) fun _ _ _ => trivial

/-- The machine is recovered when it is denounced, and any other one may be. -/
theorem sparing_recoverBroken {ok : α → Transcript → Prop} (hostId : Option String)
    (denounced : x = systemId → Denounced systemId past) :
    (recoverBroken key x hostId : Pass α).Ensures (sparing key hostname systemId recorded)
      ok always past := by
  have frees : Frees (sparing key hostname systemId recorded) x true (fun _ => True) (fun _ => True)
      past := by
    refine ⟨?_, fun _ _ => trivial, fun _ _ _ => trivial, fun _ _ _ => trivial⟩
    rintro force ⟨⟩
    exact ⟨rfl, denounced rfl⟩
  have counts : Counts (sparing key hostname systemId recorded) fun _ => True :=
    sparing_tolerates fun force => by rintro ⟨event, ⟨⟩⟩
  have inspects : (sparing key hostname systemId recorded).Tolerates (fun _ => True) Inspects :=
    sparing_tolerates fun _ => id
  refine recoverBroken_ensures hostId frees counts (fun _ _ _ _ => trivial) (fun past _ => ?_) inspects
    fun _ _ => trivial
  refine Pass.ensures_store.mpr ⟨nofun, fun saved past _ => ?_, fun _ _ _ => trivial⟩
  split
  · exact Pass.ensures_store.mpr ⟨nofun, fun _ _ _ => trivial, fun _ _ _ => trivial⟩
  · trivial

/-- A failed operation of another machine leads to a recovery of this one only when MAAS names it and
    knows it. -/
theorem sparing_failWith {ok : α → Transcript → Prop} {context : String} {target : Option String}
    {error : Maas.Error} {call : Maas.Call} (breaks : Breaks call) (other : target ≠ some systemId) :
    (failWith key context target error : Pass α).Ensures (sparing key hostname systemId recorded)
      ok always (past ++ [⟨.maas call, .error error⟩]) := by
  cases error with
  | brokenMachine named hostId text =>
      have targets : (brokenTarget named target).Ensures (sparing key hostname systemId recorded)
          (fun found past' => found = some systemId → Denounced systemId past') always
          (past ++ [⟨.maas call, .error (.brokenMachine named hostId text)⟩]) := by
        cases named with
        | none => exact Pass.ensures_pure.mpr fun same => absurd same other
        | some x =>
            refine Pass.ensures_bind.mpr (Pass.ensures_tryMaas.mpr ⟨nofun, ?_⟩)
            rintro reply past' ⟨-, rfl⟩
            cases reply with
            | ok machine =>
                refine Pass.ensures_pure.mpr ?_
                rintro ⟨⟩
                exact ⟨past, call, hostId, text, machine, breaks, by simp⟩
            | error error => exact Pass.ensures_pure.mpr fun same => absurd same other
      refine targets.bind fun found past' denounced => ?_
      cases found with
      | none => exact Pass.ensures_throw.mpr trivial
      | some x => exact sparing_recoverBroken hostId fun same => denounced (congrArg some same)
  | _ => exact Pass.ensures_throw.mpr trivial

/-- No answer that is considered presents the machine. -/
theorem sparing_elsewhere {y : String} {effect : Effect} {answer : effect.Answer} {past' : Transcript}
    (leads : (sparing key hostname systemId recorded).leads past effect answer past')
    (presents : y = systemId → Presents hostname systemId effect answer) : y ≠ systemId :=
  fun same => leads.1.1 (presents same)

/-- A task that has got another instance meets none but others. -/
theorem sparing_sustains :
    Sustains (sparing key hostname systemId recorded) (fun _ => x ≠ systemId) key
      (fun y => x ≠ systemId → y ≠ systemId) hostname always where
  tends y _ past effect other tends := by
    obtain ⟨allowed, -⟩ := sparing_tolerates (fun _ => id) past effect trivial tends
    exact ⟨allowed, fun _ _ _ => other⟩
  fails _ _ _ _ := trivial
  reallocates _ _ _ _ := nofun
  reallocated y past machine past' known other leads :=
    ⟨fun _ => sparing_elsewhere leads fun same => .inr ⟨y, rfl, known other, same⟩, other⟩
  deployed y _ past machine past' known other leads _ :=
    sparing_elsewhere leads fun same => .inr ⟨known other, same⟩
  poweredOn y past machine past' known other leads _ :=
    sparing_elsewhere leads fun same => .inr ⟨known other, same⟩
  recovers := by
    intro y call error past past' known other operates leads context α ok
    obtain ⟨-, rfl⟩ := leads
    have breaks : Breaks call := by
      unfold Operates at operates
      split at operates
      · trivial
      · trivial
      · trivial
      · cases operates
    exact sparing_failWith breaks fun same => known other (Option.some.inj same)

theorem sparing_resumes (other : x ≠ systemId) :
    Resumes (sparing key hostname systemId recorded) (fun _ => x ≠ systemId) key
      (fun y => x ≠ systemId → y ≠ systemId) x always past := by
  have seen {machine : Machine} {past' : Transcript}
      (leads : (sparing key hostname systemId recorded).leads past (.maas (.getMachine x)) (.ok machine)
        past') : machine.systemId ≠ systemId :=
    sparing_elsewhere leads fun same => .inr ⟨other, same⟩
  constructor
  · exact nofun
  · exact fun machine past' leads => ⟨fun _ => seen leads, other⟩
  · exact fun machine past' leads _ hostId ok =>
      sparing_recoverBroken hostId fun same => absurd same (seen leads)
  · exact fun machine past' leads _ => sparing_release (seen leads)
  · exact fun _ _ _ =>
      Pass.ensures_store.mpr ⟨nofun, fun _ _ _ _ _ => trivial, fun _ _ _ => trivial⟩
  · exact fun _ _ _ _ _ => trivial

theorem sparing_acquires :
    Acquires (sparing key hostname systemId recorded) (fun _ => True) (fun x _ => x ≠ systemId)
      (fun x _ => x ≠ systemId) key always where
  surveys := sparing_tolerates fun _ => id
  fails _ _ _ _ := trivial
  unannotated _ _ _ _ _ _ _ := trivial
  records _ _ _ _ _ := nofun
  recorded _ _ _ _ other _ _ := other
  counts y := by
    intro past effect other counts
    obtain ⟨event, rfl⟩ := counts
    exact ⟨nofun, fun _ _ _ => other⟩

variable {spec : Spec}

theorem sparing_allocates :
    Allocates (sparing key hostname systemId recorded) (fun _ => True) (fun x _ => x ≠ systemId)
      (fun _ => True) key spec always where
  allowed _ _ := nofun
  allocated past machine past' _ leads :=
    ⟨trivial, sparing_elsewhere leads fun same => .inl ⟨rfl, same⟩⟩
  refused := by
    intro past error past' _ leads
    obtain ⟨-, rfl⟩ := leads
    exact ⟨fun _ _ => trivial, fun context ok => sparing_failWith trivial nofun⟩
  unrecorded := by
    intro y past checkpoint fault past' other _ _
    refine ⟨?_, fun _ _ _ => trivial⟩
    rintro force ⟨⟩
    exact absurd rfl other

theorem sparing_finds {machines : List Machine}
    (elsewhere : ∀ machine, machines.find? (Wiring.hostnameMatches · hostname) = some machine →
      machine.systemId ≠ systemId) :
    Finds (fun _ => True) (fun x _ => x ≠ systemId) hostname machines past := by
  unfold Finds
  split
  · next machine found => exact elsewhere machine found
  · trivial

theorem sparing_composes (named : spec.hostname.getD key.name = hostname) :
    Composes (sparing key hostname systemId recorded) (fun _ => True) (fun x _ => x ≠ systemId) key
      spec always where
  allowed _ _ _ _ _ := nofun
  composed hostId params past vm past' _ _ leads := sparing_elsewhere leads .inl
  refused := by
    intro hostId params past error past' _ _ leads
    obtain ⟨-, rfl⟩ := leads
    exact ⟨trivial, fun context ok => sparing_failWith trivial nofun⟩
  lists _ _ := nofun
  listed := by
    intro past machines past' _ leads
    rw [named]
    exact sparing_finds fun machine found =>
      sparing_elsewhere leads fun same => .inl ⟨machine, found, same⟩
  listFailed _ _ _ _ _ := trivial
  listsHost _ _ _ := nofun
  listedHost := by
    intro hostId past machines past' _ leads
    rw [named]
    exact sparing_finds fun machine found =>
      sparing_elsewhere leads fun same => .inl ⟨machine, found, same⟩
  listHostFailed _ _ _ _ _ _ := trivial
  unrecorded _ _ _ _ _ _ _ _ := trivial

theorem sparing_continues :
    Continues (sparing key hostname systemId recorded) (fun x _ => x ≠ systemId)
      (fun x y => x ≠ systemId → y ≠ systemId) key hostname always where
  sustains _ := sparing_sustains
  known _ := id
  looks _ _ _ := nofun
  seen _ _ _ _ other leads :=
    ⟨fun _ => sparing_elsewhere leads fun same => .inr ⟨other, same⟩, other⟩
  unseen _ _ _ _ _ _ _ _ := trivial
  broken _ _ _ known other hostId _ :=
    sparing_recoverBroken hostId fun same => absurd same (known other)
  failed _ _ _ known other := sparing_release (known other)

theorem sparing_provisionFrom {options : Options} {saved : Store.Saved}
    (named : spec.hostname.getD key.name = hostname)
    (other : ∀ checkpoint, saved.checkpoint = some checkpoint → checkpoint.instanceId ≠ systemId) :
    (provisionFrom options key spec saved).Ensures (sparing key hostname systemId recorded)
      always always past := by
  subst named
  cases own : saved.checkpoint with
  | some checkpoint =>
      have other := other checkpoint own
      rw [provisionFrom, own]
      exact (sparing_sustains.resume options rfl (sparing_resumes other)).mono
        (fun _ _ _ => trivial) fun _ _ => id
  | none =>
      exact (provisionFrom_ensures sparing_acquires (fun _ => sparing_allocates)
        (fun _ => sparing_composes rfl) sparing_continues own trivial).mono
        (fun _ _ _ => trivial) fun _ _ => id

theorem sparing_undertakes {task : Task}
    (other : ∀ checkpoint, recorded = some checkpoint → checkpoint.instanceId ≠ systemId) :
    Undertakes (sparing key (task.hostname key) systemId recorded) key task.spec? (fun _ => True)
      [] where
  allowed := nofun
  unloaded _ _ _ := trivial
  loaded _ _ _ := trivial
  provisions := by
    intro options spec saved past declared leads
    have own : saved.checkpoint = recorded := leads.1.2 rfl saved rfl
    refine sparing_provisionFrom ?_ (own ▸ other)
    rw [Task.hostname, declared]
    rfl
  releases := by
    intro saved checkpoint past own leads
    have same : saved.checkpoint = recorded := leads.1.2 rfl saved rfl
    exact (sparing_release (other checkpoint (same.symm.trans own))).mono (fun _ _ _ => trivial)
      fun _ _ => id
  concludes := sparing_tolerates fun _ => id

/-- No two declared machines have the same instance recorded. -/
def Unshared (recorded : Key → Option Checkpoint) : Prop :=
  ∀ k k' c c', recorded k = some c → recorded k' = some c' → c.instanceId = c'.instanceId → k = k'

/-- A task about a declared machine releases the recorded instance of another one only when MAAS has
    presented that instance to it, or has just called it broken in answer to an operation; then the
    release is a forced one. -/
theorem releases_foreign_instance {recorded : Key → Option Checkpoint} {other : Key} {task : Task}
    {checkpoint : Checkpoint} {transcript before after : Transcript} {force : Bool}
    {answer : Except Maas.Error Unit}
    (unshared : Unshared recorded) (owned : recorded other = some checkpoint)
    (foreign : other ≠ key) (trace : Program.Trace (task.program key) transcript ())
    (starts : ∀ saved rest, transcript = ⟨.store (.load key), .ok saved⟩ :: rest →
      saved.checkpoint = recorded key)
    (split : transcript = before ++ ⟨.maas (.release checkpoint.instanceId force), answer⟩ :: after) :
    (∃ exchange ∈ before,
        Presents (task.hostname key) checkpoint.instanceId exchange.1 exchange.2) ∨
      force = true ∧ Denounced checkpoint.instanceId before := by
  by_cases presented : ∃ exchange ∈ before,
      Presents (task.hostname key) checkpoint.instanceId exchange.1 exchange.2
  · exact .inl presented
  · right
    have elsewhere : ∀ own, recorded key = some own → own.instanceId ≠ checkpoint.instanceId :=
      fun own held same => foreign (unshared other key checkpoint own owned held same.symm)
    have undertakes : Undertakes
        (sparing key (task.hostname key) checkpoint.instanceId (recorded key)) key task.spec?
        (fun _ => True) [] := sparing_undertakes elsewhere
    have allowed := undertakes.keeps.allowed trace split fun first next rest early => by
      refine ⟨fun presents => presented ⟨next, by simp [early], presents⟩, ?_⟩
      rintro same saved rfl
      obtain rfl := same
      exact starts saved _ (by rw [split, early]; rfl)
    simpa using allowed force rfl

/-- What is recorded when the instance of one more machine is. -/
def recordOf (memory : Store.Memory) (key : Key) (systemId : String) : Store.Memory :=
  memory.modifySaved key fun saved =>
    { saved with checkpoint := some (.new systemId none none) }

theorem Unshared.record {memory : Store.Memory} (unshared : Unshared memory.checkpoint?) {key : Key}
    (fresh : ∀ k c, memory.checkpoint? k = some c → c.instanceId ≠ systemId) :
    Unshared (recordOf memory key systemId).checkpoint? := by
  intro k k' c c' held held' same
  rw [recordOf, Store.Memory.checkpoint?_modifySaved] at held held'
  split at held <;> split at held'
  · next first second => exact first.symm.trans second
  · cases held
    exact absurd same.symm (fresh k' c' held')
  · cases held'
    exact absurd same (fresh k c held)
  · exact unshared k k' c c' held held' same

theorem unshared_record {key : Key} : Unshared (recordOf {} key systemId).checkpoint? := by
  have nothing : Unshared ({} : Store.Memory).checkpoint? := nofun
  exact nothing.record nofun

/-- The first machine is the one of a declared machine, and the second one that of another. MAAS calls the
    second one broken in answer to the next allocation. -/
def rivals : World :=
  { confused with
    memory := recordOf (recordOf {} ⟨"metal", "worker-1"⟩ "m2") ⟨"metal", "worker-0"⟩ "m1" }

theorem unshared_rivals : Unshared rivals.memory.checkpoint? := by
  refine unshared_record.record fun k c held => ?_
  rw [recordOf, Store.Memory.checkpoint?_modifySaved] at held
  split at held
  · cases held
    decide
  · cases held

theorem releases_foreign_instance_rivals :
    let transcript := ((Task.provision {} { minCpu := 1, minMemoryMib := 1 }).program
      ⟨"metal", "worker-0"⟩).exchanges World.answer rivals
    ∃ before after, transcript = before ++ ⟨.maas (.release "m2" true), .ok ()⟩ :: after ∧
      ((∃ exchange ∈ before, Presents "worker-0" "m2" exchange.1 exchange.2) ∨
        true = true ∧ Denounced "m2" before) := by
  intro transcript
  have split : transcript = transcript.take 4 ++ ⟨.maas (.release "m2" true), .ok ()⟩ ::
      transcript.drop 5 := by rfl
  have starts : ∀ saved rest, transcript = ⟨.store (.load ⟨"metal", "worker-0"⟩), .ok saved⟩ :: rest →
      saved.checkpoint = rivals.memory.checkpoint? ⟨"metal", "worker-0"⟩ := by
    intro saved rest first
    cases (List.cons.inj first).1
    rfl
  have owned : rivals.memory.checkpoint? ⟨"metal", "worker-1"⟩ = some (.new "m2" none none) := by
    decide +kernel
  exact ⟨_, _, split, releases_foreign_instance unshared_rivals owned (by decide)
    (Program.trace_exchanges World.answer _ rivals) starts split⟩

/-- A recorded machine is ready, and the next record fails. -/
def reissued : World :=
  { unrecordable with memory := recordOf {} ⟨"metal", "worker-1"⟩ "m1" }

/-- A VM host, and a broken machine that is recorded for a namesake. -/
def namesake : World where
  region := (Region.empty.after (.addHost
      { id := 1, name := "host-1", kind := "lxd", zone := some ⟨1, "z1"⟩, pool := some ⟨1, "p1"⟩,
        machine := none, available := ⟨16, 65536, 1000000000000⟩, tags := [] })).after (.addMachine
      { systemId := "m1", hostname := "worker-0", statusName := "Broken" })
  memory := recordOf {} ⟨"other", "worker-0"⟩ "m1"
  clock := ⟨0, 0⟩

/-- The task can release an instance that is recorded for another declared machine, though no two have the
    same one. -/
def Infringes (recorded : Key → Option Checkpoint) (key : Key) (task : Task) : Prop :=
  Unshared recorded ∧ ∃ other checkpoint transcript force, other ≠ key ∧
    recorded other = some checkpoint ∧ Program.Trace (task.program key) transcript () ∧
    (∀ saved rest, transcript = ⟨.store (.load key), .ok saved⟩ :: rest →
      saved.checkpoint = recorded key) ∧
    ∃ exchange ∈ transcript, exchange.1 = .maas (.release checkpoint.instanceId force)

theorem infringes_of_world {world : World} {task : Task} (other : Key) (checkpoint : Checkpoint)
    (force : Bool) (unshared : Unshared world.memory.checkpoint?) (foreign : other ≠ key)
    (owned : world.memory.checkpoint? other = some checkpoint)
    (releases : ∃ exchange ∈ (task.program key).exchanges World.answer world,
      exchange.1 = .maas (.release checkpoint.instanceId force)) :
    Infringes world.memory.checkpoint? key task := by
  refine ⟨unshared, other, checkpoint, _, force, foreign, owned,
    Program.trace_exchanges World.answer _ world, ?_, releases⟩
  intro saved rest first
  have follows : (recording key).Follows (world.memory.checkpoint? key)
      ((task.program key).exchanges World.answer world) _ :=
    Program.follows_exchanges (fun world : World => world.memory.checkpoint? key)
      (fun effect world => world.records_answer key effect) (task.program key) world
  rw [first, ← List.nil_append (_ :: rest)] at follows
  exact startsFrom_of_follows follows rfl saved rfl

/-- A machine that MAAS calls broken, one that it allocates, one that is found by its hostname and one
    that is shown in place of the recorded one are released, whosever they are. -/
theorem infringes_rivals :
    let key : Key := ⟨"metal", "worker-0"⟩
    Infringes rivals.memory.checkpoint? key (.provision {} { minCpu := 1, minMemoryMib := 1 }) ∧
    Infringes reissued.memory.checkpoint? key (.provision {} { minCpu := 1, minMemoryMib := 1 }) ∧
    Infringes namesake.memory.checkpoint? key
      (.provision {} { minCpu := 1, minMemoryMib := 1, mode := .virtualized }) ∧
    Infringes rivals.memory.checkpoint? key (.provision {} { minCpu := 1, minMemoryMib := 1 }) := by
  intro key
  refine ⟨?_, ?_, ?_, unshared_rivals, ⟨"metal", "worker-1"⟩, .new "m2" none none,
    [⟨.store (.load key), .ok { checkpoint := some (.new "m1" none none) }⟩,
      ⟨.maas (.getMachine "m1"), .ok { systemId := "m2", hostname := "node-8", statusName := "Broken" }⟩,
      ⟨.maas (.release "m2" true), .error .transport⟩], true, by decide, by decide +kernel, ?_, ?_, ?_⟩
  · exact infringes_of_world ⟨"metal", "worker-1"⟩ (.new "m2" none none) true unshared_rivals
      (by decide) (by decide +kernel) (by decide +kernel)
  · exact infringes_of_world ⟨"metal", "worker-1"⟩ (.new "m1" none none) false unshared_record
      (by decide) (by decide +kernel) (by decide +kernel)
  · exact infringes_of_world ⟨"other", "worker-0"⟩ (.new "m1" none none) true unshared_record
      (by decide) (by decide +kernel) (by decide +kernel)
  · exact .ask _ (.ask _ (.ask _ (.done _)))
  · intro saved rest first
    cases (List.cons.inj first).1
    rfl
  · exact ⟨_, .tail _ (.tail _ (.head _)), rfl⟩

end MachineProvisioning.Engine
