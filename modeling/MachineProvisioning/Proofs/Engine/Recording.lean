import MachineProvisioning.Proofs.Engine.Intake
import MachineProvisioning.Proofs.World.Answers

/-! # Recording comes first

What a pass gets is lost unless it is recorded. A pass that starts without a record asks to record an
instance right after it has been handed out, and goes no further when that fails.
-/

namespace MachineProvisioning.Engine

open Program (Exchange)
open Resource (Key Spec)
open Store (Checkpoint)
open Lifecycle (Instance)
open Maas (Machine)

/-- The answer hands this machine out: to an allocation that names none, to a composition, or as the
    first machine of the hostname in a listing. -/
def HandsOut (hostname systemId : String) : (effect : Effect) → effect.Answer → Prop
  | .maas (.allocate params), .ok machine => params.systemId = none ∧ machine.systemId = systemId
  | .maas (.compose _ _), .ok vm => vm.systemId = systemId
  | .maas (.listMachines _), .ok machines => ∃ machine,
      machines.find? (Wiring.hostnameMatches · hostname) = some machine ∧
        machine.systemId = systemId
  | .maas (.listHostVms _), .ok machines => ∃ machine,
      machines.find? (Wiring.hostnameMatches · hostname) = some machine ∧
        machine.systemId = systemId
  | _, _ => False

/-- No machine has been handed out. -/
def Empty (hostname : String) (past : Transcript) : Prop :=
  ∀ exchange ∈ past, ∀ x, ¬HandsOut hostname x exchange.1 exchange.2

/-- One machine has been handed out, and the next request was to record it. -/
structure Recorded (key : Key) (hostname systemId : String) (past : Transcript)
    (reply : Except Failure Unit) (rest : Transcript) : Prop where
  intro ::
  split : ∃ before exchange checkpoint,
    past = before ++ exchange :: ⟨.store (.recordInstance key checkpoint), reply⟩ :: rest ∧
      Empty hostname before ∧ HandsOut hostname systemId exchange.1 exchange.2 ∧
        checkpoint.instanceId = systemId
  empty : Empty hostname rest

/-- How a pass leaves what it was handed out: recorded, or not recorded and reported as such, after
    a release at most. -/
def Leaves (key : Key) (spec : Spec) (result : Except Failure Instance) (past : Transcript) : Prop :=
  let hostname := spec.hostname.getD key.name
  Empty hostname past ∨ ∃ x reply rest, Recorded key hostname x past reply rest ∧
    ∀ fault, reply = .error fault → result = .error fault ∧
      (rest = [] ∨ spec.mode = .bareMetal ∧ ∃ answer, rest = [⟨.maas (.release x false), answer⟩])

/-- Passes that start without a record, whatever they ask for and are answered. -/
def starting (key : Key) : Discipline Transcript :=
  .history (fun _ _ => True) fun past exchange => StartsFrom key none past exchange

/-- No answer to the request hands a machine out. -/
def Keeping (hostname : String) (effect : Effect) : Prop :=
  ∀ answer x, ¬HandsOut hostname x effect answer

variable {key : Key} {spec : Spec} {hostname : String} {past : Transcript}

theorem Empty.append (empty : Empty hostname past) (effect : Effect) (answer : effect.Answer)
    (nothing : ∀ x, ¬HandsOut hostname x effect answer) :
    Empty hostname (past ++ [⟨effect, answer⟩]) :=
  List.forall_mem_append.mpr ⟨empty, List.forall_mem_singleton.mpr nothing⟩

theorem Recorded.append {x : String} {reply : Except Failure Unit} {rest : Transcript}
    (recorded : Recorded key hostname x past reply rest) (effect : Effect) (answer : effect.Answer)
    (nothing : ∀ y, ¬HandsOut hostname y effect answer) :
    Recorded key hostname x (past ++ [⟨effect, answer⟩]) reply (rest ++ [⟨effect, answer⟩]) := by
  obtain ⟨⟨before, exchange, checkpoint, rfl, handed⟩, empty⟩ := recorded
  exact ⟨⟨before, exchange, checkpoint, by simp, handed⟩, empty.append effect answer nothing⟩

/-- The instance of the pass is recorded. -/
def Owned (key : Key) (hostname : String) (past : Transcript) : Prop :=
  ∃ x rest, Recorded key hostname x past (.ok ()) rest

theorem starting_tolerates_empty :
    (starting key).Tolerates (Empty hostname) (Keeping hostname) := by
  intro past effect empty keeping
  refine ⟨trivial, ?_⟩
  intro answer s' leads
  obtain ⟨-, rfl⟩ := leads
  exact empty.append effect answer (keeping answer)

theorem starting_tolerates_owned :
    (starting key).Tolerates (Owned key hostname) (Keeping hostname) := by
  intro past effect found keeping
  obtain ⟨x, rest, recorded⟩ := found
  refine ⟨trivial, ?_⟩
  intro answer s' leads
  obtain ⟨-, rfl⟩ := leads
  exact ⟨x, _, recorded.append effect answer (keeping answer)⟩

theorem keeping_of_routine {effect : Effect} (routine : Routine effect) :
    Keeping hostname effect := by
  intro answer y
  cases effect with
  | maas call =>
      cases call <;>
        first
        | exact id
        | (obtain surveys | ⟨x, name, tends⟩ | ⟨key, x, recovers⟩ := routine) <;> contradiction
  | _ => exact id

/-- How a failed pass leaves what it was handed out. -/
def leaving (key : Key) (spec : Spec) (failure : Failure) (past : Transcript) : Prop :=
  Leaves key spec (.error failure) past

theorem leaves_of_owned {result : Except Failure Instance}
    (owned : Owned key (spec.hostname.getD key.name) past) : Leaves key spec result past := by
  obtain ⟨x, rest, recorded⟩ := owned
  exact .inr ⟨x, .ok (), rest, recorded, fun fault h => nomatch h⟩

theorem routine_of_owned : (starting key).Tolerates (Owned key hostname) Routine :=
  starting_tolerates_owned.mono fun _ => keeping_of_routine

theorem routine_of_empty : (starting key).Tolerates (Empty hostname) Routine :=
  starting_tolerates_empty.mono fun _ => keeping_of_routine

theorem starting_sustains :
    Sustains (starting key) (Owned key (spec.hostname.getD key.name)) key (fun _ => True)
      (spec.hostname.getD key.name) (leaving key spec) where
  tends x _ := routine_of_owned.mono fun _ h => .inr (.inl ⟨x, _, h⟩)
  fails _ _ _ owned := leaves_of_owned owned
  reallocates _ _ _ _ := trivial
  reallocated := by
    intro x past machine s' _ found leads
    obtain ⟨y, rest, recorded⟩ := found
    obtain ⟨-, rfl⟩ := leads
    exact ⟨trivial, y, _, recorded.append _ _ fun z h => nomatch h.1⟩
  deployed _ _ _ _ _ _ _ _ := trivial
  poweredOn _ _ _ _ _ _ _ := trivial
  recovers := by
    intro x call error past s' _ found _ leads context α ok
    obtain ⟨y, rest, recorded⟩ := found
    obtain ⟨-, rfl⟩ := leads
    refine routine_failWith routine_of_owned (fun _ _ owned => leaves_of_owned owned) ?_
    exact ⟨y, _, recorded.append _ _ fun z h => by cases call <;> exact h⟩

/-- The last answer handed this machine out, and none before it did. -/
def Taken (hostname systemId : String) (past : Transcript) : Prop :=
  ∃ before exchange, past = before ++ [exchange] ∧ Empty hostname before ∧
    HandsOut hostname systemId exchange.1 exchange.2

theorem Empty.taken {x : String} (empty : Empty hostname past) {effect : Effect}
    {answer : effect.Answer} (handsOut : HandsOut hostname x effect answer) :
    Taken hostname x (past ++ [⟨effect, answer⟩]) :=
  ⟨past, ⟨effect, answer⟩, rfl, empty, handsOut⟩

theorem Taken.recorded {x : String} {checkpoint : Checkpoint} (taken : Taken hostname x past)
    (names : checkpoint.instanceId = x) (reply : Except Failure Unit) :
    Recorded key hostname x (past ++ [⟨.store (.recordInstance key checkpoint), reply⟩]) reply
      [] := by
  obtain ⟨before, exchange, rfl, empty, handsOut⟩ := taken
  refine ⟨⟨before, exchange, checkpoint, by simp, empty, handsOut, names⟩, ?_⟩
  intro other mem
  cases mem

theorem starting_acquires :
    Acquires (starting key) (Empty (spec.hostname.getD key.name))
      (Taken (spec.hostname.getD key.name)) (fun _ => Owned key (spec.hostname.getD key.name)) key
      (leaving key spec) where
  surveys := routine_of_empty.mono fun _ h => .inl h
  fails _ _ _ empty := .inl empty
  unannotated := by
    intro name value past fault past' empty leads
    have surveys : Surveys (.store (.annotate key name value)) := trivial
    exact .inl ((routine_of_empty past _ empty (.inl surveys)).2 _ past' leads)
  records _ _ _ _ _ := trivial
  recorded := by
    intro x past checkpoint s' taken names leads
    obtain ⟨-, rfl⟩ := leads
    exact ⟨x, [], taken.recorded names _⟩
  counts _ := by
    refine starting_tolerates_owned.mono ?_
    intro _ counts answer x
    obtain ⟨event, rfl⟩ := counts
    exact id

theorem starting_allocates (mode : spec.mode = .bareMetal) :
    Allocates (starting key) (Empty (spec.hostname.getD key.name))
      (Taken (spec.hostname.getD key.name)) (fun _ => True) key spec (leaving key spec) where
  allowed _ _ := trivial
  allocated := by
    intro past machine s' empty leads
    obtain ⟨-, rfl⟩ := leads
    exact ⟨trivial, empty.taken ⟨rfl, rfl⟩⟩
  refused := by
    intro past error s' empty leads
    obtain ⟨-, rfl⟩ := leads
    have kept := empty.append (.maas (.allocate (allocation spec))) (.error error) fun x => id
    exact ⟨fun _ _ => .inl kept, fun context ok =>
      routine_failWith routine_of_empty (fun _ _ empty => .inl empty) kept⟩
  unrecorded := by
    intro x past checkpoint fault s' taken names leads
    obtain ⟨-, rfl⟩ := leads
    refine ⟨trivial, ?_⟩
    intro reply s'' leads
    obtain ⟨-, rfl⟩ := leads
    have unrecorded : Recorded key _ x _ _ _ := taken.recorded names (.error fault)
    have recorded := unrecorded.append (.maas (.release x false)) reply fun y => id
    refine .inr ⟨x, _, _, recorded, ?_⟩
    intro failure h
    cases h
    exact ⟨rfl, .inr ⟨mode, reply, rfl⟩⟩

theorem starting_finds {machines : List Machine} {effect : Effect} {answer : effect.Answer}
    (empty : Empty hostname past)
    (handsOut : ∀ x, HandsOut hostname x effect answer ↔ ∃ machine,
      machines.find? (Wiring.hostnameMatches · hostname) = some machine ∧ machine.systemId = x) :
    Finds (Empty hostname) (Taken hostname) hostname machines (past ++ [⟨effect, answer⟩]) := by
  unfold Finds
  split
  · next machine found => exact empty.taken ((handsOut _).mpr ⟨machine, found, rfl⟩)
  · next found =>
      refine empty.append effect answer fun x h => ?_
      obtain ⟨machine, found', -⟩ := (handsOut x).mp h
      rw [found] at found'
      cases found'

theorem starting_composes :
    Composes (starting key) (Empty (spec.hostname.getD key.name))
      (Taken (spec.hostname.getD key.name)) key spec (leaving key spec) where
  allowed _ _ _ _ _ := trivial
  composed := by
    intro hostId params past vm s' _ empty leads
    obtain ⟨-, rfl⟩ := leads
    exact empty.taken rfl
  refused := by
    intro hostId params past error s' _ empty leads
    obtain ⟨-, rfl⟩ := leads
    have kept := empty.append (.maas (.compose hostId params)) (.error error) fun x => id
    exact ⟨kept, fun context ok =>
      routine_failWith routine_of_empty (fun _ _ empty => .inl empty) kept⟩
  lists _ _ := trivial
  listed := by
    intro past machines s' empty leads
    obtain ⟨-, rfl⟩ := leads
    exact starting_finds empty fun x => Iff.rfl
  listFailed := by
    intro past error s' empty leads
    obtain ⟨-, rfl⟩ := leads
    exact empty.append _ _ fun x => id
  listsHost _ _ _ := trivial
  listedHost := by
    intro hostId past machines s' empty leads
    obtain ⟨-, rfl⟩ := leads
    exact starting_finds empty fun x => Iff.rfl
  listHostFailed := by
    intro hostId past error s' empty leads
    obtain ⟨-, rfl⟩ := leads
    exact empty.append _ _ fun x => id
  unrecorded := by
    intro x past checkpoint fault s' taken names leads
    obtain ⟨-, rfl⟩ := leads
    refine .inr ⟨x, _, [], taken.recorded names (.error fault), ?_⟩
    intro failure h
    cases h
    exact ⟨rfl, .inl rfl⟩

theorem starting_continues :
    Continues (starting key) (fun _ => Owned key (spec.hostname.getD key.name)) (fun _ _ => True) key
      (spec.hostname.getD key.name) (leaving key spec) := by
  have seen : ∀ x past answer, Owned key (spec.hostname.getD key.name) past →
      Owned key (spec.hostname.getD key.name) (past ++ [⟨.maas (.getMachine x), answer⟩]) := by
    rintro x past answer ⟨y, rest, recorded⟩
    exact ⟨y, _, recorded.append _ answer fun z => id⟩
  constructor
  · exact fun x => starting_sustains
  · exact fun _ => trivial
  · exact fun _ _ _ => trivial
  · intro x past machine s' owned leads
    obtain ⟨-, rfl⟩ := leads
    exact ⟨trivial, seen x past _ owned⟩
  · intro x past error s' owned leads failure _
    obtain ⟨-, rfl⟩ := leads
    exact leaves_of_owned (seen x past _ owned)
  · exact fun _ y _ _ owned hostId _ =>
      routine_recoverBroken routine_of_owned (fun _ _ owned => leaves_of_owned owned) y hostId owned
  · exact fun _ y _ _ owned =>
      routine_release routine_of_owned (fun _ _ owned => leaves_of_owned owned) y owned

/-- A pass that starts without a record leaves what it was handed out recorded or reported. -/
theorem starting_provision (options : Options) (key : Key) (spec : Spec) :
    (provision options key spec).Ensures (starting key)
      (fun seen past => Leaves key spec (.ok seen) past) (leaving key spec) [] := by
  have nothing : Empty (spec.hostname.getD key.name) [] := fun exchange mem => nomatch mem
  refine Pass.ensures_bind.mpr (Pass.ensures_store.mpr ⟨trivial, ?_, ?_⟩)
  · intro saved past leads
    obtain ⟨starts, rfl⟩ := leads
    have empty := nothing.append (.store (.load key)) (.ok saved) fun x => id
    refine (provisionFrom_ensures starting_acquires starting_allocates
      (fun _ => starting_composes) starting_continues (starts rfl saved rfl) empty).mono ?_
      fun _ _ => id
    rintro seen past ⟨x, -, owned⟩
    exact leaves_of_owned owned
  · intro fault past leads
    obtain ⟨-, rfl⟩ := leads
    exact .inl (nothing.append (.store (.load key)) (.error fault) fun x => id)

theorem HandsOut.unique {x y : String} {effect : Effect} {answer : effect.Answer}
    (first : HandsOut hostname x effect answer) (second : HandsOut hostname y effect answer) :
    x = y := by
  unfold HandsOut at first second
  split at first
  · exact first.2.symm.trans second.2
  · exact first.symm.trans second
  · obtain ⟨machine, found, rfl⟩ := first
    obtain ⟨machine', found', rfl⟩ := second
    rw [found] at found'
    cases found'
    rfl
  · obtain ⟨machine, found, rfl⟩ := first
    obtain ⟨machine', found', rfl⟩ := second
    rw [found] at found'
    cases found'
    rfl
  · cases first

/-- The machine handed out is the one that is recorded next. -/
theorem Recorded.after {x y : String} {reply : Except Failure Unit}
    {rest before after : Transcript} {exchange : Exchange Effect Effect.Answer}
    (recorded : Recorded key hostname x past reply rest)
    (split : past = before ++ exchange :: after)
    (handsOut : HandsOut hostname y exchange.1 exchange.2) :
    y = x ∧ ∃ checkpoint, checkpoint.instanceId = x ∧
      after = ⟨.store (.recordInstance key checkpoint), reply⟩ :: rest := by
  obtain ⟨⟨earlier, taking, checkpoint, whole, nothing, taken, names⟩, later⟩ := recorded
  have here : exchange = taking ∧
      after = ⟨.store (.recordInstance key checkpoint), reply⟩ :: rest := by
    rcases List.append_eq_append_iff.mp (split.symm.trans whole) with
      ⟨between, same, tail⟩ | ⟨between, same, tail⟩
    · cases between with
      | nil => exact List.cons.inj tail
      | cons first between =>
          obtain ⟨rfl, -⟩ := List.cons.inj tail
          exact absurd handsOut (nothing _ (by simp [same]) y)
    · cases between with
      | nil =>
          obtain ⟨rfl, rfl⟩ := List.cons.inj tail
          exact ⟨rfl, rfl⟩
      | cons first between =>
          have later_eq := (List.cons.inj tail).2
          have mem : exchange ∈ ⟨.store (.recordInstance key checkpoint), reply⟩ :: rest :=
            later_eq ▸ List.mem_append_right between (.head after)
          cases mem with
          | head => cases handsOut
          | tail _ mem => exact absurd handsOut (later _ mem y)
  obtain ⟨rfl, rfl⟩ := here
  exact ⟨handsOut.unique taken, checkpoint, names, rfl⟩

/-- In a pass that starts without a record, the request after an instance is handed out is to record
    it. When that fails the pass fails with the same failure, and has asked for nothing more than the
    release of the instance, and for that only when it is a physical machine. -/
theorem records_what_is_handed_out {options : Options} {transcript before after : Transcript}
    {result : Except Failure Instance} {exchange : Exchange Effect Effect.Answer} {x : String}
    (trace : Program.Trace (provision options key spec).run transcript result)
    (starts : ∀ saved rest, transcript = ⟨.store (.load key), .ok saved⟩ :: rest →
      saved.checkpoint = none)
    (split : transcript = before ++ exchange :: after)
    (handsOut : HandsOut (spec.hostname.getD key.name) x exchange.1 exchange.2) :
    ∃ checkpoint reply rest, checkpoint.instanceId = x ∧
      after = ⟨.store (.recordInstance key checkpoint), reply⟩ :: rest ∧
      ∀ fault, reply = .error fault → result = .error fault ∧
        (rest = [] ∨
          spec.mode = .bareMetal ∧ ∃ answer, rest = [⟨.maas (.release x false), answer⟩]) := by
  obtain ⟨ends, -⟩ := (starting_provision options key spec).trace trace (by
    intro before exchange after split same saved same'
    obtain rfl := same
    obtain rfl := same'
    exact starts saved after split)
  rw [List.nil_append] at ends
  have leaves : Leaves key spec result transcript := by
    cases result with
    | ok seen => exact ends
    | error failure => exact ends
  rcases leaves with empty | ⟨y, reply, rest, recorded, unrecorded⟩
  · exact absurd handsOut (empty exchange (by simp [split]) x)
  · obtain ⟨rfl, checkpoint, names, next⟩ := recorded.after split handsOut
    exact ⟨checkpoint, reply, rest, names, next, unrecorded⟩

/-- A ready machine. -/
def spare : Machine :=
  { systemId := "m1", hostname := "node-7", cpuCount := 8, memory := 65536, statusName := "Ready",
    powerState := "off" }

/-- A machine is ready, and the first record fails. -/
def unrecordable : World where
  region := Region.empty.after (.addMachine spare)
  storeFaults := Faults.plan .empty "record_instance" 0 (.persistence "conflict")
  clock := ⟨0, 0⟩

theorem records_what_is_handed_out_unrecordable :
    let turn := unrecordable.turn {} ⟨"metal", "worker-0"⟩ { minCpu := 1, minMemoryMib := 1 }
    turn.transcript.length = 4 ∧ turn.result = .error (.persistence "conflict") := by
  intro turn
  have split : turn.transcript = [⟨.store (.load ⟨"metal", "worker-0"⟩), .ok {}⟩] ++
      ⟨.maas (.allocate (allocation turn.spec)), .ok { spare with statusName := "Allocated" }⟩ ::
        [⟨.store (.recordInstance ⟨"metal", "worker-0"⟩ (.new "m1" none (some "node-7"))),
          .error (.persistence "conflict")⟩, ⟨.maas (.release "m1" false), .ok ()⟩] := by rfl
  have starts : ∀ saved rest, turn.transcript =
      ⟨.store (.load ⟨"metal", "worker-0"⟩), .ok saved⟩ :: rest → saved.checkpoint = none := by
    intro saved rest first
    rw [split] at first
    cases (List.cons.inj first).1
    rfl
  obtain ⟨checkpoint, reply, rest, -, next, unrecorded⟩ := records_what_is_handed_out
    (Program.trace_exchanges World.answer _ unrecordable) starts split ⟨rfl, rfl⟩
  cases (List.cons.inj next).1
  exact ⟨congrArg List.length split, (unrecorded _ rfl).1⟩

end MachineProvisioning.Engine
