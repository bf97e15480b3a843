import MachineProvisioning.Proofs.Engine.Runs
import MachineProvisioning.Proofs.Program.Requests
import MachineProvisioning.Proofs.Region.Machines
import MachineProvisioning.World

/-! # What a world answers

A world answers as its region and its memory do, or with a planned fault that changes neither. So
machines are answered about under their ids, and what is recorded changes by writes only.
-/

namespace MachineProvisioning

open Resource (Key)
open Store (Checkpoint Saved)
open Engine (Effect Transcript Carries Records Reads recordAfter records_recordAfter)

namespace Store.Memory

theorem entry_modify (memory : Memory) (key other : Key) (f : Entry → Entry) :
    (memory.modify key f).entry other =
      if key = other then f (memory.entry key) else memory.entry other := by
  unfold modify entry
  dsimp only
  rw [Table.get?_insert]
  split <;> rfl

@[simp] theorem checkpoint?_modifySaved (memory : Memory) (key other : Key) (f : Saved → Saved) :
    (memory.modifySaved key f).checkpoint? other =
      if key = other then (f (memory.entry key).saved).checkpoint else memory.checkpoint? other := by
  unfold checkpoint? modifySaved
  rw [entry_modify]
  split <;> rfl

theorem checkpoint?_answer (memory : Memory) (key : Key) (call : Store.Call) :
    (memory.answer call).2.checkpoint? key =
      recordAfter key (memory.checkpoint? key) (.store call) (memory.answer call).1 := by
  cases call with
  | load k => rfl
  | recordInstance k checkpoint =>
      unfold answer
      split
      · rfl
      · exact checkpoint?_modifySaved memory k key _
  | clearInstance k => exact checkpoint?_modifySaved memory k key _
  | annotate k name value =>
      change (memory.modifySaved k _).checkpoint? key = memory.checkpoint? key
      rw [checkpoint?_modifySaved]
      split
      · next same => rw [same]; rfl
      · rfl
  | publishStatus k status =>
      change (memory.modifySaved k fun s => { s with status := some status }).checkpoint? key =
        memory.checkpoint? key
      rw [checkpoint?_modifySaved]
      split
      · next same => rw [same]; rfl
      · rfl
  | listStaticIps namespace_ =>
      change (memory.answer (.listStaticIps namespace_)).2.checkpoint? key = memory.checkpoint? key
      simp only [answer]
      split <;> rfl

theorem reads_answer (memory : Memory) (key : Key) (call : Store.Call) :
    Reads key (memory.checkpoint? key) (.store call) (memory.answer call).1 := by
  intro saved same
  cases call with
  | load k =>
      cases same
      rfl
  | _ => cases same

end Store.Memory

namespace Region

/-- An answer about a machine carries the machine. -/
theorem carries_answer {region : Region} (keyed : region.Keyed) (x : String) (call : Maas.Call) :
    Carries x (.maas call) (region.answer call).1 := by
  have answers := answer_conforms region call
  unfold Conforms at answers
  generalize reply_eq : (region.answer call).1 = reply at answers ⊢
  cases reply with
  | error error => cases call <;> trivial
  | ok shown =>
      cases call with
      | getMachine y =>
          intro same
          cases found : region.inventory.machine y with
          | error error => simp [answer, getMachine, found, Except.map] at reply_eq
          | ok machine =>
              have shows : region.inventory.withInterfaces machine = shown := by
                simpa [answer, getMachine, found, Except.map] using reply_eq
              rw [← shows, ← same]
              exact (keyed.machine found : machine.systemId = y)
      | allocate params =>
          obtain ⟨_, ⟨machine, found, rfl⟩, tells, -⟩ := answers.of_stores trivial
          intro given
          have own : machine.systemId = x := keyed.candidate given found
          exact tells.trans own
      | setSwapSize y bytes =>
          obtain ⟨_, ⟨machine, found, rfl⟩, tells, -⟩ := answers.of_stores trivial
          exact fun same => tells.trans ((keyed y machine found).trans same)
      | setHostname y hostname =>
          obtain ⟨_, ⟨machine, found, rfl⟩, tells, -⟩ := answers.of_stores trivial
          exact fun same => tells.trans ((keyed y machine found).trans same)
      | deploy y params =>
          obtain ⟨_, ⟨machine, found, -, rfl⟩, tells, -⟩ := answers.of_stores trivial
          exact fun same => tells.trans ((keyed y machine found).trans same)
      | powerOn y =>
          obtain ⟨_, ⟨machine, found, rfl⟩, tells, -⟩ := answers.of_stores trivial
          exact fun same => tells.trans ((keyed y machine found).trans same)
      | _ => trivial

end Region

namespace World

/-- A MAAS call meets a fault or is answered by the region, and touches nothing recorded. -/
theorem answerMaas_cases (world : World) (call : Maas.Call) :
    (world.answerMaas call).2.memory = world.memory ∧
      ((∃ error, (world.answerMaas call).1 = .error error ∧
        (world.answerMaas call).2.region = world.region) ∨
      ((world.answerMaas call).1 = (world.region.answer call).1 ∧
        (world.answerMaas call).2.region = (world.region.answer call).2)) := by
  unfold answerMaas
  split
  dsimp only
  split
  · exact ⟨rfl, .inl ⟨_, rfl, rfl⟩⟩
  · exact ⟨rfl, .inr ⟨rfl, rfl⟩⟩

/-- A store call meets a fault or is answered by the memory, and touches no machine. -/
theorem answerStore_cases (world : World) (call : Store.Call) :
    (world.answerStore call).2.region = world.region ∧
      ((∃ fault, (world.answerStore call).1 = .error fault ∧
        (world.answerStore call).2.memory = world.memory) ∨
      ((world.answerStore call).1 = (world.memory.answer call).1 ∧
        (world.answerStore call).2.memory = (world.memory.answer call).2)) := by
  unfold answerStore
  split
  dsimp only
  split
  · exact ⟨rfl, .inl ⟨_, rfl, rfl⟩⟩
  · exact ⟨rfl, .inr ⟨rfl, rfl⟩⟩

/-- What is recorded of a machine changes with writes that succeed. -/
theorem checkpoint?_answer (world : World) (key : Key) (effect : Effect) :
    (world.answer effect).2.memory.checkpoint? key =
      recordAfter key (world.memory.checkpoint? key) effect (world.answer effect).1 := by
  cases effect with
  | maas call =>
      change (world.answerMaas call).2.memory.checkpoint? key = world.memory.checkpoint? key
      rw [(world.answerMaas_cases call).1]
  | store call =>
      change (world.answerStore call).2.memory.checkpoint? key =
        recordAfter key _ (.store call) (world.answerStore call).1
      obtain ⟨-, ⟨fault, reply, memory⟩ | ⟨reply, memory⟩⟩ := world.answerStore_cases call
      · rw [reply, memory]
        cases call <;> rfl
      · rw [reply, memory]
        exact world.memory.checkpoint?_answer key call
  | clock => rfl
  | count event => rfl

theorem checkpoint?_answered {world after : World} (effect : Effect) {reply : effect.Answer}
    (answers : (reply, after) = world.answer effect) (key : Key) :
    after.memory.checkpoint? key = recordAfter key (world.memory.checkpoint? key) effect reply := by
  have recorded := world.checkpoint?_answer key effect
  rwa [← answers] at recorded

/-- A read gives what is recorded. -/
theorem reads_answer (world : World) (key : Key) (effect : Effect) :
    Reads key (world.memory.checkpoint? key) effect (world.answer effect).1 := by
  cases effect with
  | store call =>
      change Reads key _ (.store call) (world.answerStore call).1
      obtain ⟨-, ⟨fault, reply, -⟩ | ⟨reply, -⟩⟩ := world.answerStore_cases call
      · rw [reply]
        intro saved same
        cases call <;> cases same
      · rw [reply]
        exact world.memory.reads_answer key call
  | _ =>
      intro saved same
      cases same

/-- What is loaded has the record that the world has. -/
theorem checkpoint_loaded {world after : World} {key : Key} {saved : Saved}
    (answers : (.ok saved, after) = world.answer (.store (.load key))) :
    saved.checkpoint = world.memory.checkpoint? key := by
  have reads := world.reads_answer key (.store (.load key))
  rw [← answers] at reads
  exact reads saved rfl

/-- What is recorded of a machine changes as requests read and write it. -/
theorem records_answer (world : World) (key : Key) (effect : Effect) :
    Records key (world.memory.checkpoint? key) effect (world.answer effect).1
      ((world.answer effect).2.memory.checkpoint? key) := by
  rw [world.checkpoint?_answer key effect]
  exact records_recordAfter (world.reads_answer key effect)

/-- Machines stay stored under their ids, and are answered about under them. -/
theorem carries_answer (x : String) (effect : Effect) (world : World) (keyed : world.region.Keyed) :
    Carries x effect (world.answer effect).1 ∧ (world.answer effect).2.region.Keyed := by
  cases effect with
  | maas call =>
      change Carries x (.maas call) (world.answerMaas call).1 ∧
        (world.answerMaas call).2.region.Keyed
      obtain ⟨-, ⟨error, reply, region⟩ | ⟨reply, region⟩⟩ := world.answerMaas_cases call
      · rw [reply, region]
        exact ⟨by cases call <;> trivial, keyed⟩
      · rw [reply, region]
        exact ⟨Region.carries_answer keyed x call, keyed.preserved (Region.answer_conforms _ call)⟩
  | store call =>
      change Carries x (.store call) (world.answerStore call).1 ∧
        (world.answerStore call).2.region.Keyed
      rw [(world.answerStore_cases call).1]
      exact ⟨trivial, keyed⟩
  | clock => exact ⟨trivial, keyed⟩
  | count event => exact ⟨trivial, keyed⟩

/-- The exchanges of a pass with the world. -/
def exchanges {α : Type} (world : World) (pass : Engine.Pass α) : Transcript :=
  pass.run.exchanges World.answer world

section

variable {α : Type} {world : World} {pass : Engine.Pass α} {proper : World → Effect → Prop}
  {ok : α → World → Prop} {err : Failure → World → Prop}

/-- What a pass that keeps to proper requests ends with, and what it asks for. -/
theorem pass_of_attending (ensures : pass.Ensures (.attending World.answer proper) ok err world) :
    Engine.Pass.either ok err (world.pass pass).1 (world.pass pass).2 ∧
      ∀ request ∈ pass.run.requests World.answer world, proper request.1 request.2 := by
  unfold Engine.Pass.Ensures at ensures
  exact ⟨ensures.attend, ensures.requests⟩

/-- Where a world answers, a pass ends as its run does. -/
theorem ensures_determined (ensures : pass.Ensures (.attending World.answer proper) ok err world) :
    pass.Ensures (.attending World.answer proper)
      (fun value after => ok value after ∧ world.pass pass = (.ok value, after))
      (fun failure after => err failure after ∧ world.pass pass = (.error failure, after)) world := by
  unfold Engine.Pass.Ensures at ensures ⊢
  refine (Program.Keeps.determined ensures).mono fun result after ended => ?_
  cases result with
  | ok value => exact ended
  | error failure => exact ended

end

/-- A pass over a machine as a turn of a run. -/
def turn (world : World) (options : Engine.Options) (key : Key) (spec : Resource.Spec) :
    Engine.Turn where
  options
  spec
  before := world.memory.checkpoint? key
  transcript := world.exchanges (Engine.provision options key spec)
  result := (world.pass (Engine.provision options key spec)).1
  after := (world.pass (Engine.provision options key spec)).2.memory.checkpoint? key

theorem isRun_turn (world : World) (options : Engine.Options) (key : Key) (spec : Resource.Spec) :
    Engine.IsRun key (world.memory.checkpoint? key) [world.turn options key spec] :=
  ⟨rfl, Program.trace_exchanges _ _ _,
    Program.follows_exchanges (fun world : World => world.memory.checkpoint? key)
      (fun effect world => world.records_answer key effect) _ _, trivial⟩

theorem carries_exchanges {α : Type} (world : World) (pass : Engine.Pass α) (x : String)
    (keyed : world.region.Keyed) :
    (∀ exchange ∈ world.exchanges pass, Carries x exchange.1 exchange.2) ∧
      (world.pass pass).2.region.Keyed :=
  Program.exchanges_invariant (fun world : World => world.region.Keyed)
    (fun exchange => Carries x exchange.1 exchange.2)
    (fun effect world keyed => world.carries_answer x effect keyed) _ world keyed

end World

end MachineProvisioning
