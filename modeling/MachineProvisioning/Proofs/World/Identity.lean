import MachineProvisioning.Proofs.Region.Hosts
import MachineProvisioning.Proofs.Text.Numeral
import MachineProvisioning.Proofs.World.Namesakes

/-! # Whose identity is recorded

The record of a physical machine is made from what MAAS shows of it. That of a virtual machine is made
from the VM host that the pass has chosen, whether the machine was composed there or is adopted from
an earlier pass. So it is the identity of the machine exactly when the machine sits on that host.
-/

namespace MachineProvisioning

open Resource (Key Spec)
open Store (Checkpoint)
open Lifecycle (Instance)
open Maas (Machine VmHost)
open Region (Stores Alters)
open Engine

namespace World

/-- What an annotation of a declared machine says. -/
def annotation? (world : World) (key : Key) (name : String) : Option String :=
  (world.memory.entry key).saved.annotations.get? name

/-- What is recorded of an instance is what the instance shows: its zone, and the identifier that is
    published for it. -/
structure Own (checkpoint : Checkpoint) (seen : Instance) : Prop where
  zone : checkpoint.failureDomain = seen.zone
  provider : checkpoint.providerId = Store.providerId seen.zone seen.systemId

/-- The annotation names the VM host that the machine sits on. -/
def Annotated (world : World) (key : Key) (machine : Machine) : Prop :=
  world.annotation? key vmHostAnnotationName =
    machine.pod.map fun pod => Text.decimal pod.id.toNat

/-- The machine sits on the VM host, and in its zone. -/
def Sits (host : VmHost) (machine : Machine) : Prop :=
  machine.pod.map (·.id) = some host.id ∧ machine.zone.map (·.name) = host.zone.map (·.name)

/-- The VM host that has been chosen since the start: it is annotated, and a composition on it has been
    asked for. -/
structure Chosen (start world : World) (key : Key) (host : VmHost) : Prop where
  known : world.region.inventory.hosts.get? host.id = some host
  annotated : world.annotation? key vmHostAnnotationName = some (Text.decimal host.id.toNat)
  asked : ∃ made params, world.log = made ++ start.log ∧ Effect.maas (.compose host.id params) ∈ made

/-- The checkpoint is one of a machine of the region. It has the identity of a physical machine that is
    in a zone, and that of a virtual machine exactly when the machine sits on the chosen host, as one
    does that was not there at the start. -/
def Identifies (start : World) (key : Key) (spec : Spec) (checkpoint : Checkpoint) (world : World) :
    Prop :=
  ∃ machine, world.region.inventory.machines.get? checkpoint.instanceId = some machine ∧
    match spec.mode with
    | .bareMetal => machine.zone.isSome → Own checkpoint (.ofMachine machine)
    | .virtualized => ∃ host, Chosen start world key host ∧
        (Own checkpoint (.ofMachine machine) ∧ world.Annotated key machine ↔ Sits host machine) ∧
        (start.region.inventory.machines.get? checkpoint.instanceId = none → Sits host machine)

/-- Only checkpoints of which this holds are recorded. -/
def recording (key : Key) (good : Checkpoint → World → Prop) : Discipline World :=
  .attending World.answer fun world effect => ∀ k checkpoint,
    effect = .store (.recordInstance k checkpoint) → k = key ∧ good checkpoint world

variable {start world after : World} {key : Key} {spec : Spec} {options : Options} {x : String}
  {host : VmHost} {good : Checkpoint → World → Prop}

/-- The request records nothing. -/
def Forgoes : Effect → Prop
  | .store (.recordInstance _ _) => False
  | _ => True

theorem recording_tolerates_forgoes : (recording key good).Tolerates (fun _ => True) Forgoes := by
  refine fun world effect _ forgoes => ⟨?_, fun _ _ _ => trivial⟩
  rintro k checkpoint rfl
  cases forgoes

/-- Nothing else is refused. -/
theorem allowed_forgoing (effect : Effect) (forgoes : Forgoes effect) :
    (recording key good).allows world effect :=
  (recording_tolerates_forgoes world effect trivial forgoes).1

theorem Forgoes.of_routine {effect : Effect} (routine : Routine effect) : Forgoes effect := by
  unfold Forgoes
  split
  · obtain surveys | ⟨x, name, tends⟩ | ⟨key, x, recovers⟩ := routine <;> contradiction
  · trivial

theorem Forgoes.of_concludes {effect : Effect} (concludes : Concludes effect) : Forgoes effect := by
  unfold Concludes at concludes
  split at concludes
  all_goals trivial

theorem recording_tolerates_routine : (recording key good).Tolerates (fun _ => True) Routine :=
  recording_tolerates_forgoes.mono fun _ => .of_routine

theorem recording_sustains {hostname : String} :
    Sustains (recording key good) (fun _ => True) key (fun _ => True) hostname
      (fun _ _ => True) where
  tends x _ := recording_tolerates_routine.mono fun _ tends => .inr (.inl ⟨x, hostname, tends⟩)
  fails _ _ _ _ := trivial
  reallocates x _ _ _ := allowed_forgoing (.maas (.allocate { systemId := some x })) trivial
  reallocated _ _ _ _ _ _ _ := ⟨trivial, trivial⟩
  deployed _ _ _ _ _ _ _ _ := trivial
  poweredOn _ _ _ _ _ _ _ := trivial
  recovers _ _ _ _ _ _ _ _ _ _ _ _ :=
    routine_failWith recording_tolerates_routine (fun _ _ _ => trivial) trivial

theorem recording_recoverBroken {α : Type} {ok : α → World → Prop} (x : String)
    (hostId : Option String) :
    (recoverBroken key x hostId : Pass α).Ensures (recording key good) ok (fun _ _ => True) world :=
  routine_recoverBroken recording_tolerates_routine (fun _ _ _ => trivial) x hostId trivial

theorem recording_release (x : String) :
    (release key x).Ensures (recording key good) (fun _ => Closes fun _ _ => True)
      (fun _ _ => True) world :=
  routine_release recording_tolerates_routine (fun _ _ _ => trivial) x trivial

theorem recording_resume (checkpoint : Checkpoint) :
    (resume options key spec checkpoint).Ensures (recording key good) (fun _ _ => True)
      (fun _ _ => True) world := by
  refine (recording_sustains.resume options rfl ?_).mono (fun _ _ _ => trivial) fun _ _ kept => kept
  exact
    { allowed := allowed_forgoing (.maas (.getMachine checkpoint.instanceId)) trivial
      seen := fun _ _ _ => ⟨trivial, trivial⟩
      broken := fun machine _ _ _ hostId _ => recording_recoverBroken machine.systemId hostId
      failed := fun machine _ _ _ => recording_release machine.systemId
      gone := fun _ _ _ => Pass.ensures_store.mpr
        ⟨allowed_forgoing (.store (.clearInstance key)) trivial, fun _ _ _ _ _ => trivial,
          fun _ _ _ => trivial⟩
      refused := fun _ _ _ _ _ => trivial }

theorem recording_continueBareMetal (machine : Machine) :
    (continueBareMetal options key spec machine).Ensures (recording key good) (fun _ _ => True)
      (fun _ _ => True) world :=
  (recording_sustains.continueBareMetal options trivial rfl trivial
    (fun _ hostId _ => recording_recoverBroken machine.systemId hostId)
    fun _ => recording_release machine.systemId).mono (fun _ _ _ => trivial) fun _ _ kept => kept

theorem recording_tagAndContinue (machine : Machine) :
    (do continueVirtual options key spec (← ensureTags machine spec.tags)).Ensures
      (recording key good) (fun _ _ => True) (fun _ _ => True) world := by
  have sustains : Sustains (recording key good) (fun _ => True) key (fun _ => True)
      (spec.hostname.getD key.name) (fun _ _ => True) := recording_sustains
  exact (sustains.tagAndContinue options trivial trivial
    (fun _ _ _ hostId _ => recording_recoverBroken machine.systemId hostId)
    fun _ _ _ => recording_release machine.systemId).mono (fun _ _ _ => trivial) fun _ _ kept => kept

/-- The machines and VM hosts are those of the start. -/
structure Since (start world : World) : Prop where
  machines : world.region.inventory.machines = start.region.inventory.machines
  hosts : world.region.inventory.hosts = start.region.inventory.hosts
  log : ∃ made, world.log = made ++ start.log

theorem Since.refl (world : World) : Since world world := ⟨rfl, rfl, [], rfl⟩

theorem log_answerMaas {call : Maas.Call} {reply : call.Reply}
    (answers : (reply, after) = world.answer (.maas call)) : after.log = .maas call :: world.log := by
  change (reply, after) = world.answerMaas call at answers
  unfold answerMaas at answers
  dsimp only at answers
  split at answers <;> cases answers <;> rfl

theorem log_answerStore {call : Store.Call} {reply : call.Reply}
    (answers : (reply, after) = world.answer (.store call)) :
    after.log = .store call :: world.log := by
  change (reply, after) = world.answerStore call at answers
  unfold answerStore at answers
  dsimp only at answers
  split at answers <;> cases answers <;> rfl

theorem hosts_answerMaas {call : Maas.Call} {reply : call.Reply}
    (answers : (reply, after) = world.answer (.maas call)) :
    after.region.inventory.hosts = world.region.inventory.hosts := by
  rcases region_answerMaas answers with ⟨-, -, same⟩ | answered
  · rw [same]
  · have kept := (world.region.leaves_answer call).hosts
    rw [answered] at kept
    exact kept

/-- A call that stores no machine, or fails, leaves the machines alone. -/
theorem machines_answerMaas {call : Maas.Call} {reply : call.Reply}
    (answers : (reply, after) = world.answer (.maas call))
    (quiet : ¬Stores call ∨ ∃ error, reply = .error error) :
    after.region.inventory.machines = world.region.inventory.machines := by
  rcases region_answerMaas answers with ⟨-, -, same⟩ | answered
  · rw [same]
  · have conforms := world.region.answer_conforms call
    unfold Region.Conforms at conforms
    rw [answered] at conforms
    cases conforms with
    | refused same => exact same
    | quiet _ same => exact same
    | stored machine alters =>
        rcases quiet with silent | ⟨error, replies⟩
        · exact absurd alters.stores silent
        · cases replies

theorem Since.answeredMaas {call : Maas.Call} {reply : call.Reply} (since : Since start world)
    (answers : (reply, after) = world.answer (.maas call))
    (quiet : ¬Stores call ∨ ∃ error, reply = .error error) : Since start after := by
  obtain ⟨made, log⟩ := since.log
  refine ⟨(machines_answerMaas answers quiet).trans since.machines,
    (hosts_answerMaas answers).trans since.hosts, .maas call :: made, ?_⟩
  rw [log_answerMaas answers, log]
  rfl

theorem Since.answeredStore {call : Store.Call} {reply : call.Reply} (since : Since start world)
    (answers : (reply, after) = world.answer (.store call)) : Since start after := by
  obtain ⟨made, log⟩ := since.log
  have same := region_answerStore answers
  refine ⟨?_, ?_, .store call :: made, ?_⟩
  · rw [same]
    exact since.machines
  · rw [same]
    exact since.hosts
  · rw [log_answerStore answers, log]
    rfl

theorem recording_tolerates_surveys :
    (recording key good).Tolerates (Since start) Surveys := by
  intro world effect since surveys
  refine ⟨(recording_tolerates_routine world effect trivial (.inl surveys)).1,
    fun reply after answers => ?_⟩
  cases effect with
  | maas call =>
      refine since.answeredMaas answers (.inl ?_)
      cases call <;> first | exact id | cases surveys
  | store call => exact since.answeredStore answers
  | clock => cases surveys
  | count event => cases surveys

theorem recording_surveyed {α : Type} {p : Pass α} (spares : p.Spares Surveys)
    (since : Since start world) :
    p.Ensures (recording key good) (fun _ => Since start) (fun _ _ => True) world :=
  (spares.ensures recording_tolerates_surveys since).mono (fun _ _ kept => kept) fun _ _ _ => trivial

theorem Since.lawful (since : Since start world) (lawful : start.region.Lawful) :
    world.region.Lawful := lawful.congr since.machines

/-! ## Physical machines -/

/-- The instance as it is shown is a machine of the region. -/
def Shown (shown : Machine) (world : World) : Prop :=
  ∃ machine, world.region.inventory.machines.get? shown.systemId = some machine ∧
    Instance.ofMachine machine = .ofMachine shown

/-- An allocation shows the machine that it stores. -/
theorem shown_allocated {params : Maas.AllocateParams} {shown : Machine}
    (answers : (.ok shown, after) = world.answer (.maas (.allocate params))) :
    Shown shown after := by
  have answered := region_of_ok (.allocate params) answers
  change world.region.allocate params = _ at answered
  unfold Region.allocate at answered
  extract_lets counted at answered
  split at answered
  · cases answered
  · split at answered
    · cases answered
    · next candidate _ =>
        obtain ⟨shows, stores⟩ := Prod.mk.inj answered
        obtain rfl := Except.ok.inj shows
        refine ⟨{ candidate with statusName := "Allocated" }, ?_, rfl⟩
        rw [← stores]
        exact (Table.get?_insert _ _ _ _).trans (if_pos rfl)

theorem recording_allocateDeclared :
    (allocateDeclared key spec).Ensures (recording key good) Shown (fun _ _ => True) world := by
  unfold allocateDeclared
  extract_lets params
  refine Pass.ensures_bind.mpr (Pass.ensures_tryMaas.mpr
    ⟨allowed_forgoing (.maas (.allocate params)) trivial, fun reply after answers => ?_⟩)
  cases reply with
  | ok shown => exact Pass.ensures_pure.mpr (shown_allocated answers)
  | error error =>
      simp only
      split
      · exact Pass.ensures_throw.mpr trivial
      · exact routine_failWith recording_tolerates_routine (fun _ _ _ => trivial) trivial

/-- What is recorded of a physical machine in a zone is what has been shown of it. -/
theorem identifies_shown {shown : Machine} {hostname : Option String}
    (physical : spec.mode = .bareMetal) (known : Shown shown world) :
    Identifies start key spec
      (.new shown.systemId ((shown.zone.map (·.name)).or spec.failureDomain) hostname) world := by
  obtain ⟨machine, found, same⟩ := known
  refine ⟨machine, found, ?_⟩
  rw [physical, same]
  intro placed
  have zone : machine.zone.map (·.name) = shown.zone.map (·.name) := congrArg Instance.zone same
  have known : (shown.zone.map (·.name)).or spec.failureDomain = shown.zone.map (·.name) := by
    rw [← zone]
    exact Option.or_of_isSome (by simpa using placed)
  exact ⟨known, congrArg (Store.providerId · shown.systemId) known⟩

theorem recording_recordAllocated {shown : Machine} (physical : spec.mode = .bareMetal)
    (known : Shown shown world) :
    (recordAllocated key spec shown).Ensures (recording key (Identifies start key spec))
      (fun _ _ => True) (fun _ _ => True) world := by
  unfold recordAllocated
  extract_lets zone checkpoint
  refine Pass.ensures_bind.mpr (Pass.ensures_tryStore.mpr ⟨?_, fun reply after _ => ?_⟩)
  · rintro k other ⟨⟩
    exact ⟨rfl, identifies_shown physical known⟩
  · cases reply with
    | ok value =>
        exact Pass.ensures_count.mpr ⟨allowed_forgoing (.count (.allocated .bareMetal)) trivial,
          fun _ _ _ => trivial⟩
    | error fault =>
        refine Pass.ensures_bind.mpr (Pass.ensures_discard.mpr (Pass.ensures_tryMaas.mpr ⟨?_, ?_⟩))
        · exact allowed_forgoing (.maas (.release shown.systemId false)) trivial
        · exact fun _ _ _ => Pass.ensures_throw.mpr trivial

theorem recording_allocateBareMetal (physical : spec.mode = .bareMetal) :
    (allocateBareMetal options key spec).Ensures (recording key (Identifies start key spec))
      (fun _ _ => True) (fun _ _ => True) world := by
  unfold allocateBareMetal
  extract_lets allocates
  have goes : ∀ world : World, (allocates ()).Ensures (recording key (Identifies start key spec))
      (fun _ _ => True) (fun _ _ => True) world := fun world =>
    recording_allocateDeclared.bind fun shown _ known =>
      (recording_recordAllocated physical known).bind fun _ _ _ =>
        recording_continueBareMetal shown
  cases spec.staticIp with
  | none => exact goes world
  | some staticIp =>
      have validates : (discard (validated key staticIp)).Spares Routine :=
        .discard (spares_validated (.inl trivial))
      exact (validates.asks.ensures recording_tolerates_routine trivial).bind fun _ world _ => goes world

/-! ## Virtual machines -/

/-- A machine has been taken for the chosen host. -/
structure Obtained (start : World) (key : Key) (host : VmHost) (x : String) (world : World) :
    Prop where
  chosen : Chosen start world key host
  machine : ∃ machine, world.region.inventory.machines.get? x = some machine ∧
    machine.systemId = x ∧
      (start.region.inventory.machines.get? x = none → Sits host machine)

/-- What is recorded of a virtual machine is taken from the chosen host. -/
theorem Obtained.identifies {hostname : Option String} (virtual : spec.mode = .virtualized)
    (obtained : Obtained start key host x world) :
    Identifies start key spec (.new x (host.zone.map (·.name)) hostname) world := by
  obtain ⟨chosen, machine, found, own, fresh⟩ := obtained
  refine ⟨machine, found, ?_⟩
  rw [virtual]
  refine ⟨host, chosen, ⟨fun same => ?_, fun sits => ?_⟩, fresh⟩
  · obtain ⟨⟨zone, -⟩, annotated⟩ := same
    refine ⟨?_, zone.symm⟩
    rw [Annotated, chosen.annotated] at annotated
    obtain ⟨pod, sits, same⟩ := Option.map_eq_some_iff.mp annotated.symm
    rw [sits]
    exact congrArg some (UInt64.toNat_inj.mp (Text.decimal_injective same))
  · obtain ⟨sits, zone⟩ := sits
    have known : host.zone.map (·.name) = (Instance.ofMachine machine).zone := zone.symm
    refine ⟨⟨known, ?_⟩, ?_⟩
    · rw [known]
      exact congrArg (Store.providerId _) own.symm
    · obtain ⟨pod, is, same⟩ := Option.map_eq_some_iff.mp sits
      rw [Annotated, chosen.annotated, is, ← same]
      rfl

/-- The annotation has been written. -/
theorem annotation?_annotated {name value : String} {done : Unit}
    (answers : (.ok done, after) = world.answer (.store (.annotate key name value))) :
    after.annotation? key name = some value := by
  change (.ok done, after) = world.answerStore (.annotate key name value) at answers
  obtain ⟨-, ⟨fault, reply, -⟩ | ⟨-, memory⟩⟩ := world.answerStore_cases (.annotate key name value)
  · rw [← answers] at reply
    cases reply
  · rw [← answers] at memory
    dsimp only at memory
    unfold annotation?
    rw [memory]
    change ((world.memory.modify key _).entry key).saved.annotations.get? name = some value
    rw [Store.Memory.entry_modify, if_pos rfl]
    exact (Table.get?_insert _ _ _ _).trans (if_pos rfl)

theorem annotation?_answerMaas {call : Maas.Call} {reply : call.Reply} {name : String}
    (answers : (reply, after) = world.answer (.maas call)) :
    after.annotation? key name = world.annotation? key name := by
  have memory := (world.answerMaas_cases call).1
  change (reply, after) = world.answerMaas call at answers
  rw [← answers] at memory
  unfold annotation?
  rw [memory]

/-- Choosing a host lasts over calls of MAAS. -/
theorem Chosen.answeredMaas {call : Maas.Call} {reply : call.Reply}
    (chosen : Chosen start world key host)
    (answers : (reply, after) = world.answer (.maas call)) : Chosen start after key host := by
  obtain ⟨made, params, log, asked⟩ := chosen.asked
  refine ⟨?_, (annotation?_answerMaas answers).trans chosen.annotated,
    .maas call :: made, params, ?_, .tail _ asked⟩
  · rw [hosts_answerMaas answers]
    exact chosen.known
  · rw [log_answerMaas answers, log]
    rfl

/-- Nothing has been taken, and the host to compose on is annotated. -/
structure Poised (start : World) (key : Key) (host : VmHost) (world : World) : Prop where
  since : Since start world
  known : start.region.inventory.hosts.get? host.id = some host
  annotated : world.annotation? key vmHostAnnotationName = some (Text.decimal host.id.toNat)

theorem Poised.chosen {params : Maas.ComposeParams}
    {reply : (Maas.Call.compose host.id params).Reply} (poised : Poised start key host world)
    (answers : (reply, after) = world.answer (.maas (.compose host.id params))) :
    Chosen start after key host := by
  obtain ⟨made, log⟩ := poised.since.log
  refine ⟨?_, (annotation?_answerMaas answers).trans poised.annotated,
    .maas (.compose host.id params) :: made, params, ?_, .head _⟩
  · rw [hosts_answerMaas answers, poised.since.hosts]
    exact poised.known
  · rw [log_answerMaas answers, log]
    rfl

/-- A composed machine sits on its host. -/
theorem Poised.composed {params : Maas.ComposeParams} {vm : Maas.ComposedVm}
    (poised : Poised start key host world)
    (answers : (.ok vm, after) = world.answer (.maas (.compose host.id params))) :
    Obtained start key host vm.systemId after := by
  obtain ⟨stored, alters, tells, known⟩ := stored_of_ok (.compose host.id params) trivial answers
  obtain ⟨composer, found, -, rfl⟩ := alters
  rw [poised.since.hosts, poised.known] at found
  obtain rfl := Option.some.inj found
  have own : vm.systemId = Region.composedId world.region.nextId := tells
  refine ⟨poised.chosen answers, Region.composedMachine vm.systemId host params, ?_, rfl, ?_⟩
  · rw [own]
    exact known
  · exact fun _ => ⟨rfl, rfl⟩

/-- A machine that is found in a listing was there at the start. -/
theorem Since.adopted {shown : Machine} {p : Machine → Bool} {hostname : String}
    (lawful : start.region.Lawful) (since : Since start world) (chosen : Chosen start world key host)
    (found : ((world.region.inventory.machines.values.filter p).map
      world.region.inventory.withInterfaces).find? (Wiring.hostnameMatches · hostname) =
        some shown) : Obtained start key host shown.systemId world := by
  have lawful := since.lawful lawful
  obtain ⟨machine, known, -⟩ := lawful.listed found
  refine ⟨chosen, machine, known, lawful.keyed _ machine known, fun missing => ?_⟩
  rw [since.machines, missing] at known
  cases known

theorem recording_findByHostname {hostname : String} (lawful : start.region.Lawful)
    (since : Since start world) (chosen : Chosen start world key host) :
    (findByHostname hostname host.id host.name).Ensures (recording key good)
      (fun found after => ∀ machine ∈ found, Obtained start key host machine.systemId after)
      (fun _ _ => True) world := by
  refine Pass.ensures_bind.mpr (Pass.ensures_maas.mpr ⟨?_, ?_, fun _ _ _ => trivial⟩)
  · exact allowed_forgoing (.maas (.listMachines [("hostname", hostname)])) trivial
  · intro machines everywhere answers
    have kept : Since start everywhere := since.answeredMaas answers (.inl id)
    have chosen := chosen.answeredMaas answers
    obtain ⟨listed, same⟩ := Prod.mk.inj (region_of_ok (.listMachines [("hostname", hostname)]) answers)
    rw [same] at listed
    split
    · next machine found =>
        refine Pass.ensures_pure.mpr ?_
        rintro _ ⟨⟩
        rw [← Except.ok.inj listed] at found
        exact kept.adopted lawful chosen found
    · refine Pass.ensures_bind.mpr (Pass.ensures_maas.mpr ⟨?_, ?_, fun _ _ _ => trivial⟩)
      · exact allowed_forgoing (.maas (.listHostVms host.id)) trivial
      · intro machines onHost answers
        have last : Since start onHost := kept.answeredMaas answers (.inl id)
        have answered := region_of_ok (.listHostVms host.id) answers
        change Region.listHostVms host.id everywhere.region = _ at answered
        unfold Region.listHostVms at answered
        dsimp only at answered
        split at answered
        · cases answered
        · obtain ⟨listed, same⟩ := Prod.mk.inj answered
          rw [same] at listed
          refine Pass.ensures_pure.mpr fun machine found => ?_
          rw [← Except.ok.inj listed] at found
          exact last.adopted lawful (chosen.answeredMaas answers) found

theorem recording_composeOrAdopt {pool : Maas.NamedRef} {networks : List String}
    {params : Maas.ComposeParams} (lawful : start.region.Lawful)
    (poised : Poised start key host world) :
    (composeOrAdopt key host pool networks params).Ensures (recording key good)
      (fun obtained => Obtained start key host obtained.1) (fun _ _ => True) world := by
  refine Pass.ensures_bind.mpr (Pass.ensures_tryMaas.mpr ⟨?_, fun reply after answers => ?_⟩)
  · exact allowed_forgoing (.maas (.compose host.id params)) trivial
  · cases reply with
    | ok vm => exact Pass.ensures_pure.mpr (poised.composed answers)
    | error error =>
        have since := poised.since.answeredMaas answers (.inr ⟨error, rfl⟩)
        simp only
        split
        · refine (recording_findByHostname lawful since (poised.chosen answers)).bind ?_
          intro found world obtained
          cases found with
          | some machine => exact Pass.ensures_pure.mpr (obtained machine rfl)
          | none => exact Pass.ensures_throw.mpr trivial
        · exact Pass.ensures_throw.mpr trivial
        · exact routine_failWith recording_tolerates_routine (fun _ _ _ => trivial) trivial
        · exact Pass.ensures_throw.mpr trivial

/-- The host that is chosen is one of the region. -/
theorem recording_place {shape : Resource.VirtualizedSpec} {hosts : List VmHost}
    (since : Since start world) :
    (place options.placement spec shape hosts).Ensures (recording key good)
      (fun host after => host ∈ hosts ∧ Since start after) (fun _ _ => True) world :=
  (recording_surveyed (spares_place shape hosts) since).and_ends (ends_place shape hosts)

theorem recording_composeVirtual (virtual : spec.mode = .virtualized)
    (lawful : start.region.Lawful) (housed : start.region.Housed) (since : Since start world) :
    (composeVirtual options key spec).Ensures (recording key (Identifies start key spec))
      (fun _ _ => True) (fun _ _ => True) world := by
  unfold composeVirtual
  extract_lets shape hostname places
  have placed : ∀ staticIp world, Since start world →
      (places staticIp).Ensures (recording key (Identifies start key spec)) (fun _ _ => True)
        (fun _ _ => True) world := by
    intro staticIp world since
    refine Pass.ensures_bind.mpr (Pass.ensures_maas.mpr ⟨?_, ?_, fun _ _ _ => trivial⟩)
    · exact allowed_forgoing (.maas .listVmHosts) trivial
    intro hosts listed answers
    obtain ⟨shown, -⟩ := Prod.mk.inj (region_of_ok .listVmHosts answers)
    have kept : Since start listed := since.answeredMaas answers (.inl id)
    refine (recording_place kept).bind fun host world chosen => ?_
    obtain ⟨mem, since'⟩ := chosen
    have known : start.region.inventory.hosts.get? host.id = some host := by
      rw [← Except.ok.inj shown, since.hosts] at mem
      exact housed.get?_of_mem mem
    extract_lets composes
    have composed : ∀ pool, (composes pool).Ensures (recording key (Identifies start key spec))
        (fun _ _ => True) (fun _ _ => True) world := by
      intro pool
      refine Pass.ensures_bind.mpr (Pass.ensures_store.mpr ⟨?_, ?_, fun _ _ _ => trivial⟩)
      · exact allowed_forgoing (.store (.annotate key _ _)) trivial
      intro _ annotated answers
      have poised : Poised start key host annotated :=
        ⟨since'.answeredStore answers, known, annotation?_annotated answers⟩
      refine (recording_composeOrAdopt lawful poised).bind fun obtained world taken => ?_
      obtain ⟨systemId, isNew⟩ := obtained
      refine Pass.ensures_bind.mpr (Pass.ensures_store.mpr ⟨?_, ?_, fun _ _ _ => trivial⟩)
      · rintro k checkpoint ⟨⟩
        exact ⟨rfl, taken.identifies virtual⟩
      intro _ world _
      extract_lets looks
      have looked : ∀ world, (looks ()).Ensures (recording key (Identifies start key spec))
          (fun _ _ => True) (fun _ _ => True) world := fun world =>
        Pass.ensures_bind.mpr (Pass.ensures_maas.mpr
          ⟨allowed_forgoing (.maas (.getMachine systemId)) trivial,
            fun machine _ _ => recording_tagAndContinue machine, fun _ _ _ => trivial⟩)
      cases isNew with
      | false => exact looked world
      | true =>
          exact Pass.ensures_bind.mpr (Pass.ensures_count.mpr
            ⟨allowed_forgoing (.count (.allocated .virtualized)) trivial,
              fun _ world _ => looked world⟩)
    cases host.pool with
    | some pool => exact composed pool
    | none => exact Pass.ensures_bind.mpr (Pass.ensures_throw.mpr trivial)
  cases spec.staticIp with
  | none => exact placed none world since
  | some declared =>
      have valid : (some <$> validated key declared).Ensures
          (recording key (Identifies start key spec)) (fun _ => Since start) (fun _ _ => True) world :=
        Pass.ensures_map.mpr (recording_surveyed (spares_validated trivial) since)
      exact valid.bind fun staticIp world since => placed staticIp world since

/-! ## Tasks -/

theorem recording_provisionFrom {saved : Store.Saved} (lawful : start.region.Lawful)
    (housed : start.region.Housed) (since : Since start world) :
    (provisionFrom options key spec saved).Ensures (recording key (Identifies start key spec))
      (fun _ _ => True) (fun _ _ => True) world := by
  unfold provisionFrom
  split
  · exact recording_resume _
  · cases mode : spec.mode with
    | bareMetal => exact recording_allocateBareMetal mode
    | virtualized => exact recording_composeVirtual mode lawful housed since

/-- Of a task only the instance of its declaration is recorded. -/
def identifying (start : World) (key : Key) (spec? : Option Spec) : Discipline World :=
  recording key fun checkpoint world => ∃ spec ∈ spec?, Identifies start key spec checkpoint world

theorem identifying_undertakes {spec? : Option Spec} (lawful : start.region.Lawful)
    (housed : start.region.Housed) :
    Undertakes (identifying start key spec?) key spec? (fun _ => True) start where
  allowed := allowed_forgoing (.store (.load key)) trivial
  unloaded _ _ _ := trivial
  loaded _ _ _ := trivial
  provisions options spec saved after declared answers := by
    have since := (Since.refl start).answeredStore answers
    refine (recording_provisionFrom lawful housed since).permit ?_ fun _ _ _ _ leads => leads
    intro world effect allows k checkpoint same
    obtain ⟨own, identifies⟩ := allows k checkpoint same
    exact ⟨own, spec, declared, identifies⟩
  releases _ checkpoint _ _ _ := (recording_release checkpoint.instanceId).mono
    (fun _ _ _ => trivial) fun _ _ kept => kept
  concludes := recording_tolerates_forgoes.mono fun _ => .of_concludes

theorem housed_answer (effect : Effect) {reply : effect.Answer} (housed : world.region.Housed)
    (answers : (reply, after) = world.answer effect) : after.region.Housed := by
  cases effect with
  | maas call => exact housed.same (hosts_answerMaas answers)
  | store call =>
      rw [region_answerStore answers]
      exact housed
  | clock =>
      cases answers
      exact housed
  | count event =>
      cases answers
      exact housed

/-- VM hosts stay under their numbers throughout a run. -/
theorem Reaches.housed (reaches : Reaches start world) (housed : start.region.Housed) :
    world.region.Housed := by
  have answered : ∀ effect (world : World), world.region.Housed →
      (world.answer effect).2.region.Housed := fun effect _ housed =>
    housed_answer effect housed rfl
  induction reaches with
  | start => exact housed
  | done reached key task ih =>
      exact (Program.requests_invariant (fun world : World => world.region.Housed) answered _ ih).2
  | stopped reached key task mem ih =>
      exact (Program.requests_invariant (fun world : World => world.region.Housed) answered _ ih).1 _ mem
  | changed reached change ih => exact ih.after change
  | elsewhere reached same ih => exact ih.same (congrArg (·.hosts) same)

/-- Whatever a task records is recorded of its own declared machine. The identity that is recorded is
    that of the instance for a physical machine in a zone, and for a virtual machine exactly when the
    machine sits on the VM host that the task has chosen. -/
theorem records_own_identity_iff {found : World} {k : Key} {checkpoint : Checkpoint} {task : Task}
    (lawful : start.region.Lawful) (housed : start.region.Housed) (reaches : Reaches start world)
    (mem : (found, .store (.recordInstance k checkpoint)) ∈ world.requests key task) :
    k = key ∧ ∃ spec ∈ task.spec?, Identifies world key spec checkpoint found :=
  (identifying_undertakes (reaches.lawful lawful) (reaches.housed housed)).keeps.requests _ mem k
    checkpoint rfl

/-- A virtual machine of any size. -/
def modest : Spec := { minCpu := 1, minMemoryMib := 1024, mode := .virtualized }

/-- A machine has been composed and not recorded, and then a better VM host has come in another zone. -/
def regrouped : World :=
  let world := (forgetful.run (Task.program ⟨"a", "worker-0"⟩ (.provision {} modest))).2
  { world with
    region := (world.region.after (.addMachine
      { systemId := "m2", hostname := "host-2", cpuCount := 64, memory := 262144,
        statusName := "Deployed", powerState := "on" })).after (.addHost
      { id := 2, name := "host-2", kind := "lxd", zone := some ⟨2, "z2"⟩, pool := some ⟨1, "p1"⟩,
        machine := some "m2", available := ⟨16, 65536, 1000000000000⟩, tags := [] }) }

/-- What is recorded when the machine is adopted on the other VM host. -/
def regroupedCheckpoint : Checkpoint := .new "vm1000" (some "z2") (some "worker-0")

theorem records_own_identity_iff_regrouped :
    ∃ found, (found, Effect.store (.recordInstance ⟨"a", "worker-0"⟩ regroupedCheckpoint)) ∈
        regrouped.requests ⟨"a", "worker-0"⟩ (.provision {} modest) ∧
      Identifies regrouped ⟨"a", "worker-0"⟩ modest regroupedCheckpoint found := by
  obtain ⟨found, mem⟩ : ∃ found, (found, Effect.store (.recordInstance ⟨"a", "worker-0"⟩
      regroupedCheckpoint)) ∈ regrouped.requests ⟨"a", "worker-0"⟩ (.provision {} modest) :=
    mem_requests (by decide +kernel)
  have reaches : Reaches forgetful regrouped := .changed (.changed (.done .start _ _) _) _
  obtain ⟨-, spec, declared, identifies⟩ := records_own_identity_iff (Region.lawful_empty.after _)
    (Region.housed_empty.after _) reaches mem
  cases declared
  exact ⟨found, mem, identifies⟩

/-- The identity of the other VM host is recorded, although the machine is in its own zone still. -/
theorem records_foreign_identity_regrouped :
    ∃ request ∈ regrouped.requests ⟨"a", "worker-0"⟩ (.provision {} modest),
      request.2 = .store (.recordInstance ⟨"a", "worker-0"⟩ regroupedCheckpoint) ∧
      request.1.annotation? ⟨"a", "worker-0"⟩ vmHostAnnotationName = some "2" ∧
      ∃ machine ∈ request.1.region.inventory.machines.get? regroupedCheckpoint.instanceId,
        machine.zone = some ⟨1, "z1"⟩ ∧ machine.pod = some ⟨1, "host-1"⟩ ∧
        regroupedCheckpoint.failureDomain = some "z2" ∧
        regroupedCheckpoint.providerId ≠ Store.providerId (some "z1") machine.systemId := by
  decide +kernel

end World

end MachineProvisioning
