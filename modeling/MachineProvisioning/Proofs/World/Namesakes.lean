import MachineProvisioning.Proofs.World.Deployment

/-! # One machine to a hostname

Composing is not idempotent, and what keeps a declared machine from being composed twice is its
hostname: a second machine of a hostname is refused, and the first one is adopted. The invariant is
that the machines that bear the hostname have it in full and are one at most. Every request of a pass
over a virtual machine keeps it, whatever fails, and only a machine that bears the hostname is
recorded.
-/

namespace MachineProvisioning

open Resource (Key Spec)
open Maas (Machine)
open Engine

namespace Region

/-- A machine of this id is there and has the hostname, in full or as a short name. -/
def Bears (region : Region) (hostname x : String) : Prop :=
  ∃ machine, region.inventory.machines.get? x = some machine ∧
    Wiring.hostnameMatches machine hostname = true

/-- Machines that have the hostname have it in full, and there is at most one. -/
structure Sole (hostname : String) (region : Region) : Prop where
  lawful : region.Lawful
  named : ∀ x machine, region.inventory.machines.get? x = some machine →
    Wiring.hostnameMatches machine hostname = true → machine.hostname = hostname
  alone : ∀ x y, region.Bears hostname x → region.Bears hostname y → x = y

/-- Whether a machine has the hostname depends on its names only. -/
theorem hostnameMatches_congr {machine stored : Machine} {hostname : String}
    (name : stored.hostname = machine.hostname) (domain : stored.fqdn = machine.fqdn) :
    Wiring.hostnameMatches stored hostname = Wiring.hostnameMatches machine hostname := by
  simp only [Wiring.hostnameMatches, name, domain]

variable {hostname x : String} {region after : Region}

/-- Every machine afterwards is a machine from before with the names that it had. -/
theorem Sole.renamed_none (sole : Sole hostname region) (lawful : after.Lawful)
    (before : ∀ y machine, after.inventory.machines.get? y = some machine →
      ∃ old, region.inventory.machines.get? y = some old ∧ machine.hostname = old.hostname ∧
        machine.fqdn = old.fqdn) : Sole hostname after := by
  have bears : ∀ y, after.Bears hostname y → region.Bears hostname y := by
    rintro y ⟨machine, found, matching⟩
    obtain ⟨old, known, name, domain⟩ := before y machine found
    exact ⟨old, known, hostnameMatches_congr name domain ▸ matching⟩
  refine ⟨lawful, fun y machine found matching => ?_, fun y z first second =>
    sole.alone y z (bears y first) (bears z second)⟩
  obtain ⟨old, known, name, domain⟩ := before y machine found
  rw [hostnameMatches_congr name domain] at matching
  exact name.trans (sole.named y old known matching)

/-- A machine is stored with the names that it had. -/
theorem Sole.put {machine stored : Machine} (sole : Sole hostname region) (lawful : after.Lawful)
    (put : after.inventory.machines = region.inventory.machines.insert stored.systemId stored)
    (known : region.inventory.machines.get? stored.systemId = some machine)
    (name : stored.hostname = machine.hostname) (domain : stored.fqdn = machine.fqdn) :
    Sole hostname after := by
  refine sole.renamed_none lawful fun y found shown => ?_
  rw [put, Table.get?_insert] at shown
  split at shown
  · next same =>
      cases shown
      exact ⟨machine, same ▸ known, name, domain⟩
  · exact ⟨found, shown, rfl, rfl⟩

/-- A machine is stored with the hostname, when no other machine has it. -/
theorem Sole.christen {stored : Machine} (sole : Sole hostname region) (lawful : after.Lawful)
    (put : after.inventory.machines = region.inventory.machines.insert stored.systemId stored)
    (named : stored.hostname = hostname)
    (free : ∀ y machine, region.inventory.machines.get? y = some machine →
      machine.hostname = hostname → y = stored.systemId) : Sole hostname after := by
  have bears : ∀ y, after.Bears hostname y → y = stored.systemId := by
    rintro y ⟨machine, found, matching⟩
    rw [put, Table.get?_insert] at found
    split at found
    · next same => exact same.symm
    · exact free y machine found (sole.named y machine found matching)
  refine ⟨lawful, fun y machine found matching => ?_, fun y z first second =>
    (bears y first).trans (bears z second).symm⟩
  rw [put, Table.get?_insert] at found
  split at found
  · cases found
    exact named
  · exact sole.named y machine found matching

theorem Sole.same (sole : Sole hostname region)
    (machines : after.inventory.machines = region.inventory.machines) : Sole hostname after := by
  have keyed : after.Keyed := fun x machine found => sole.lawful.keyed x machine (machines ▸ found)
  refine sole.renamed_none ⟨keyed, machines ▸ sole.lawful.ordered⟩ fun y machine found => ?_
  exact ⟨machine, machines ▸ found, rfl, rfl⟩

/-- A hostname that the call gives to a machine is this one. -/
def Names (hostname : String) : Maas.Call → Prop
  | .setHostname _ name => name = hostname
  | .compose _ params => params.hostname = hostname
  | _ => True

/-- A machine gets a hostname only when no other one has it. -/
theorem free_of_setHostname {value : Machine} (lawful : region.Lawful)
    (answered : region.answer (.setHostname x hostname) = (.ok value, after)) {y : String}
    {machine : Machine} (found : region.inventory.machines.get? y = some machine)
    (named : machine.hostname = hostname) : y = x := by
  have own : machine.systemId = y := lawful.keyed y machine found
  have listed : machine ∈ region.inventory.machines.values :=
    List.mem_map_of_mem (f := Prod.snd) (Table.mem_of_get? found)
  change setHostname x hostname region = _ at answered
  unfold setHostname at answered
  split at answered
  · cases answered
  · next free =>
      refine own.symm.trans (Classical.byContradiction fun differs => free ?_)
      exact List.any_eq_true.mpr ⟨machine, listed, by simp [differs, named]⟩

/-- A call that gives out no other hostname keeps the hostname to one machine. -/
theorem Sole.answered {call : Maas.Call} {reply : call.Reply} (sole : Sole hostname region)
    (names : Names hostname call) (answered : region.answer call = (reply, after)) :
    Sole hostname after := by
  have conforms := region.answer_conforms call
  unfold Conforms at conforms
  rw [answered] at conforms
  have lawful : after.Lawful := sole.lawful.preserved conforms
  cases conforms with
  | refused same => exact sole.same same
  | quiet _ same => exact sole.same same
  | stored stored alters _ put =>
      have kept : ∀ y machine, region.inventory.machines.get? y = some machine →
          stored.systemId = machine.systemId → stored.hostname = machine.hostname →
            stored.fqdn = machine.fqdn → Sole hostname after := by
        intro y machine known id name domain
        have own : stored.systemId = y := id.trans (sole.lawful.keyed y machine known)
        exact sole.put lawful put (own ▸ known) name domain
      cases call with
      | allocate params =>
          obtain ⟨machine, chosen, rfl⟩ := alters
          cases given : params.systemId with
          | none => exact kept _ machine (sole.lawful.candidate given chosen).1 rfl rfl rfl
          | some y => exact kept y machine (candidate_named given chosen) rfl rfl rfl
      | setHostname y name =>
          obtain ⟨machine, known, rfl⟩ := alters
          have own : machine.systemId = y := sole.lawful.keyed y machine known
          obtain rfl : name = hostname := names
          exact sole.christen lawful put rfl fun z other found named =>
            (free_of_setHostname sole.lawful answered found named).trans own.symm
      | compose hostId params =>
          obtain ⟨host, -, free, rfl⟩ := alters
          obtain rfl : params.hostname = hostname := names
          refine sole.christen lawful put rfl fun z other found named => ?_
          have listed := List.mem_map_of_mem (f := Prod.snd) (Table.mem_of_get? found)
          exact absurd (beq_iff_eq.mpr named) (List.any_eq_false.mp free other listed)
      | release y force =>
          obtain ⟨machine, known, rfl⟩ := alters
          exact kept y machine known rfl rfl rfl
      | setSwapSize y bytes =>
          obtain ⟨machine, known, rfl⟩ := alters
          exact kept y machine known rfl rfl rfl
      | deploy y params =>
          obtain ⟨machine, known, -, rfl⟩ := alters
          exact kept y machine known rfl rfl rfl
      | powerOn y =>
          obtain ⟨machine, known, rfl⟩ := alters
          exact kept y machine known rfl rfl rfl
      | assignTag tag y =>
          obtain ⟨machine, known, same⟩ := alters
          exact kept y machine known (by rw [same]) (by rw [same]) (by rw [same])
      | _ => exact alters.elim

/-- Changes from outside that add no machine keep the hostname to one machine. -/
theorem Sole.changed {change : Change} (sole : Sole hostname region)
    (adds : ∀ machine, change ≠ .addMachine machine) : Sole hostname (region.after change) := by
  have lawful := sole.lawful.after change
  have modified : ∀ (y : String) (f : Machine → Machine) (after : Region), after.Lawful →
      after.inventory.machines = region.inventory.machines.modify y f →
      (∀ machine, (f machine).hostname = machine.hostname ∧ (f machine).fqdn = machine.fqdn) →
        Sole hostname after := by
    intro y f after lawful same kept
    refine sole.renamed_none lawful fun z machine found => ?_
    rw [same, Table.get?_modify] at found
    split at found
    · obtain ⟨old, known, rfl⟩ := Option.map_eq_some_iff.mp found
      exact ⟨old, known, kept old⟩
    · exact ⟨machine, found, rfl, rfl⟩
  cases change with
  | addMachine machine => exact absurd rfl (adds machine)
  | removeMachine y =>
      refine sole.renamed_none lawful fun z machine found => ?_
      change (region.inventory.machines.erase y).get? z = some machine at found
      rw [Table.get?_erase] at found
      split at found
      · cases found
      · exact ⟨machine, found, rfl, rfl⟩
  | setStatus y statusName =>
      exact modified y (fun machine => { machine with statusName }) _ lawful rfl fun _ => ⟨rfl, rfl⟩
  | setPower y powerState =>
      exact modified y (fun machine => { machine with powerState }) _ lawful rfl fun _ => ⟨rfl, rfl⟩
  | commissioned y =>
      exact modified y (fun machine => { machine with statusName := "Ready" }) _ lawful rfl
        fun _ => ⟨rfl, rfl⟩
  | deployed y =>
      exact modified y (fun machine => { machine with
        statusName := "Deployed"
        powerState := "on"
        ipAddresses := region.inventory.deployedAddresses y }) _ lawful rfl fun _ => ⟨rfl, rfl⟩
  | addHost host => exact sole.same rfl
  | addSubnet subnet => exact sole.same rfl
  | addInterface y iface => exact sole.same rfl
  | addAllocation allocation => exact sole.same rfl

end Region

namespace World

open Region (Sole Names)

variable {world after : World} {key : Key} {spec : Spec} {hostname x : String}

/-- The machine has the hostname in full. -/
def HasName (world : World) (hostname x : String) : Prop :=
  ∃ machine, world.region.inventory.machines.get? x = some machine ∧ machine.hostname = hostname

/-- A record is one of the declared machine, and names a machine of the hostname. -/
def RecordsNamed (key : Key) (hostname : String) (world : World) : Effect → Prop
  | .store (.recordInstance k checkpoint) => k = key ∧ world.HasName hostname checkpoint.instanceId
  | _ => True

/-- A world in which no two machines have the hostname whenever a request is made, and only machines
    of the hostname are recorded. -/
def naming (key : Key) (hostname : String) : Discipline World :=
  .attending World.answer fun world effect =>
    Sole hostname world.region ∧ RecordsNamed key hostname world effect

/-- The request records nothing, and gives out no other hostname. -/
def Modest (hostname : String) : Effect → Prop
  | .maas call => Names hostname call
  | .store (.recordInstance _ _) => False
  | _ => True

theorem Modest.recordsNamed {effect : Effect} (modest : Modest hostname effect) :
    RecordsNamed key hostname world effect := by
  unfold RecordsNamed
  split
  · cases modest
  · trivial

theorem Modest.of_tends {effect : Effect} (tends : Tends x hostname effect) :
    Modest hostname effect := by
  cases effect with
  | maas call => cases call <;> first | trivial | exact tends.2
  | store call => cases call <;> trivial
  | _ => trivial

theorem Modest.of_recovers {effect : Effect} (recovers : Recovers key x effect) :
    Modest hostname effect := by
  unfold Recovers at recovers
  split at recovers
  all_goals trivial

theorem Modest.of_surveys {effect : Effect} (surveys : Surveys effect) : Modest hostname effect := by
  unfold Surveys at surveys
  split at surveys
  all_goals trivial

theorem Modest.of_concludes {effect : Effect} (concludes : Concludes effect) :
    Modest hostname effect := by
  unfold Concludes at concludes
  split at concludes
  all_goals trivial

/-- The hostname is kept to one machine, whether the call reaches the region or not. -/
theorem sole_answerMaas (call : Maas.Call) {reply : call.Reply}
    (sole : Sole hostname world.region) (names : Names hostname call)
    (answers : (reply, after) = world.answer (.maas call)) : Sole hostname after.region := by
  rcases region_answerMaas answers with ⟨-, -, same⟩ | answered
  · rw [same]
    exact sole
  · exact sole.answered names answered

theorem sole_answerStore {call : Store.Call} {reply : call.Reply}
    (sole : Sole hostname world.region) (answers : (reply, after) = world.answer (.store call)) :
    Sole hostname after.region := by
  rw [region_answerStore answers]
  exact sole

theorem naming_tolerates_modest :
    (naming key hostname).Tolerates (fun world => Sole hostname world.region) (Modest hostname) := by
  intro world effect sole modest
  refine ⟨⟨sole, modest.recordsNamed⟩, fun reply after answers => ?_⟩
  cases effect with
  | maas call => exact sole_answerMaas call sole modest answers
  | store call => exact sole_answerStore sole answers
  | clock =>
      cases answers
      exact sole
  | count event =>
      cases answers
      exact sole

/-! ## Going on with a machine and taking one -/

/-- However a pass ends, the hostname is kept to one machine. -/
def namedAlone (hostname : String) (_ : Failure) (world : World) : Prop :=
  Sole hostname world.region

theorem naming_recoverBroken {α : Type} {ok : α → World → Prop} (x : String)
    (hostId : Option String) (sole : Sole hostname world.region) :
    (recoverBroken key x hostId : Pass α).Ensures (naming key hostname) ok (namedAlone hostname)
      world :=
  recoverBroken_tolerated hostId (naming_tolerates_modest.mono fun _ => .of_recovers)
    (fun _ _ sole => sole) sole

theorem naming_release (x : String) (sole : Sole hostname world.region) :
    (release key x).Ensures (naming key hostname) (fun _ => Closes (namedAlone hostname))
      (namedAlone hostname) world :=
  (asks_release.ensures (naming_tolerates_modest.mono fun _ => .of_recovers) sole).mono
    (fun _ _ sole _ _ => sole) fun _ _ sole => sole

theorem naming_failWith {α : Type} {ok : α → World → Prop} {context : String}
    {target : Option String} {error : Maas.Error} (sole : Sole hostname world.region) :
    (failWith key context target error : Pass α).Ensures (naming key hostname) ok
      (namedAlone hostname) world :=
  failWith_tolerated (naming_tolerates_modest.mono fun _ => .of_surveys)
    (fun _ => naming_tolerates_modest.mono fun _ => .of_recovers) (fun _ _ sole => sole) sole

theorem naming_sustains :
    Sustains (naming key hostname) (fun world => Sole hostname world.region) key (fun _ => True)
      hostname (namedAlone hostname) where
  tends _ _ := naming_tolerates_modest.mono fun _ => .of_tends
  fails _ _ _ sole := sole
  reallocates _ _ _ sole := ⟨sole, trivial⟩
  reallocated x _ _ _ _ sole leads :=
    ⟨trivial, sole_answerMaas (.allocate { systemId := some x }) sole trivial leads⟩
  deployed _ _ _ _ _ _ _ _ := trivial
  poweredOn _ _ _ _ _ _ _ := trivial
  recovers := by
    intro x call error world after _ sole operates leads context α ok
    refine naming_failWith (sole_answerMaas call sole ?_ leads)
    cases call <;> first | trivial | exact operates.2

/-- Going on with a machine that has been recorded. -/
theorem naming_continues :
    Continues (naming key hostname) (fun _ world => Sole hostname world.region) (fun _ _ => True)
      key hostname (namedAlone hostname) where
  sustains _ := naming_sustains
  known _ := trivial
  looks _ _ sole := ⟨sole, trivial⟩
  seen x _ _ _ sole leads := ⟨trivial, sole_answerMaas (.getMachine x) sole trivial leads⟩
  unseen x _ _ _ sole leads _ _ := sole_answerMaas (.getMachine x) sole trivial leads
  broken _ y _ _ sole hostId _ := naming_recoverBroken y hostId sole
  failed _ y _ _ sole := naming_release y sole

/-- A machine has been taken: it is the one that has the hostname. -/
def Taken (hostname x : String) (world : World) : Prop :=
  Sole hostname world.region ∧ world.HasName hostname x

theorem naming_acquires :
    Acquires (naming key hostname) (fun world => Sole hostname world.region) (Taken hostname)
      (fun _ world => Sole hostname world.region) key (namedAlone hostname) where
  surveys := naming_tolerates_modest.mono fun _ => .of_surveys
  fails _ _ _ sole := sole
  unannotated _ _ _ _ _ sole leads := sole_answerStore sole leads
  records _ _ _ taken own := ⟨taken.1, rfl, own ▸ taken.2⟩
  recorded _ _ _ _ taken _ leads := sole_answerStore taken.1 leads
  counts _ := naming_tolerates_modest.mono fun _ counts => by
    obtain ⟨event, rfl⟩ := counts
    trivial

/-- A listing shows a machine that bears the hostname, and such a machine has it in full. -/
theorem finds_listed {machines : List Machine} {p : Machine → Bool}
    (sole : Sole hostname world.region) (same : after.region = world.region)
    (listed : machines = (world.region.inventory.machines.values.filter p).map
      world.region.inventory.withInterfaces) :
    Finds (fun world => Sole hostname world.region) (Taken hostname) hostname machines after := by
  unfold Finds
  rw [← same] at sole
  split
  · next shown found =>
      rw [listed, ← same] at found
      obtain ⟨machine, known, bears⟩ := sole.lawful.listed found
      exact ⟨sole, machine, known, sole.named _ machine known bears⟩
  · exact sole

theorem naming_composes (named : spec.hostname.getD key.name = hostname) :
    Composes (naming key hostname) (fun world => Sole hostname world.region) (Taken hostname) key
      spec (namedAlone hostname) where
  allowed _ _ _ _ sole := ⟨sole, trivial⟩
  composed := by
    intro hostId params world vm after describes sole leads
    have names : params.hostname = hostname := describes.1.trans named
    have kept := sole_answerMaas (.compose hostId params) sole names leads
    obtain ⟨stored, alters, tells, known⟩ :=
      World.stored_of_ok (.compose hostId params) trivial leads
    obtain ⟨host, -, -, rfl⟩ := alters
    have made : vm.systemId = Region.composedId world.region.nextId := tells
    refine ⟨kept, Region.composedMachine (Region.composedId world.region.nextId) host params, ?_, names⟩
    rw [made]
    exact known
  refused hostId params world error after describes sole leads :=
    have kept := sole_answerMaas (.compose hostId params) sole (describes.1.trans named) leads
    ⟨kept, fun _ _ => naming_failWith kept⟩
  lists _ sole := ⟨sole, trivial⟩
  listed := by
    intro world machines after sole leads
    rw [named] at leads ⊢
    have answered := region_of_ok (.listMachines [("hostname", hostname)]) leads
    obtain ⟨listed, same⟩ := Prod.mk.inj answered
    exact finds_listed sole same.symm (Except.ok.inj listed).symm
  listFailed _ _ _ sole leads := sole_answerMaas (.listMachines _) sole trivial leads
  listsHost _ _ sole := ⟨sole, trivial⟩
  listedHost := by
    intro hostId world machines after sole leads
    rw [named]
    have answered := region_of_ok (.listHostVms hostId) leads
    change Region.listHostVms hostId world.region = _ at answered
    unfold Region.listHostVms at answered
    dsimp only at answered
    split at answered
    · cases answered
    · obtain ⟨listed, same⟩ := Prod.mk.inj answered
      exact finds_listed sole same.symm (Except.ok.inj listed).symm
  listHostFailed _ _ _ _ sole leads := sole_answerMaas (.listHostVms _) sole trivial leads
  unrecorded _ _ _ _ _ taken _ leads := sole_answerStore taken.1 leads

/-! ## Tasks and runs -/

theorem naming_provisionFrom {options : Options} {saved : Store.Saved}
    (virtual : spec.mode = .virtualized) (named : spec.hostname.getD key.name = hostname)
    (sole : Sole hostname world.region) :
    (provisionFrom options key spec saved).Ensures (naming key hostname)
      (fun _ after => Sole hostname after.region) (namedAlone hostname) world := by
  cases recorded : saved.checkpoint with
  | none =>
      have physical : spec.mode ≠ .bareMetal := by
        rw [virtual]
        nofun
      have allocates : spec.mode = .bareMetal → Allocates (naming key hostname)
          (fun world => Sole hostname world.region) (Taken hostname) (fun _ => True) key spec
            (namedAlone hostname) := fun mode => absurd mode physical
      have continues := @naming_continues key hostname
      rw [← named] at continues allocates sole ⊢
      exact (provisionFrom_ensures naming_acquires allocates (fun _ => naming_composes rfl)
        continues recorded sole).mono (fun _ _ kept => kept.choose_spec.2) fun _ _ sole => sole
  | some checkpoint =>
      unfold provisionFrom
      rw [recorded]
      refine (naming_sustains.resume options named ?_).mono (fun _ _ kept => kept.2) fun _ _ sole => sole
      have looked := fun (reply : (Maas.Call.getMachine checkpoint.instanceId).Reply) after
        (leads : (reply, after) = world.answer (.maas (.getMachine checkpoint.instanceId))) =>
        sole_answerMaas (.getMachine checkpoint.instanceId) sole trivial leads
      exact
        { allowed := ⟨sole, trivial⟩
          seen := fun machine after leads => ⟨trivial, looked (.ok machine) after leads⟩
          broken := fun machine after leads _ hostId _ =>
            naming_recoverBroken machine.systemId hostId (looked (.ok machine) after leads)
          failed := fun machine after leads _ =>
            naming_release machine.systemId (looked (.ok machine) after leads)
          gone := fun text after leads => by
            have clears : (Pass.store (.clearInstance key)).Asks (Modest hostname) :=
              Pass.asks_store trivial
            exact (clears.ensures naming_tolerates_modest
              (looked (.error (.notFound text)) after leads)).mono (fun _ _ sole _ _ => sole)
              fun _ _ sole => sole
          refused := fun error after leads _ _ => looked (.error error) after leads }

/-- The task goes by this declaration, or by none. -/
def Goes (spec : Spec) (task : Task) : Prop := ∀ other ∈ task.spec?, other = spec

theorem naming_undertakes {task : Task} (virtual : spec.mode = .virtualized) (goes : Goes spec task)
    (named : spec.hostname.getD key.name = hostname) (sole : Sole hostname world.region) :
    Undertakes (naming key hostname) key task.spec? (fun world => Sole hostname world.region)
      world where
  allowed := ⟨sole, trivial⟩
  unloaded _ _ leads := sole_answerStore sole leads
  loaded _ _ leads := sole_answerStore sole leads
  provisions options other saved after declared leads := by
    obtain rfl := goes other declared
    exact naming_provisionFrom virtual named (sole_answerStore sole leads)
  releases _ checkpoint _ _ leads :=
    asks_release.ensures (naming_tolerates_modest.mono fun _ => .of_recovers)
      (sole_answerStore sole leads)
  concludes := naming_tolerates_modest.mono fun _ => .of_concludes

/-- The worlds that the tasks of one declaration can lead to. A task may be stopped before any of its
    requests. Between tasks the region may change, except that no machine is added, and so may anything
    but what the region holds: what is recorded, and which calls and writes are going to fail. -/
inductive Evolves (key : Key) (spec : Spec) (start : World) : World → Prop where
  | start : Evolves key spec start start
  | done {world : World} (evolved : Evolves key spec start world) (task : Task)
      (goes : Goes spec task) : Evolves key spec start (world.run (task.program key)).2
  | stopped {world : World} (evolved : Evolves key spec start world) (task : Task)
      (goes : Goes spec task) {request : World × Effect} (mem : request ∈ world.requests key task) :
      Evolves key spec start request.1
  | changed {world : World} (evolved : Evolves key spec start world) (change : Region.Change)
      (adds : ∀ machine, change ≠ .addMachine machine) :
      Evolves key spec start { world with region := world.region.after change }
  | elsewhere {world other : World} (evolved : Evolves key spec start world)
      (same : other.region.inventory = world.region.inventory) : Evolves key spec start other

/-- At every moment of a run the hostname is kept to one machine. -/
theorem Evolves.sole {start : World} (virtual : spec.mode = .virtualized)
    (evolves : Evolves key spec start world)
    (sole : Sole (spec.hostname.getD key.name) start.region) :
    Sole (spec.hostname.getD key.name) world.region := by
  have keeps : ∀ {world : World} (task : Task), Goes spec task →
      Sole (spec.hostname.getD key.name) world.region →
        (task.program key).Keeps (naming key (spec.hostname.getD key.name))
          (fun _ after => Sole (spec.hostname.getD key.name) after.region) world :=
    fun task goes sole => (naming_undertakes virtual goes rfl sole).keeps
  induction evolves with
  | start => exact sole
  | done evolved task goes ih => exact (keeps task goes ih).attend
  | stopped evolved task goes mem ih => exact ((keeps task goes ih).requests _ mem).1
  | changed evolved change adds ih => exact ih.changed adds
  | elsewhere evolved same ih => exact ih.same (congrArg (·.machines) same)

/-- When no machine has the hostname of a virtual machine at first, there is at most one that has it at
    every moment of a run, and whenever an instance is recorded it is a machine that has it. -/
theorem has_no_namesake {start : World} (virtual : spec.mode = .virtualized)
    (lawful : start.region.Lawful)
    (unborne : ∀ x, ¬start.region.Bears (spec.hostname.getD key.name) x)
    (evolves : Evolves key spec start world) :
    (∀ x y, world.region.Bears (spec.hostname.getD key.name) x →
      world.region.Bears (spec.hostname.getD key.name) y → x = y) ∧
    ∀ task, Goes spec task → ∀ found k checkpoint,
      (found, .store (.recordInstance k checkpoint)) ∈ world.requests key task →
        k = key ∧ found.HasName (spec.hostname.getD key.name) checkpoint.instanceId := by
  have first : Sole (spec.hostname.getD key.name) start.region :=
    ⟨lawful, fun x machine found bears => absurd ⟨machine, found, bears⟩ (unborne x),
      fun x _ bears => absurd bears (unborne x)⟩
  have sole := evolves.sole virtual first
  refine ⟨sole.alone, fun task goes found k checkpoint mem => ?_⟩
  exact ((naming_undertakes virtual goes rfl sole).keeps.requests _ mem).2

/-- A VM host, and a store that fails to record what is composed first. -/
def forgetful : World where
  region := Region.empty.after (.addHost
    { id := 1, name := "host-1", kind := "lxd", zone := some ⟨1, "z1"⟩, pool := some ⟨1, "p1"⟩,
      machine := none, available := ⟨16, 65536, 1000000000000⟩, tags := [] })
  storeFaults := Faults.plan .empty "record_instance" 0 (.persistence "conflict")
  clock := ⟨0, 0⟩

/-- The machine of the first pass, which was not recorded, is adopted by the second one. -/
theorem has_no_namesake_forgetful :
    let key : Key := ⟨"a", "worker-0"⟩
    let task : Task := .provision {} { minCpu := 1, minMemoryMib := 1024, mode := .virtualized }
    let second := (forgetful.run (task.program key)).2
    second.memory.checkpoint? key = none ∧ second.region.Bears "worker-0" "vm1000" ∧
      (∀ x, second.region.Bears "worker-0" x → x = "vm1000") ∧
      ∃ found, (found, Effect.store (.recordInstance key
          (.new "vm1000" (some "z1") (some "worker-0")))) ∈ second.requests key task ∧
        found.HasName "worker-0" "vm1000" := by
  intro key task second
  have evolves : Evolves key { minCpu := 1, minMemoryMib := 1024, mode := .virtualized } forgetful
      second := .done .start task fun other declared => (Option.some.inj declared).symm
  have bears : second.region.Bears "worker-0" "vm1000" :=
    ⟨(second.region.inventory.machines.get? "vm1000").get (by decide +kernel),
      (Option.some_get _).symm, by decide +kernel⟩
  have unborne : ∀ x, ¬forgetful.region.Bears "worker-0" x := fun x bears => nomatch bears.choose_spec.1
  obtain ⟨alone, records⟩ :=
    has_no_namesake rfl (Region.lawful_empty.after _) unborne evolves
  obtain ⟨found, mem⟩ : ∃ found, (found, Effect.store (.recordInstance key
      (.new "vm1000" (some "z1") (some "worker-0")))) ∈ second.requests key task :=
    mem_requests (by decide +kernel)
  refine ⟨by decide +kernel, bears, fun x also => alone x "vm1000" also bears, found, mem, ?_⟩
  exact (records task (fun other declared => (Option.some.inj declared).symm) found key _ mem).2

end World

end MachineProvisioning
