import MachineProvisioning.Proofs.World.Preparation

/-! # Operations in their place

Every task about a declared machine makes only requests that are in place, whatever the world is like
when it starts. Runs of tasks that a world can go through, with changes of the region and of anything
else in between, keep the little that this rests on.
-/

namespace MachineProvisioning

open Resource (Key Spec)
open Lifecycle (State)
open Maas (Machine)
open Region (Stocks Mirrors)
open Engine

namespace World

variable {world after : World} {key : Key} {spec : Spec} {x : String} {fine : Machine → Prop}
  {names : List String} {options : Options}

theorem attends_allocateDeclared (lawful : world.region.Lawful) :
    Attends key (some spec) (allocateDeclared key spec) (fun machine after =>
      machine.statusName = "Allocated" ∧ Stocks machine.systemId (Mirrors machine) [] after.region)
      world := by
  unfold allocateDeclared
  extract_lets params
  refine Pass.ensures_bind.mpr (Pass.ensures_tryMaas.mpr ⟨Harmless.proper rfl, fun reply after answers => ?_⟩)
  cases reply with
  | ok machine =>
      exact Pass.ensures_pure.mpr (lawful.allocated rfl (region_of_ok (.allocate params) answers))
  | error error =>
      have lawful := lawful_leads lawful answers
      simp only
      split
      · exact Pass.ensures_throw.mpr lawful
      · exact attends_failWith lawful

theorem attends_recordAllocated {machine : Machine} (stocks : Stocks x fine names world.region) :
    Attends key (some spec) (recordAllocated key spec machine) (fun _ after =>
      Stocks x fine names after.region) world := by
  unfold recordAllocated
  extract_lets zone checkpoint
  refine Pass.ensures_bind.mpr (Pass.ensures_tryStore.mpr ⟨Harmless.proper trivial, ?_⟩)
  intro reply after answers
  have stocks : Stocks x fine names after.region := by
    rw [region_answerStore answers]
    exact stocks
  cases reply with
  | ok value =>
      refine Pass.ensures_count.mpr ⟨Harmless.proper trivial, fun _ last answers => ?_⟩
      cases answers
      exact stocks
  | error fault =>
      have releases : Pass.Asks Harmless (discard (Pass.tryMaas (.release machine.systemId false))) :=
        Pass.Asks.bind (f := fun _ => pure ()) (Pass.asks_tryMaas trivial) fun _ => Pass.asks_pure ()
      exact (behaves_of_asks releases (fun _ => id) stocks.lawful).bind fun _ _ lawful =>
        Pass.ensures_throw.mpr lawful

theorem behaves_allocateBareMetal (physical : spec.mode = .bareMetal) (lawful : world.region.Lawful) :
    Behaves key (some spec) (allocateBareMetal options key spec) world := by
  unfold allocateBareMetal
  extract_lets allocates
  have goes : ∀ world : World, world.region.Lawful → Behaves key (some spec) (allocates ()) world := by
    intro world lawful
    refine (attends_allocateDeclared lawful).bind fun machine world allocated => ?_
    refine (attends_recordAllocated allocated.2).bind fun _ world stocks => ?_
    exact behaves_continueBareMetal physical stocks
  cases spec.staticIp with
  | none => exact goes world lawful
  | some staticIp =>
      have validates : (discard (validated key staticIp)).Spares Surveys :=
        .discard (spares_validated trivial)
      exact (behaves_of_asks validates.asks (fun _ => .of_surveys) lawful).bind fun _ => goes

theorem upkeep_acquires : Acquires (upkeep key (some spec)) (fun world => world.region.Lawful)
    (fun _ world => world.region.Lawful) (fun _ world => world.region.Lawful) key
    (fun _ world => world.region.Lawful) where
  surveys := upkeep_tolerates_harmless.mono fun _ => .of_surveys
  fails _ _ _ lawful := lawful
  unannotated _ _ _ _ _ lawful leads := lawful_leads lawful leads
  records _ _ _ _ _ := Harmless.proper trivial
  recorded _ _ _ _ lawful _ leads := lawful_leads lawful leads
  counts _ := upkeep_tolerates_harmless.mono fun _ counts => by
    obtain ⟨event, rfl⟩ := counts
    trivial

theorem upkeep_composes : Composes (upkeep key (some spec)) (fun world => world.region.Lawful)
    (fun _ world => world.region.Lawful) key spec (fun _ world => world.region.Lawful) where
  allowed _ _ _ _ _ := Harmless.proper trivial
  composed _ _ _ _ _ _ lawful leads := lawful_leads lawful leads
  refused _ _ _ _ _ _ lawful leads :=
    have lawful := lawful_leads lawful leads
    ⟨lawful, fun _ _ => attends_failWith lawful⟩
  lists _ _ := Harmless.proper trivial
  listed _ _ _ lawful leads := finds_of_free (lawful_leads lawful leads)
  listFailed _ _ _ lawful leads := lawful_leads lawful leads
  listsHost _ _ _ := Harmless.proper trivial
  listedHost _ _ _ _ lawful leads := finds_of_free (lawful_leads lawful leads)
  listHostFailed _ _ _ _ lawful leads := lawful_leads lawful leads
  unrecorded _ _ _ _ _ lawful _ leads := lawful_leads lawful leads

theorem behaves_composeVirtual (virtual : spec.mode = .virtualized) (lawful : world.region.Lawful) :
    Behaves key (some spec) (composeVirtual options key spec) world := by
  refine composeVirtual_ensures upkeep_acquires upkeep_composes (fun x world lawful => ?_) lawful
  refine ⟨Harmless.proper trivial, fun machine after answers => ?_, ?_⟩
  · obtain ⟨own, stocks⟩ := lawful.seen (region_of_ok (.getMachine x) answers)
    rw [← own] at stocks
    refine (attends_ensureTags spec.tags stocks).bind fun tagged world kept => ?_
    obtain ⟨same, -, stocks⟩ := kept
    have own : tagged.systemId = machine.systemId := congrArg (·.systemId) same
    exact behaves_continueVirtual virtual (own ▸ stocks)
  · exact fun error after answers failure _ => lawful_leads lawful answers

theorem behaves_resume {checkpoint : Store.Checkpoint} (lawful : world.region.Lawful) :
    Behaves key (some spec) (resume options key spec checkpoint) world := by
  unfold resume
  extract_lets systemId
  refine Pass.ensures_bind.mpr (Pass.ensures_tryMaas.mpr ⟨Harmless.proper trivial, ?_⟩)
  intro reply after answers
  cases reply with
  | ok machine =>
      obtain ⟨own, stocks⟩ := lawful.seen (region_of_ok (.getMachine systemId) answers)
      rw [← own] at stocks
      simp only
      cases mode : spec.mode with
      | bareMetal => exact behaves_continueBareMetal mode stocks
      | virtualized => exact behaves_continueVirtual mode stocks
  | error error =>
      have lawful := lawful_leads lawful answers
      simp only
      split
      · have clears : Pass.Asks Harmless (Pass.store (.clearInstance key)) := Pass.asks_store trivial
        exact (behaves_of_asks clears (fun _ => id) lawful).bind fun _ _ lawful =>
          Pass.ensures_throw.mpr lawful
      · exact Pass.ensures_throw.mpr lawful

theorem behaves_provisionFrom {saved : Store.Saved} (lawful : world.region.Lawful) :
    Behaves key (some spec) (provisionFrom options key spec saved) world := by
  unfold provisionFrom
  split
  · exact behaves_resume lawful
  · cases mode : spec.mode with
    | bareMetal => exact behaves_allocateBareMetal mode lawful
    | virtualized => exact behaves_composeVirtual mode lawful

theorem upkeep_undertakes {spec? : Option Spec} (lawful : world.region.Lawful) :
    Undertakes (upkeep key spec?) key spec? (fun world => world.region.Lawful) world where
  allowed := Harmless.proper trivial
  unloaded _ _ leads := lawful_leads lawful leads
  loaded _ _ leads := lawful_leads lawful leads
  provisions _ _ _ _ declared leads := declared ▸ behaves_provisionFrom (lawful_leads lawful leads)
  releases _ _ _ _ leads :=
    behaves_of_asks asks_release (fun _ => .of_recovers) (lawful_leads lawful leads)
  concludes := upkeep_tolerates_harmless.mono fun _ => .of_concludes

/-- The requests of a task, each with the world that it finds. -/
def requests (world : World) (key : Key) (task : Task) : List (World × Effect) :=
  (task.program key).requests World.answer world

/-- Every request of a task is in place. -/
theorem proper_requests (lawful : world.region.Lawful) (task : Task) :
    ∀ request ∈ world.requests key task, Proper key task.spec? request.1 request.2 :=
  (upkeep_undertakes lawful).keeps.requests

/-- The worlds that a world can get to. A task may be stopped before any of its requests. Between tasks
    the region may change, and anything but what it holds. -/
inductive Reaches (start : World) : World → Prop where
  | start : Reaches start start
  | done {world : World} (reached : Reaches start world) (key : Key) (task : Task) :
      Reaches start (world.run (task.program key)).2
  | stopped {world : World} (reached : Reaches start world) (key : Key) (task : Task)
      {request : World × Effect} (mem : request ∈ world.requests key task) :
      Reaches start request.1
  | changed {world : World} (reached : Reaches start world) (change : Region.Change) :
      Reaches start { world with region := world.region.after change }
  | elsewhere {world other : World} (reached : Reaches start world)
      (same : other.region.inventory = world.region.inventory) : Reaches start other

/-- Machines stay under their ids, in order, throughout a run. -/
theorem Reaches.lawful {start : World} (reaches : Reaches start world)
    (lawful : start.region.Lawful) : world.region.Lawful := by
  have answered : ∀ effect (world : World), world.region.Lawful →
      (world.answer effect).2.region.Lawful := fun effect _ lawful =>
    lawful_answer effect lawful rfl
  induction reaches with
  | start => exact lawful
  | done reached key task ih =>
      exact (Program.requests_invariant (fun world : World => world.region.Lawful) answered _ ih).2
  | stopped reached key task mem ih =>
      exact (Program.requests_invariant (fun world : World => world.region.Lawful) answered _ ih).1 _ mem
  | changed reached change ih => exact ih.after change
  | elsewhere reached same ih => exact ih.congr (congrArg (·.machines) same)

/-- Each edit of interfaces finds its machine in a state that allows edits, each allocation of a given
    machine finds it ready, each deployment finds it allocated, and each start finds it deployed. -/
theorem finds_permitted_state {start : World} (lawful : start.region.Lawful)
    (reaches : Reaches start world) (key : Key) (task : Task) {found : World} {effect : Effect}
    (mem : (found, effect) ∈ world.requests key task) : found.Permits effect :=
  (proper_requests (reaches.lawful lawful) task _ mem).permitted

/-- A world with a physical machine that has one interface. -/
def racked : World where
  region := ((Region.empty.after (.addMachine (.idle "m1" "node-7" "Ready"))).after
    (.addSubnet (.plain 1 "lan" "10.0.0.0/24"))).after (.addInterface "m1" (.physical 1 "eth0" []))
  clock := ⟨0, 0⟩

theorem lawful_racked : racked.region.Lawful :=
  ((Region.lawful_empty.after _).after _).after _

/-- The declaration of a physical machine with a bridge and a static address. -/
def bridged : Spec :=
  { minCpu := 1, minMemoryMib := 1024, hostname := some "db-0", bridge := some { name := "br0" }
    staticIp := some { address := "10.0.0.5", gateway := "10.0.0.1", subnet := "10.0.0.0/24" } }

/-- The world after a pass whose machine has been made ready again. -/
def readied : World :=
  let world := (racked.run (Task.program ⟨"a", "worker-0"⟩ (.reconcile {} bridged))).2
  { world with region := world.region.after (.setStatus "m1" "Ready") }

theorem mem_requests {world : World} {key : Key} {task : Task} {effect : Effect}
    (mem : effect ∈ (world.requests key task).map Prod.snd) :
    ∃ found, (found, effect) ∈ world.requests key task := by
  obtain ⟨⟨found, _⟩, listed, rfl⟩ := List.mem_map.mp mem
  exact ⟨found, listed⟩

theorem finds_permitted_state_readied :
    ∃ found, (found, Effect.maas (.allocate { systemId := some "m1" })) ∈
        readied.requests ⟨"a", "worker-0"⟩ (.reconcile {} bridged) ∧ found.InState "m1" [.ready] := by
  obtain ⟨found, mem⟩ : ∃ found, (found, Effect.maas (.allocate { systemId := some "m1" })) ∈
      readied.requests ⟨"a", "worker-0"⟩ (.reconcile {} bridged) :=
    mem_requests (by decide +kernel)
  have reaches : Reaches racked readied :=
    .changed (.done .start ⟨"a", "worker-0"⟩ (.reconcile {} bridged)) (.setStatus "m1" "Ready")
  exact ⟨found, mem, finds_permitted_state lawful_racked reaches _ _ mem "m1" rfl⟩

/-- Each deployment is made for a declaration and finds its machine configured as declared. -/
theorem deploys_configured {start : World} (lawful : start.region.Lawful)
    (reaches : Reaches start world) (key : Key) (task : Task) {found : World}
    {params : Maas.DeployParams} (mem : (found, .maas (.deploy x params)) ∈ world.requests key task) :
    ∃ spec ∈ task.spec?, found.Configured key spec x :=
  (proper_requests (reaches.lawful lawful) task _ mem).configured x params rfl

theorem deploys_configured_racked :
    ∃ found, (found, Effect.maas (.deploy "m1" { distroSeries := some "jammy" })) ∈
        racked.requests ⟨"a", "worker-0"⟩ (.reconcile {} bridged) ∧
      found.Configured ⟨"a", "worker-0"⟩ bridged "m1" := by
  obtain ⟨found, mem⟩ : ∃ found, (found, Effect.maas (.deploy "m1" { distroSeries := some "jammy" })) ∈
      racked.requests ⟨"a", "worker-0"⟩ (.reconcile {} bridged) :=
    mem_requests (by decide +kernel)
  obtain ⟨_, declared, configured⟩ := deploys_configured lawful_racked .start _ _ mem
  cases declared
  exact ⟨found, mem, configured⟩

end World

end MachineProvisioning
