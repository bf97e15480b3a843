import MachineProvisioning.Proofs.World.Upkeep

/-! # Preparing a machine

A pass prepares a machine step by step before it deploys it. Every step leaves the machine with what
it is for, and keeps what the steps before it are for, so that a deployment finds all of it.
-/

namespace MachineProvisioning

open Resource (Key Spec StaticIpSpec BridgeSpec)
open Lifecycle (State)
open Maas (Machine Interface)
open Region (Stocks Mirrors Stores)
open Engine

namespace World

variable {world after : World} {key : Key} {spec : Spec} {spec? : Option Spec} {x : String}
  {fine : Machine → Prop} {names : List String} {options : Options}

theorem ofText_allocated : State.ofText "Allocated" = .allocated := by decide +kernel

/-- The machine is allocated and has its declared name, and its swap has this size. -/
structure Groomed (key : Key) (spec : Spec) (swap : Option UInt64) (machine : Machine) : Prop where
  allocated : State.ofText machine.statusName = .allocated
  hostname : machine.hostname = spec.hostname.getD key.name
  swapSize : machine.swapSize = swap

theorem editable_groomed {swap : Option UInt64} : Editable (Groomed key spec swap) := by
  intro machine groomed
  rw [groomed.allocated]
  rfl

theorem attends_ensureHostname {machine : Machine}
    (allocated : State.ofText machine.statusName = .allocated)
    (stocks : Stocks machine.systemId (Mirrors machine) names world.region) :
    Attends key spec? (ensureHostname key spec machine) (fun _ after =>
      Stocks machine.systemId (Groomed key spec machine.swapSize) names after.region) world := by
  unfold ensureHostname
  extract_lets systemId hostname
  split
  · next same =>
      refine Pass.ensures_pure.mpr (stocks.mono fun stored mirrors => ⟨?_, ?_, mirrors.swapSize⟩)
      · rw [mirrors.statusName]
        exact allocated
      · exact mirrors.hostname.trans same
  · refine Pass.ensures_bind.mpr (Pass.ensures_tryMaas.mpr ⟨Harmless.proper trivial, ?_⟩)
    intro reply after answers
    cases reply with
    | ok renamed =>
        have answered := region_of_ok (.setHostname systemId hostname) answers
        refine Pass.ensures_pure.mpr (stocks.changed _ answered trivial (fun _ => id) (fun _ => rfl) ?_)
        intro stored mirrors
        exact ⟨(congrArg State.ofText mirrors.statusName).trans allocated, rfl, mirrors.swapSize⟩
    | error error =>
        have lawful := lawful_leads stocks.lawful answers
        simp only
        split
        · exact Pass.ensures_throw.mpr lawful
        · exact attends_failWith lawful

theorem attends_ensureNoSwap {machine : Machine}
    (stocks : Stocks machine.systemId (Groomed key spec machine.swapSize) names world.region) :
    Attends key spec? (ensureNoSwap machine) (fun _ after =>
      Stocks machine.systemId (Groomed key spec (some 0)) names after.region) world := by
  unfold ensureNoSwap
  split
  · next none =>
      rw [none] at stocks
      exact Pass.ensures_pure.mpr stocks
  · refine Pass.ensures_discard.mpr (attends_maas (Harmless.proper trivial) stocks.lawful ?_)
    intro shown after answers
    have answered := region_of_ok (.setSwapSize machine.systemId 0) answers
    exact stocks.changed _ answered trivial (fun _ => id) (fun _ => rfl) fun stored groomed =>
      ⟨groomed.allocated, groomed.hostname, rfl⟩

theorem attends_ensureBridge {bridge : BridgeSpec} (editable : Editable fine)
    (stocks : Stocks x fine names world.region) :
    Attends key spec? (ensureBridge x bridge) (fun _ after =>
      Stocks x fine (bridge.name :: names) after.region) world := by
  unfold ensureBridge
  refine (attends_listInterfaces stocks).bind fun interfaces world listed => ?_
  obtain ⟨stocks, rfl⟩ := listed
  split
  · next present =>
      obtain ⟨iface, mem, same⟩ := List.any_eq_true.mp present
      refine Pass.ensures_pure.mpr (stocks.wire (List.mem_map.mpr ⟨iface, mem, ?_⟩))
      exact beq_iff_eq.mp same
  · refine Pass.ensures_discard.mpr (attends_changeNetwork (proper_wiring stocks editable rfl)
      stocks.lawful fun created after answers => ?_)
    exact (stocks_silent stocks id answers).wire (Region.bridge_mem (region_of_ok _ answers))

/-- What a physical machine is like before it is deployed. -/
theorem Configured.of_groomed (physical : spec.mode = .bareMetal)
    (stocks : Stocks x (Groomed key spec (some 0)) (spec.bridge.toList.map (·.name)) world.region)
    (binds : ∀ declared ∈ spec.staticIp, world.Binds x declared) : world.Configured key spec x := by
  obtain ⟨-, ⟨machine, found, groomed⟩, wired⟩ := stocks
  refine ⟨⟨machine, found, fun _ => ⟨groomed.hostname, groomed.swapSize⟩, fun virtual => ?_⟩,
    fun _ bridge declared => ?_, binds⟩
  · rw [physical] at virtual
    cases virtual
  · rw [Option.mem_def] at declared
    have mem : bridge.name ∈ world.region.inventory.interfaceNames x := wired (by simp [declared])
    exact List.mem_map.mp mem

theorem behaves_deploy (configured : world.Configured key spec x)
    (allocated : world.InState x [.allocated]) (lawful : world.region.Lawful) :
    Behaves key (some spec) (deploy options key spec x) world := by
  unfold deploy
  extract_lets params
  have proper : Proper key (some spec) world (.maas (.deploy x params)) := by
    refine ⟨allocated, ?_⟩
    rintro _ _ ⟨⟩
    exact ⟨spec, rfl, configured⟩
  refine Pass.ensures_bind.mpr (Pass.ensures_tryMaas.mpr ⟨proper, fun reply after answers => ?_⟩)
  have lawful := lawful_leads lawful answers
  cases reply with
  | ok machine => exact Pass.ensures_pure.mpr lawful
  | error error =>
      simp only
      split
      · exact attends_failWith lawful
      · exact Pass.ensures_throw.mpr lawful

/-- A declared static address is bound before the pass goes on. -/
theorem behaves_bindDeclared {goesOn : Pass Lifecycle.Instance} (editable : Editable fine)
    (stocks : Stocks x fine names world.region)
    (goes : ∀ world, Stocks x fine names world.region →
      (∀ declared ∈ spec.staticIp, world.Binds x declared) → Behaves key spec? goesOn world) :
    Behaves key spec? (match spec.staticIp with
      | none => goesOn
      | some staticIp => applyStaticIp key x staticIp >>= fun _ => goesOn) world := by
  cases declares : spec.staticIp with
  | none => exact goes world stocks (by simp [declares])
  | some staticIp =>
      refine (attends_applyStaticIp editable stocks).bind fun _ world bound => ?_
      refine goes world bound.1 ?_
      rintro declared same
      cases declares.symm.trans same
      exact bound.2

theorem behaves_configureAndDeploy {machine : Machine} (physical : spec.mode = .bareMetal)
    (allocated : State.ofText machine.statusName = .allocated)
    (stocks : Stocks machine.systemId (Mirrors machine) [] world.region) :
    Behaves key (some spec) (configureAndDeploy options key spec machine) world := by
  unfold configureAndDeploy
  extract_lets systemId deploys binds
  refine (attends_ensureHostname allocated stocks).bind fun _ world stocks => ?_
  refine (attends_ensureNoSwap stocks).bind fun _ world stocks => ?_
  have deployed : ∀ world, Stocks systemId (Groomed key spec (some 0))
      (spec.bridge.toList.map (·.name)) world.region →
      (∀ declared ∈ spec.staticIp, world.Binds systemId declared) →
        Behaves key (some spec) (deploys ()) world := by
    intro world stocks bound
    have allocated : world.InState systemId [.allocated] :=
      .of_stocks stocks fun machine groomed => by simp [groomed.allocated]
    exact (behaves_deploy (.of_groomed physical stocks bound) allocated stocks.lawful).bind
      fun _ _ lawful => Pass.ensures_pure.mpr lawful
  have bound : ∀ world, Stocks systemId (Groomed key spec (some 0))
      (spec.bridge.toList.map (·.name)) world.region → Behaves key (some spec) (binds ()) world :=
    fun _ stocks => behaves_bindDeclared editable_groomed stocks deployed
  cases declares : spec.bridge with
  | none => exact bound world (by simpa [declares] using stocks)
  | some bridge =>
      refine (attends_ensureBridge editable_groomed stocks).bind fun _ world stocks => ?_
      exact bound world (by simpa [declares] using stocks)

/-- Tagging gives the machine back with more tags, which the stored one has as well. -/
theorem attends_ensureTags {machine : Machine} (tags : List String)
    (stocks : Stocks machine.systemId (Mirrors machine) names world.region) :
    Attends key spec? (ensureTags machine tags) (fun tagged after =>
      tagged = { machine with tagNames := tagged.tagNames } ∧
        machine.tagNames ++ tags ⊆ tagged.tagNames ∧
          Stocks machine.systemId (Mirrors tagged) names after.region) world := by
  induction tags generalizing machine world with
  | nil => exact Pass.ensures_pure.mpr ⟨rfl, by simp, stocks⟩
  | cons tag rest ih =>
      unfold ensureTags
      split
      · next has =>
          refine (ih stocks).mono (fun tagged after kept => ?_) fun _ _ => id
          obtain ⟨same, more, stocks⟩ := kept
          refine ⟨same, fun name mem => more ?_, stocks⟩
          have has : tag ∈ machine.tagNames := by simpa using has
          grind
      · have creates : Attends key spec? (discard (Pass.maas ("create tag " ++ tag) (.createTag tag)))
            (fun _ after => Stocks machine.systemId (Mirrors machine) names after.region) world :=
          Pass.ensures_discard.mpr (attends_maas (Harmless.proper trivial) stocks.lawful
            fun _ _ answers => stocks_silent stocks id answers)
        refine creates.bind fun _ world stocks => ?_
        have assigns : Attends key spec?
            (Pass.maas ("tag " ++ machine.systemId ++ " with " ++ tag) (.assignTag tag machine.systemId))
            (fun _ after => Stocks machine.systemId
              (Mirrors { machine with tagNames := machine.tagNames ++ [tag] }) names after.region) world :=
          attends_maas (Harmless.proper trivial) stocks.lawful fun _ _ answers =>
            stocks.tagged (region_of_ok (.assignTag tag machine.systemId) answers)
        refine assigns.bind fun _ world stocks => ?_
        refine (ih stocks).mono (fun tagged after kept => ?_) fun _ _ => id
        simpa using kept

/-- The machine is in this state and has all declared tags. -/
structure Outfitted (spec : Spec) (state : State) (machine : Machine) : Prop where
  state : State.ofText machine.statusName = state
  tags : spec.tags ⊆ machine.tagNames

theorem Configured.of_outfitted (virtual : spec.mode = .virtualized)
    (stocks : Stocks x (Outfitted spec .allocated) names world.region)
    (binds : ∀ declared ∈ spec.staticIp, world.Binds x declared) : world.Configured key spec x := by
  obtain ⟨-, ⟨machine, found, outfitted⟩, -⟩ := stocks
  have notPhysical : spec.mode ≠ .bareMetal := by simp [virtual]
  exact ⟨⟨machine, found, fun physical => absurd physical notPhysical,
    fun _ tag mem => outfitted.tags mem⟩, fun physical => absurd physical notPhysical, binds⟩

theorem Binds.congr {declared : StaticIpSpec} (binds : world.Binds x declared)
    (same : after.region.inventory.interfaces = world.region.inventory.interfaces) :
    after.Binds x declared := by
  unfold Binds
  rw [Region.interfacesOf_congr same x]
  exact binds

/-- A machine that is ready is allocated again and stays as it is. -/
theorem attends_allocateAgain (fine' : Machine → Prop)
    (stocks : Stocks x fine names world.region)
    (ready : ∀ machine, fine machine → State.ofText machine.statusName = .ready)
    (changes : ∀ machine, fine machine → fine' { machine with statusName := "Allocated" }) :
    Attends key spec? (allocateAgain key x) (fun shown after =>
      shown.systemId = x ∧ shown.statusName = "Allocated" ∧
        Stocks x (fun stored => Mirrors shown stored ∧ fine' stored) names after.region ∧
          after.region.inventory.interfaces = world.region.inventory.interfaces) world := by
  unfold allocateAgain
  have proper : Proper key spec? world (.maas (.allocate { systemId := some x })) := by
    refine ⟨fun y same => ?_, fun _ _ same => by cases same⟩
    obtain rfl : x = y := Option.some.inj same
    exact .of_stocks stocks fun machine is => by simp [ready machine is]
  refine Pass.ensures_bind.mpr (Pass.ensures_tryMaas.mpr ⟨proper, fun reply after answers => ?_⟩)
  cases reply with
  | ok shown =>
      have answered := region_of_ok (.allocate { systemId := some x }) answers
      have rest := world.region.interfaces_answer (.allocate { systemId := some x }) id
      rw [answered] at rest
      obtain ⟨own, state, stocks⟩ := stocks.allocatedAgain answered changes
      exact Pass.ensures_pure.mpr ⟨own, state, stocks, rest⟩
  | error error => exact attends_failWith (lawful_leads stocks.lawful answers)

theorem behaves_finishVirtual {machine : Machine} {allocated : Bool}
    (virtual : spec.mode = .virtualized)
    (state : State.ofText machine.statusName = if allocated then .allocated else .ready)
    (stocks : Stocks machine.systemId (Mirrors machine) [] world.region) :
    Behaves key (some spec) (finishVirtual options key spec machine allocated) world := by
  unfold finishVirtual
  extract_lets systemId deploys allocates
  have deployed : ∀ world, Stocks systemId (Outfitted spec .allocated) [] world.region →
      (∀ declared ∈ spec.staticIp, world.Binds systemId declared) →
        Behaves key (some spec) (deploys ()) world := by
    intro world stocks bound
    have allocated : world.InState systemId [.allocated] :=
      .of_stocks stocks fun machine outfitted => by simp [outfitted.state]
    exact (behaves_deploy (.of_outfitted virtual stocks bound) allocated stocks.lawful).bind
      fun _ _ lawful => Pass.ensures_pure.mpr lawful
  have readied : ∀ world, Stocks systemId
      (Outfitted spec (if allocated then .allocated else .ready)) [] world.region →
      (∀ declared ∈ spec.staticIp, world.Binds systemId declared) →
        Behaves key (some spec) (allocates ()) world := by
    intro world stocks bound
    cases allocated with
    | true => exact deployed world stocks bound
    | false =>
        have again : Attends key (some spec) (discard (allocateAgain key systemId)) (fun _ after =>
            Stocks systemId (Outfitted spec .allocated) [] after.region ∧
              after.region.inventory.interfaces = world.region.inventory.interfaces) world := by
          refine Pass.ensures_discard.mpr ((attends_allocateAgain (Outfitted spec .allocated) stocks
            (fun _ outfitted => outfitted.state) ?_).mono ?_ fun _ _ => id)
          · exact fun _ outfitted => ⟨ofText_allocated, outfitted.tags⟩
          · rintro shown after ⟨-, -, stocks, rest⟩
            exact ⟨stocks.mono fun _ kept => kept.2, rest⟩
        refine again.bind fun _ after kept => ?_
        exact deployed after kept.1 fun declared mem => (bound declared mem).congr kept.2
  have tagged : Attends key (some spec) (discard (ensureTags machine spec.tags)) (fun _ after =>
      Stocks systemId (Outfitted spec (if allocated then .allocated else .ready)) [] after.region)
      world := by
    refine Pass.ensures_discard.mpr ((attends_ensureTags spec.tags stocks).mono ?_ fun _ _ => id)
    rintro tagged after ⟨same, more, stocks⟩
    refine stocks.mono fun stored mirrors => ⟨?_, fun tag mem => ?_⟩
    · rw [mirrors.statusName, same]
      exact state
    · exact mirrors.tagNames (more (List.mem_append_right _ mem))
  have editable : Editable (Outfitted spec (if allocated then .allocated else .ready)) := by
    intro machine outfitted
    rw [outfitted.state]
    cases allocated <;> rfl
  refine tagged.bind fun _ world stocks => ?_
  refine (attends_wiring stocks editable (spares_verifyNetwork _)).bind fun _ world stocks => ?_
  exact behaves_bindDeclared editable stocks readied

theorem behaves_ensurePoweredOn {machine : Machine}
    (deployed : State.ofText machine.statusName = .deployed)
    (stocks : Stocks machine.systemId (Mirrors machine) [] world.region) :
    Behaves key spec? (ensurePoweredOn machine) world := by
  unfold ensurePoweredOn
  split
  · exact Pass.ensures_pure.mpr stocks.lawful
  · have proper : Proper key spec? world (.maas (.powerOn machine.systemId)) := by
      refine ⟨.of_stocks stocks fun stored mirrors => ?_, fun _ _ same => by cases same⟩
      rw [mirrors.statusName, deployed]
      exact .head _
    exact attends_maas proper stocks.lawful fun _ _ answers =>
      lawful_answer (.maas (.powerOn machine.systemId)) stocks.lawful answers

/-- In the states that a pass cannot go on from, it releases what has failed and waits otherwise. -/
theorem attends_unsettled {α : Type} {ok : α → World → Prop} {state : State} {machine : Machine}
    {kind : ProvisioningKind} {systemId text : String} (lawful : world.region.Lawful) :
    Attends key spec? (if state.isFailed then releaseFailed key machine kind
      else throw (.stillProvisioning systemId text) : Pass α) ok world := by
  split
  · exact attends_releaseFailed lawful
  · exact Pass.ensures_throw.mpr lawful

theorem behaves_continueBareMetal {machine : Machine} (physical : spec.mode = .bareMetal)
    (stocks : Stocks machine.systemId (Mirrors machine) [] world.region) :
    Behaves key (some spec) (continueBareMetal options key spec machine) world := by
  unfold continueBareMetal
  extract_lets systemId state
  cases is : state with
  | allocated => exact behaves_configureAndDeploy physical is stocks
  | ready =>
      have ready : ∀ stored, Mirrors machine stored → State.ofText stored.statusName = .ready :=
        fun stored mirrors => (congrArg State.ofText mirrors.statusName).trans is
      refine (attends_allocateAgain (fun _ => True) stocks ready fun _ _ => trivial).bind ?_
      rintro shown after ⟨own, allocated, stocks, -⟩
      refine behaves_configureAndDeploy physical ?_ (own ▸ stocks.mono fun _ kept => kept.1)
      rw [allocated, ofText_allocated]
  | deploying => exact Pass.ensures_pure.mpr stocks.lawful
  | deployed =>
      exact (behaves_ensurePoweredOn is stocks).bind fun _ _ lawful => Pass.ensures_pure.mpr lawful
  | broken => exact attends_recoverBroken systemId none stocks.lawful
  | _ => exact attends_unsettled stocks.lawful

theorem behaves_continueVirtual {machine : Machine} (virtual : spec.mode = .virtualized)
    (stocks : Stocks machine.systemId (Mirrors machine) [] world.region) :
    Behaves key (some spec) (continueVirtual options key spec machine) world := by
  unfold continueVirtual
  extract_lets systemId state
  have waits : ∀ text, Behaves key (some spec)
      (throw (.stillProvisioning systemId text) : Pass Lifecycle.Instance) world :=
    fun _ => Pass.ensures_throw.mpr stocks.lawful
  cases is : state with
  | commissioning => exact waits _
  | testing => exact waits _
  | new => exact waits _
  | ready => exact behaves_finishVirtual virtual is stocks
  | allocated => exact behaves_finishVirtual virtual is stocks
  | deploying => exact Pass.ensures_pure.mpr stocks.lawful
  | deployed =>
      exact (behaves_ensurePoweredOn is stocks).bind fun _ _ lawful => Pass.ensures_pure.mpr lawful
  | broken => exact attends_recoverBroken systemId _ stocks.lawful
  | failedDeployment => exact attends_releaseFailed stocks.lawful
  | _ => exact attends_unsettled stocks.lawful

end World

end MachineProvisioning
