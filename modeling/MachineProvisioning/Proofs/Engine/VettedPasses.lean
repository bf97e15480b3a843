import MachineProvisioning.Proofs.Engine.Standing
import MachineProvisioning.Proofs.Engine.Vetting
import MachineProvisioning.Proofs.World.Answers
import MachineProvisioning.Store.Kubernetes

/-! # Passes over a declared address

Every pass over a declaration with a static address heeds it, whether it takes an instance or goes on
with a recorded one, and on its own or as part of a reconciliation. So it commits to nothing before the
address is vetted, and to nothing at all when the address is unlawful or declared by another machine.
-/

namespace MachineProvisioning.Engine

open Program (Exchange)
open Resource (Key Spec StaticIpSpec VirtualizedSpec)
open Maas (Machine VmHost)
open Lifecycle (Instance)

variable {key : Key} {declared : StaticIpSpec} {past : Transcript} {α : Type} {after stage : Stage}
  {systemId : String}

variable {spec : Spec} {options : Options}

theorem heeds_deploy : (deploy options key spec systemId).Heeds key declared .vetted .vetted := by
  refine Pass.Heeds.bind (Pass.heeds_tryMaas (.inr ⟨rfl, trivial⟩)) fun reply => ?_
  cases reply with
  | ok machine => exact Pass.heeds_pure machine
  | error error =>
      simp only
      split
      · exact heeds_failWith _
      · exact Pass.heeds_throw nofun

theorem heeds_allocateAgain : (allocateAgain key systemId).Heeds key declared stage stage := by
  refine Pass.Heeds.bind (Pass.heeds_tryMaas (.inl nofun)) fun reply => ?_
  cases reply with
  | ok machine => exact Pass.heeds_pure machine
  | error error => exact heeds_failWith error

theorem heeds_ensureHostname (machine : Machine) :
    (ensureHostname key spec machine).Heeds key declared stage stage := by
  unfold ensureHostname
  extract_lets x hostname
  split
  · exact Pass.heeds_pure ()
  · refine Pass.Heeds.bind (Pass.heeds_tryMaas (.inl trivial)) fun reply => ?_
    cases reply with
    | ok renamed => exact Pass.heeds_pure ()
    | error error =>
        simp only
        split
        · exact Pass.heeds_throw nofun
        · exact heeds_failWith error

section

variable (declares : spec.staticIp = some declared)

include declares

theorem heeds_configureAndDeploy (machine : Machine) :
    (configureAndDeploy options key spec machine).Heeds key declared stage .vetted := by
  unfold configureAndDeploy
  extract_lets x deploys binds
  refine Pass.Heeds.bind (heeds_ensureHostname machine) fun _ => ?_
  refine Pass.Heeds.bind (heeds_ensureNoSwap machine) fun _ => ?_
  have bound : (binds ()).Heeds key declared stage .vetted := by
    simp only [binds, declares]
    refine Pass.Heeds.bind heeds_applyStaticIp fun _ => ?_
    exact Pass.Heeds.bind heeds_deploy fun _ => Pass.heeds_pure _
  cases spec.bridge with
  | none => exact bound
  | some bridge => exact Pass.Heeds.bind (heeds_ensureBridge bridge) fun _ => bound

theorem heeds_continueBareMetal (machine : Machine) :
    (continueBareMetal options key spec machine).Heeds key declared stage .unvetted := by
  unfold continueBareMetal
  extract_lets x state
  clear_value state
  cases state with
  | allocated => exact (heeds_configureAndDeploy declares machine).relax
  | ready =>
      refine Pass.Heeds.bind heeds_allocateAgain fun machine => ?_
      exact (heeds_configureAndDeploy declares machine).relax
  | deploying => exact (Pass.heeds_pure _).relax
  | deployed => exact (Pass.Heeds.bind (heeds_powerOn machine) fun _ => Pass.heeds_pure _).relax
  | broken => exact heeds_recoverBroken none
  | _ => exact heeds_unsettled

theorem heeds_finishVirtual (machine : Machine) (allocated : Bool) :
    (finishVirtual options key spec machine allocated).Heeds key declared stage .vetted := by
  unfold finishVirtual
  extract_lets x deploys allocates
  have deployed : (deploys ()).Heeds key declared .vetted .vetted :=
    Pass.Heeds.bind heeds_deploy fun _ => Pass.heeds_pure _
  have readied : (allocates ()).Heeds key declared .vetted .vetted := by
    cases allocated with
    | true => exact deployed
    | false => exact Pass.Heeds.bind (.discard heeds_allocateAgain) fun _ => deployed
  refine Pass.Heeds.bind (.discard (heeds_ensureTags machine spec.tags)) fun _ => ?_
  refine Pass.Heeds.bind (heeds_verifyNetwork _) fun _ => ?_
  simp only [declares]
  exact Pass.Heeds.bind heeds_applyStaticIp fun _ => readied

theorem heeds_continueVirtual (machine : Machine) :
    (continueVirtual options key spec machine).Heeds key declared stage .unvetted := by
  unfold continueVirtual
  extract_lets x state
  clear_value state
  cases state with
  | commissioning => exact Pass.heeds_throw nofun
  | testing => exact Pass.heeds_throw nofun
  | new => exact Pass.heeds_throw nofun
  | ready => exact (heeds_finishVirtual declares machine false).relax
  | allocated => exact (heeds_finishVirtual declares machine true).relax
  | deploying => exact (Pass.heeds_pure _).relax
  | deployed => exact (Pass.Heeds.bind (heeds_powerOn machine) fun _ => Pass.heeds_pure _).relax
  | broken => exact heeds_recoverBroken _
  | failedDeployment => exact heeds_releaseFailed
  | _ => exact heeds_unsettled

theorem heeds_resume (checkpoint : Store.Checkpoint) :
    (resume options key spec checkpoint).Heeds key declared stage .unvetted := by
  unfold resume
  refine Pass.Heeds.bind (Pass.heeds_tryMaas (.inl trivial)) fun reply => ?_
  cases reply with
  | ok machine =>
      simp only
      split
      · exact heeds_continueBareMetal declares machine
      · exact heeds_continueVirtual declares machine
  | error error =>
      simp only
      split
      · exact Pass.Heeds.bind (Pass.heeds_store (.inl trivial)) fun _ => Pass.heeds_throw nofun
      · exact Pass.heeds_throw nofun

end

theorem heeds_allocateDeclared :
    (allocateDeclared key spec).Heeds key declared .vetted .vetted := by
  refine Pass.Heeds.bind (Pass.heeds_tryMaas (.inr ⟨rfl, rfl⟩)) fun reply => ?_
  cases reply with
  | ok machine => exact Pass.heeds_pure machine
  | error error =>
      simp only
      split
      · exact Pass.heeds_throw nofun
      · exact heeds_failWith error

/-- A machine that cannot be recorded is released, and the pass fails as the store told. -/
theorem heeds_recordAllocated (machine : Machine) :
    (recordAllocated key spec machine).Heeds key declared stage stage := by
  unfold recordAllocated
  extract_lets zone checkpoint
  refine ⟨fun past holds => ?_⟩
  obtain ⟨allowed, keeps⟩ := stage.tolerates past
    (.store (.recordInstance key checkpoint)) holds (.inl trivial)
  refine Pass.ensures_bind.mpr (Pass.ensures_tryStore.mpr ⟨allowed, fun reply later leads => ?_⟩)
  have holds := keeps reply later leads
  obtain ⟨-, rfl⟩ := leads
  cases reply with
  | ok value => exact Pass.heeds_count.ensures _ holds
  | error fault =>
      have justified : Justified key declared
          (past ++ [⟨.store (.recordInstance key checkpoint), .error fault⟩]) fault :=
        .told (List.mem_append_right past (.head _))
      refine Pass.ensures_bind.mpr (Pass.ensures_discard.mpr (Pass.ensures_tryMaas.mpr ⟨nofun, ?_⟩))
      rintro reply _ ⟨-, rfl⟩
      exact Pass.ensures_throw.mpr (justified.append _)

theorem heeds_choose {policy : Placement.Policy} (order : Placement.Relaxation)
    (hosts : List VmHost) (zone pool : Option String) :
    (place.choose policy order hosts zone pool).Heeds key declared stage stage := by
  have looks : ∀ effect, Looks effect → stage.Permits effect := by
    intro effect looks
    unfold Looks at looks
    split at looks
    · exact .inl trivial
    · cases looks
  refine Pass.Heeds.bind (Pass.heeds_lift ((asks_select order hosts zone pool).mono looks)) ?_
  intro found
  cases found with
  | ok host => exact Pass.heeds_pure host
  | error unavailable => exact Pass.heeds_throw nofun

theorem heeds_place {policy : Placement.Policy} (shape : VirtualizedSpec) (hosts : List VmHost) :
    (place policy spec shape hosts).Heeds key declared stage stage := by
  unfold place
  split
  · extract_lets candidates chooses
    split
    · exact Pass.Heeds.bind (Pass.heeds_throw nofun) fun _ => heeds_choose _ _ _ _
    · exact heeds_choose _ _ _ _
  · exact heeds_choose _ _ _ _

theorem heeds_findByHostname (hostname : String) (hostId : UInt64) (hostName : String) :
    (findByHostname hostname hostId hostName).Heeds key declared stage stage := by
  refine Pass.Heeds.bind (Pass.heeds_maas (.inl trivial)) fun everywhere => ?_
  split
  · exact Pass.heeds_pure _
  · exact Pass.Heeds.bind (Pass.heeds_maas (.inl trivial)) fun onHost => Pass.heeds_pure _

theorem heeds_composeOrAdopt {host : VmHost} {pool : Maas.NamedRef} {networks : List String}
    {params : Maas.ComposeParams} :
    (composeOrAdopt key host pool networks params).Heeds key declared .vetted .vetted := by
  refine Pass.Heeds.bind (Pass.heeds_tryMaas (.inr ⟨rfl, trivial⟩)) fun reply => ?_
  cases reply with
  | ok vm => exact Pass.heeds_pure _
  | error error =>
      simp only
      split
      · refine Pass.Heeds.bind (heeds_findByHostname _ _ _) fun found => ?_
        cases found with
        | some existing => exact Pass.heeds_pure _
        | none => exact Pass.heeds_throw nofun
      · exact Pass.heeds_throw nofun
      · exact heeds_failWith _
      · exact Pass.heeds_throw nofun

section

variable (declares : spec.staticIp = some declared)

include declares

theorem heeds_allocateBareMetal :
    (allocateBareMetal options key spec).Heeds key declared stage .unvetted := by
  unfold allocateBareMetal
  extract_lets rest
  have goes : (rest ()).Heeds key declared .vetted .unvetted := by
    refine Pass.Heeds.bind heeds_allocateDeclared fun machine => ?_
    refine Pass.Heeds.bind (heeds_recordAllocated machine) fun _ => ?_
    exact heeds_continueBareMetal declares machine
  simp only [declares]
  exact Pass.Heeds.bind (.discard heeds_validated) fun _ => goes

theorem heeds_composeVirtual :
    (composeVirtual options key spec).Heeds key declared stage .unvetted := by
  unfold composeVirtual
  extract_lets shape hostname places
  have placed : ∀ staticIp, (places staticIp).Heeds key declared .vetted .unvetted := by
    intro staticIp
    refine Pass.Heeds.bind (Pass.heeds_maas (.inl trivial)) fun hosts => ?_
    refine Pass.Heeds.bind (heeds_place shape hosts) fun host => ?_
    extract_lets composes
    have composed : ∀ pool, (composes pool).Heeds key declared .vetted .unvetted := by
      intro pool
      refine Pass.Heeds.bind (Pass.heeds_store (.inl trivial)) fun _ => ?_
      refine Pass.Heeds.bind heeds_composeOrAdopt fun obtained => ?_
      obtain ⟨systemId, isNew⟩ := obtained
      refine Pass.Heeds.bind (Pass.heeds_store (.inl trivial)) fun _ => ?_
      extract_lets looks
      have looked : (looks ()).Heeds key declared .vetted .unvetted := by
        refine Pass.Heeds.bind (Pass.heeds_maas (.inl trivial)) fun machine => ?_
        refine Pass.Heeds.bind (heeds_ensureTags machine spec.tags) fun machine => ?_
        exact heeds_continueVirtual declares machine
      cases isNew with
      | false => exact looked
      | true => exact Pass.Heeds.bind Pass.heeds_count fun _ => looked
    cases host.pool with
    | some pool => exact composed pool
    | none => exact Pass.Heeds.bind (Pass.heeds_throw nofun) fun _ => composed _
  simp only [declares]
  exact Pass.Heeds.bind (heeds_validated.map some) placed

theorem heeds_provisionFrom (saved : Store.Saved) :
    (provisionFrom options key spec saved).Heeds key declared stage .unvetted := by
  unfold provisionFrom
  split
  · exact heeds_resume declares _
  · split
    · exact heeds_allocateBareMetal declares
    · exact heeds_composeVirtual declares

theorem heeds_provision :
    (provision options key spec).Heeds key declared stage .unvetted :=
  Pass.Heeds.bind (Pass.heeds_store (.inl trivial)) fun saved => heeds_provisionFrom declares saved

end

variable {previous : Option Resource.Status}

theorem heeds_clock : Pass.clock.Heeds key declared stage stage := by
  have now : Pass.Heeds key declared stage stage (ExceptT.lift Procedure.now) :=
    Pass.heeds_lift (Program.asks_request (.inl trivial))
  exact now.bind fun _ => now.bind fun _ => Pass.heeds_pure _

theorem heeds_publishChange (status : Resource.Status) :
    (publishChange key previous status).Heeds key declared stage stage := by
  unfold publishChange
  split
  · exact Pass.heeds_pure ()
  · exact Pass.heeds_store (.inl trivial)

theorem heeds_concludeSeen (seen : Instance) :
    (concludeSeen key previous seen).Heeds key declared stage stage := by
  refine Pass.Heeds.bind heeds_clock fun clock => ?_
  refine Pass.Heeds.bind (heeds_publishChange _) fun _ => ?_
  exact Pass.Heeds.bind Pass.heeds_count fun _ => Pass.heeds_pure _

/-- A failure stays justified while it is published. -/
theorem vetting_tolerates_publication {failure : Failure} {ready : Bool} :
    (vetting key declared).Tolerates (fun past => Justified key declared past failure)
      (Publishes key ready) := by
  intro past effect justified publishes
  have unrelated : Unrelated effect := by
    unfold Publishes at publishes
    split at publishes
    · trivial
    · trivial
    · trivial
    · cases publishes
  refine ⟨fun commits => absurd commits unrelated.not_commits, ?_⟩
  rintro answer _ ⟨-, rfl⟩
  exact justified.append _

/-- A step of the publication that cannot fail. -/
theorem vetting_lift {p : Procedure α} {failure : Failure} {err : Failure → Transcript → Prop}
    (asks : p.Asks (Publishes key false)) (justified : Justified key declared past failure) :
    Pass.Ensures (vetting key declared) (ExceptT.lift p)
      (fun _ later => Justified key declared later failure) err past :=
  Pass.ensures_lift.mpr (asks.keeps vetting_tolerates_publication justified)

theorem vetting_clock {failure : Failure} {err : Failure → Transcript → Prop}
    (justified : Justified key declared past failure) :
    Pass.clock.Ensures (vetting key declared)
      (fun _ later => Justified key declared later failure) err past := by
  have asks : Procedure.now.Asks (Publishes key false) := Program.asks_request trivial
  refine (vetting_lift asks justified).bind fun _ later kept => ?_
  exact (vetting_lift asks kept).bind fun _ later kept => Pass.ensures_pure.mpr kept

/-- A failure to publish does not take the place of the failure that is published. -/
theorem vetting_concludeFailed {failure : Failure} {ok : α → Transcript → Prop}
    (justified : Justified key declared past failure) :
    (concludeFailed key previous failure : Pass α).Ensures (vetting key declared) ok
      (fun failure later => Justified key declared later failure) past := by
  have counts (event : Event) : (Procedure.count event).Asks (Publishes key false) :=
    Program.asks_request trivial
  unfold concludeFailed
  refine (vetting_lift (counts _) justified).bind fun _ later kept => ?_
  refine (vetting_clock kept).bind fun clock later kept => ?_
  extract_lets status
  have publishes : (tryCatch (publishChange key previous status) fun _ => pure ()).Ensures
      (vetting key declared) (fun _ later => Justified key declared later failure)
      (fun failure later => Justified key declared later failure) later := by
    have asks : (publishChange key previous status).Asks (Publishes key status.ready) :=
      asks_publishChange status
    refine Pass.ensures_tryCatch.mpr ((asks.ensures vetting_tolerates_publication kept).mono ?_ ?_)
    · exact fun _ _ kept => kept
    · exact fun _ _ kept => Pass.ensures_pure.mpr kept
  exact publishes.bind fun _ later kept => Pass.ensures_throw.mpr kept

theorem heeds_reconcile (declares : spec.staticIp = some declared) :
    (reconcile options key spec).Heeds key declared .unvetted .unvetted := by
  refine ⟨fun past holds => ?_⟩
  obtain ⟨allowed, keeps⟩ := Stage.tolerates .unvetted past (.store (.load key)) holds (.inl trivial)
  refine Pass.ensures_bind.mpr (Pass.ensures_tryStore.mpr ⟨allowed, fun reply later leads => ?_⟩)
  have holds := keeps reply later leads
  obtain ⟨-, rfl⟩ := leads
  cases reply with
  | error fault =>
      have told : Justified key declared (past ++ [⟨.store (.load key), .error fault⟩]) fault :=
        .told (List.mem_append_right past (.head _))
      refine Pass.ensures_bind.mpr (Pass.ensures_count.mpr ⟨nofun, ?_⟩)
      rintro reply _ ⟨-, rfl⟩
      exact Pass.ensures_throw.mpr (told.append _)
  | ok saved =>
      refine Pass.ensures_bind.mpr (Pass.ensures_attempt.mpr ?_)
      refine ((heeds_provisionFrom declares saved).ensures _ holds).mono ?_ ?_
      · exact fun seen later holds => (heeds_concludeSeen seen).ensures later holds
      · exact fun failure later justified => vetting_concludeFailed justified

/-- What a pass does in any of its traces. -/
theorem Pass.Heeds.trace {p : Pass α} {transcript : Transcript} {result : Except Failure α}
    (heeds : p.Heeds key declared .unvetted after) (trace : Program.Trace p.run transcript result) :
    (∀ before exchange later, transcript = before ++ exchange :: later → Commits exchange.1 →
        Vetted key declared before) ∧
      ∀ failure, result = .error failure → Justified key declared transcript failure := by
  have start := heeds.ensures [] (fun exchange mem => nomatch mem)
  unfold vetting at start
  obtain ⟨ends, vets⟩ := start.trace trace fun _ _ _ _ => trivial
  refine ⟨fun before exchange later split => ?_, ?_⟩
  · simpa using vets before exchange later split
  · rintro failure rfl
    exact ends

/-- The pass provisions the declared machine, on its own or as part of a reconciliation. -/
inductive Provisions (options : Options) (key : Key) (spec : Spec) :
    (α : Type) → Pass α → Prop where
  | alone : Provisions options key spec Instance (provision options key spec)
  | reconciling : Provisions options key spec Action (reconcile options key spec)

theorem Provisions.heeds {pass : Pass α} (provisions : Provisions options key spec α pass)
    (declares : spec.staticIp = some declared) :
    pass.Heeds key declared .unvetted .unvetted := by
  cases provisions with
  | alone => exact heeds_provision declares
  | reconciling => exact heeds_reconcile declares

/-- The store tells of a fault of an address. -/
def tellsOfAddress : Exchange Effect Effect.Answer → Bool
  | ⟨.store _, .error (.staticIp _)⟩ => true
  | _ => false

theorem error_of_inContext {β : Type} {context : String} {outcome : Except KubeError β}
    {failure : Failure} (fails : Store.Kubernetes.inContext context outcome = .error failure) :
    ∃ text, failure = .persistence text := by
  cases outcome with
  | ok value => cases fails
  | error error =>
      cases fails
      exact ⟨_, rfl⟩

/-- The store in Kubernetes tells of failed reads and writes only. -/
theorem ends_perform (call : Store.Call) : (Store.Kubernetes.perform call).Ends fun reply =>
    ∀ failure, reply = .error failure → ∃ text, failure = .persistence text := by
  cases call with
  | load key =>
      refine Program.Ends.bind (Program.ends_anyhow _) fun outcome _ failure fails => ?_
      change Store.Kubernetes.loaded key outcome = .error failure at fails
      unfold Store.Kubernetes.loaded at fails
      repeat' split at fails
      all_goals cases fails
      exact ⟨_, rfl⟩
  | _ =>
      exact Program.Ends.bind (Program.ends_anyhow _) fun _ _ _ fails => error_of_inContext fails

/-- Where the store in Kubernetes answers, it tells of no fault of an address. -/
theorem silent_of_perform {transcript : Transcript}
    (serves : ∀ call reply, ⟨.store call, reply⟩ ∈ transcript →
      ∃ exchanges, Program.Trace (Store.Kubernetes.perform call) exchanges reply) :
    ∀ exchange ∈ transcript, tellsOfAddress exchange = false := by
  intro exchange mem
  unfold tellsOfAddress
  split
  · next call fault =>
      obtain ⟨exchanges, trace⟩ := serves call _ mem
      obtain ⟨text, same⟩ := (ends_perform call).trace trace _ rfl
      cases same
  · rfl

/-! ## Commitments -/

/-- A pass over a lawful address that no answer shows to be declared by another machine fails with no
    fault of the address, unless the store tells of one. -/
theorem blames_no_address {pass : Pass α} {transcript : Transcript} {result : Except Failure α}
    (provisions : Provisions options key spec α pass) (declares : spec.staticIp = some declared)
    (trace : Program.Trace pass.run transcript result)
    (lawful : ∃ ip, StaticIp.validate declared = .ok ip)
    (uncontested : ∀ exchange ∈ transcript, ¬Contested key declared exchange)
    (silent : ∀ exchange ∈ transcript, tellsOfAddress exchange = false) :
    ∀ fault, result ≠ .error (.staticIp fault) := by
  intro fault failed
  obtain ⟨ip, valid⟩ := lawful
  obtain ⟨-, justifies⟩ := (provisions.heeds declares).trace trace
  cases justifies _ failed with
  | unlawful refused =>
      rw [refused] at valid
      cases valid
  | contested mem contested => exact uncontested _ mem contested
  | told mem => cases silent _ mem
  | other other => exact other fault rfl

/-- Over the store in Kubernetes such a pass fails with no fault of the address at all. -/
theorem blames_no_address_kubernetes {pass : Pass α} {transcript : Transcript}
    {result : Except Failure α} (provisions : Provisions options key spec α pass)
    (declares : spec.staticIp = some declared) (trace : Program.Trace pass.run transcript result)
    (serves : ∀ call reply, ⟨.store call, reply⟩ ∈ transcript →
      ∃ exchanges, Program.Trace (Store.Kubernetes.perform call) exchanges reply)
    (lawful : ∃ ip, StaticIp.validate declared = .ok ip)
    (uncontested : ∀ exchange ∈ transcript, ¬Contested key declared exchange) :
    ∀ fault, result ≠ .error (.staticIp fault) :=
  blames_no_address provisions declares trace lawful uncontested (silent_of_perform serves)

/-- Whatever a pass is answered, it commits to nothing before the declared address is vetted. So it
    commits to nothing at all when the address is unlawful, or when the machines of the namespace are
    listed whenever it asks and another one of them declares the address in some spelling. When the
    address is lawful, and no answer shows another machine that declares it, the pass fails with no
    fault of the address, unless the store tells of one. -/
theorem commits_once_vetted {pass : Pass α} {transcript : Transcript} {result : Except Failure α}
    (provisions : Provisions options key spec α pass) (declares : spec.staticIp = some declared)
    (trace : Program.Trace pass.run transcript result) :
    (∀ before exchange after, transcript = before ++ exchange :: after → Commits exchange.1 →
        Vetted key declared before) ∧
      ((∃ fault, StaticIp.validate declared = .error fault) ∨
          (∀ exchange ∈ transcript, exchange.1 = .store (.listStaticIps key.namespace_) →
            Contested key declared exchange) →
        ∀ exchange ∈ transcript, ¬Commits exchange.1) ∧
      ((∃ ip, StaticIp.validate declared = .ok ip) →
        (∀ exchange ∈ transcript, ¬Contested key declared exchange) →
        (∀ exchange ∈ transcript, tellsOfAddress exchange = false) →
        ∀ fault, result ≠ .error (.staticIp fault)) := by
  obtain ⟨vets, -⟩ := (provisions.heeds declares).trace trace
  refine ⟨vets, ?_, blames_no_address provisions declares trace⟩
  rintro bad exchange mem commits
  obtain ⟨before, after, split⟩ := List.append_of_mem mem
  obtain ⟨⟨ip, lawful⟩, ⟨listing, seen, asked⟩, uncontested⟩ :=
    vets before exchange after split commits
  rcases bad with ⟨fault, refused⟩ | contested
  · rw [refused] at lawful
    cases lawful
  · exact uncontested listing seen (contested listing (split ▸ List.mem_append_left _ seen) asked)

/-- Another machine declares the address, in capitals, with zeros and with blanks. The machines of the
    namespace can be listed unless the listing fails. -/
def crowded (listingFails : Bool) : World where
  region := Region.empty.after (.addMachine
    { systemId := "m1", hostname := "node-7", cpuCount := 8, memory := 65536,
      statusName := "Ready", powerState := "off" })
  memory := { Store.Memory.declareStaticIp {} ⟨"metal", "worker-1"⟩ " FD00:0:0:0:0:0:0.0.0.32\n" with
    listingFails }
  clock := ⟨0, 0⟩

/-- A pass takes no machine for an address that another machine declares. When the machines of the
    namespace cannot be listed, it takes one and fails for another reason. -/
theorem commits_once_vetted_crowded :
    let key : Key := ⟨"metal", "worker-0"⟩
    let declared : StaticIpSpec := { address := "fd00::20", gateway := "fd00::1", subnet := "64" }
    let pass := reconcile {} key { minCpu := 1, minMemoryMib := 1, staticIp := some declared }
    (∀ exchange ∈ (crowded false).exchanges pass, ¬Commits exchange.1) ∧
      (∃ exchange ∈ (crowded true).exchanges pass, Commits exchange.1) ∧
      ∀ fault, ((crowded true).pass pass).1 ≠ .error (.staticIp fault) := by
  intro key declared pass
  have lawful : ∃ ip, StaticIp.validate declared = .ok ip := by
    have accepts : (StaticIp.validate declared).isOk = true := by decide +kernel
    cases verdict : StaticIp.validate declared with
    | ok ip => exact ⟨ip, rfl⟩
    | error fault =>
        rw [verdict] at accepts
        cases accepts
  obtain ⟨ip, valid⟩ := lawful
  let address : Net.Address := .ofValue .v6 (0xFD00 * 2 ^ 112 + 32)
  have reads : StaticIp.addressOf? declared.address = some address := by decide +kernel
  have same : ip.address = address :=
    Option.some.inj ((StaticIp.address_of_validate valid).symm.trans reads)
  have decides : ∀ exchange, Contested key declared exchange ↔ opposes key address exchange = true :=
    fun exchange => same ▸ contested_iff valid
  refine ⟨?_, ?_, ?_⟩
  · have shown : ∀ exchange ∈ (crowded false).exchanges pass,
        exchange.1 = .store (.listStaticIps key.namespace_) → opposes key address exchange = true := by
      decide +kernel
    exact (commits_once_vetted .reconciling rfl
      (Program.trace_exchanges World.answer pass.run (crowded false))).2.1
      (.inr fun exchange mem asked => (decides exchange).mpr (shown exchange mem asked))
  · have takes : Effect.maas (.allocate { cpuCount := some 1, memory := some 1 }) ∈
        ((crowded true).exchanges pass).map Sigma.fst := by decide +kernel
    obtain ⟨exchange, mem, taken⟩ := List.mem_map.mp takes
    exact ⟨exchange, mem, taken ▸ rfl⟩
  · have clear : ∀ exchange ∈ (crowded true).exchanges pass,
        opposes key address exchange = false := by decide +kernel
    have silent : ∀ exchange ∈ (crowded true).exchanges pass,
        tellsOfAddress exchange = false := by decide +kernel
    refine (commits_once_vetted .reconciling rfl
      (Program.trace_exchanges World.answer pass.run (crowded true))).2.2 ⟨ip, valid⟩ ?_ silent
    intro exchange mem contested
    exact Bool.false_ne_true ((clear exchange mem).symm.trans ((decides exchange).mp contested))

end MachineProvisioning.Engine
