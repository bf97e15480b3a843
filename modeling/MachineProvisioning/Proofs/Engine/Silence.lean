import MachineProvisioning.Proofs.Engine.Intake

/-! # Before a pass concludes

What a pass asks for until it has got an instance or has failed. Once an instance is recorded it only
labours on it: it composes and records nothing, and counts no allocation. Up to its end it publishes
nothing and does not look at the clock, so it preserves all that other requests than publications
preserve, however it goes.
-/

namespace MachineProvisioning.Engine

open Resource (Key Spec VirtualizedSpec)
open Maas (Machine VmHost)
open Store (Checkpoint Saved)

def Effect.IsPublication : Effect → Prop
  | .store (.publishStatus _ _) => True
  | _ => False

/-- Nothing is published. -/
def Silent (effect : Effect) : Prop := ¬effect.IsPublication

/-- What is asked for to go on with an instance or to give it back. -/
def Labours : Effect → Prop
  | .maas (.compose _ _) => False
  | .maas _ | .store (.load _) | .store (.clearInstance _) | .store (.listStaticIps _)
  | .count .forcedRelease => True
  | _ => False

/-- What is asked for to provision an instance. -/
def Works : Effect → Prop
  | .clock | .store (.publishStatus _ _) | .count (.reconciled _) => False
  | _ => True

theorem Labours.works {effect : Effect} (labours : Labours effect) : Works effect := by
  unfold Labours at labours
  split at labours
  all_goals trivial

theorem Works.silent {effect : Effect} (works : Works effect) : Silent effect := by
  intro publication
  unfold Effect.IsPublication at publication
  split at publication
  · cases works
  · cases publication

theorem Tends.labours {systemId hostname : String} {effect : Effect}
    (tends : Tends systemId hostname effect) : Labours effect := by
  unfold Tends at tends
  split at tends
  all_goals trivial

theorem Surveys.works {effect : Effect} (surveys : Surveys effect) : Works effect := by
  unfold Surveys at surveys
  split at surveys
  all_goals trivial

variable {α : Type} {key : Key} {spec : Spec} {options : Options} {systemId : String}

theorem labours_release : (release key systemId).Asks Labours :=
  release_asks (fun _ => trivial) trivial trivial

theorem labours_recoverBroken (hostId : Option String) :
    (recoverBroken key systemId hostId : Pass α).Asks Labours :=
  recoverBroken_asks (fun _ => trivial) trivial trivial hostId trivial fun _ => trivial

theorem labours_failWith {context : String} {target : Option String} {error : Maas.Error} :
    (failWith key context target error : Pass α).Asks Labours := by
  unfold failWith
  split
  · next named hostId text =>
      have looks : (brokenTarget named target).Asks Labours := by
        unfold brokenTarget
        split
        · exact Pass.asks_pure _
        · refine Pass.Asks.bind (Pass.asks_tryMaas trivial) fun reply => ?_
          split <;> exact Pass.asks_pure _
      refine looks.bind fun found => ?_
      split
      · exact labours_recoverBroken hostId
      · exact Pass.asks_throw _
  · exact Pass.asks_throw _

theorem labours_releaseFailed {machine : Machine} {kind : ProvisioningKind} :
    (releaseFailed key machine kind : Pass α).Asks Labours :=
  labours_release.bind fun _ => Pass.asks_throw _

theorem labours_unsettled {state : Lifecycle.State} {machine : Machine} {kind : ProvisioningKind}
    {text : String} :
    (if state.isFailed then releaseFailed key machine kind
      else throw (.stillProvisioning machine.systemId text) : Pass α).Asks Labours := by
  split
  · exact labours_releaseFailed
  · exact Pass.asks_throw _

theorem labours_deploy : (deploy options key spec systemId).Asks Labours := by
  refine Pass.Asks.bind (Pass.asks_tryMaas trivial) fun reply => ?_
  split
  · exact Pass.asks_pure _
  · split
    · exact labours_failWith
    · exact Pass.asks_throw _

theorem labours_maas {context : String} {call : Maas.Call} (labours : Labours (.maas call)) :
    (Pass.maas context call).Asks Labours := (Pass.spares_maas labours).asks

theorem labours_ensurePoweredOn (machine : Machine) : (ensurePoweredOn machine).Asks Labours := by
  unfold ensurePoweredOn
  split
  · exact Pass.asks_pure _
  · exact labours_maas trivial

theorem labours_allocateAgain : (allocateAgain key systemId).Asks Labours := by
  refine Pass.Asks.bind (Pass.asks_tryMaas trivial) fun reply => ?_
  split
  · exact Pass.asks_pure _
  · exact labours_failWith

theorem labours_ensureHostname (machine : Machine) :
    (ensureHostname key spec machine).Asks Labours := by
  unfold ensureHostname
  extract_lets systemId hostname
  split
  · exact Pass.asks_pure ()
  · refine Pass.Asks.bind (Pass.asks_tryMaas trivial) fun reply => ?_
    split
    · exact Pass.asks_pure ()
    · split
      · exact Pass.asks_throw _
      · exact labours_failWith

/-- Steps that tend to an instance. -/
theorem labours_of_tends {p : Pass α} {hostname : String}
    (spares : p.Spares (Tends systemId hostname)) : p.Asks Labours :=
  (spares.mono fun _ => Tends.labours).asks

/-- Steps that wire an instance. -/
theorem labours_of_wires {p : Pass α} (spares : p.Spares (Wires systemId)) : p.Asks Labours :=
  labours_of_tends (spares.mono fun _ => @Wires.tends systemId systemId _)

theorem labours_ensureTags (machine : Machine) (tags : List String) :
    (ensureTags machine tags).Asks Labours := by
  induction tags generalizing machine with
  | nil => exact Pass.asks_pure machine
  | cons tag rest ih =>
      unfold ensureTags
      split
      · exact ih machine
      · refine Pass.Asks.bind (.discard (labours_maas trivial)) fun _ => ?_
        exact Pass.Asks.bind (labours_maas trivial) fun _ => ih _

theorem labours_finishVirtual (machine : Machine) (allocated : Bool) :
    (finishVirtual options key spec machine allocated).Asks Labours := by
  unfold finishVirtual
  extract_lets systemId deploys allocates
  have deployed : (deploys ()).Asks Labours := labours_deploy.bind fun _ => Pass.asks_pure _
  have readied : (allocates ()).Asks Labours := by
    cases allocated with
    | true => exact deployed
    | false => exact Pass.Asks.bind (.discard labours_allocateAgain) fun _ => deployed
  refine Pass.Asks.bind (.discard (labours_ensureTags machine spec.tags)) fun _ => ?_
  refine (labours_of_wires (spares_verifyNetwork _)).bind fun _ => ?_
  cases spec.staticIp with
  | none => exact readied
  | some declared =>
      exact (labours_of_wires (spares_applyStaticIp key declared)).bind fun _ => readied

theorem labours_continueVirtual (machine : Machine) :
    (continueVirtual options key spec machine).Asks Labours := by
  unfold continueVirtual
  extract_lets systemId state
  clear_value state
  cases state with
  | commissioning | testing | new => exact Pass.asks_throw _
  | ready => exact labours_finishVirtual machine false
  | allocated => exact labours_finishVirtual machine true
  | deploying => exact Pass.asks_pure _
  | deployed => exact (labours_ensurePoweredOn machine).bind fun _ => Pass.asks_pure _
  | broken => exact labours_recoverBroken _
  | failedDeployment => exact labours_releaseFailed
  | _ => exact labours_unsettled

theorem labours_configureAndDeploy (machine : Machine) :
    (configureAndDeploy options key spec machine).Asks Labours := by
  unfold configureAndDeploy
  extract_lets systemId deploys binds
  have deployed : (deploys ()).Asks Labours := labours_deploy.bind fun _ => Pass.asks_pure _
  have bound : (binds ()).Asks Labours := by
    simp only [binds]
    cases spec.staticIp with
    | none => exact deployed
    | some declared =>
        exact (labours_of_wires (spares_applyStaticIp key declared)).bind fun _ => deployed
  refine (labours_ensureHostname machine).bind fun _ => ?_
  refine (labours_of_tends (@spares_ensureNoSwap systemId machine)).bind fun _ => ?_
  cases spec.bridge with
  | none => exact bound
  | some bridge => exact (labours_of_wires (spares_ensureBridge bridge)).bind fun _ => bound

theorem labours_continueBareMetal (machine : Machine) :
    (continueBareMetal options key spec machine).Asks Labours := by
  unfold continueBareMetal
  extract_lets systemId state
  clear_value state
  cases state with
  | allocated => exact labours_configureAndDeploy machine
  | ready => exact labours_allocateAgain.bind fun _ => labours_configureAndDeploy _
  | deploying => exact Pass.asks_pure _
  | deployed => exact (labours_ensurePoweredOn machine).bind fun _ => Pass.asks_pure _
  | broken => exact labours_recoverBroken _
  | _ => exact labours_unsettled

theorem labours_resume (checkpoint : Checkpoint) :
    (resume options key spec checkpoint).Asks Labours := by
  unfold resume
  refine Pass.Asks.bind (Pass.asks_tryMaas trivial) fun reply => ?_
  cases reply with
  | ok machine =>
      simp only
      split
      · exact labours_continueBareMetal machine
      · exact labours_continueVirtual machine
  | error error =>
      simp only
      split
      · exact Pass.Asks.bind (Pass.asks_store trivial) fun _ => Pass.asks_throw _
      · exact Pass.asks_throw _

theorem labours_validated (declared : Resource.StaticIpSpec) :
    (validated key declared).Asks Labours := (spares_validated trivial).asks

theorem labours_allocateDeclared : (allocateDeclared key spec).Asks Labours := by
  refine Pass.Asks.bind (Pass.asks_tryMaas trivial) fun reply => ?_
  split
  · exact Pass.asks_pure _
  · split
    · exact Pass.asks_throw _
    · exact labours_failWith

theorem labours_findByHostname {hostname : String} {hostId : UInt64} {hostName : String} :
    (findByHostname hostname hostId hostName).Asks Labours := by
  refine Pass.Asks.bind (labours_maas trivial) fun machines => ?_
  split
  · exact Pass.asks_pure _
  · exact Pass.Asks.bind (labours_maas trivial) fun _ => Pass.asks_pure _

/-- Works without composing. -/
def Allocation (effect : Effect) : Prop :=
  Works effect ∧ ∀ hostId params, effect ≠ .maas (.compose hostId params)

theorem Labours.allocation {effect : Effect} (labours : Labours effect) : Allocation effect := by
  refine ⟨labours.works, ?_⟩
  rintro hostId params rfl
  exact labours

theorem asks_recordAllocated (machine : Machine) :
    (recordAllocated key spec machine).Asks Allocation := by
  refine Pass.Asks.bind (Pass.asks_tryStore ⟨trivial, nofun⟩) fun reply => ?_
  split
  · exact Pass.asks_count ⟨trivial, nofun⟩
  · exact Pass.Asks.bind (.discard (Pass.asks_tryMaas ⟨trivial, nofun⟩)) fun _ => Pass.asks_throw _

/-- Physical machines are not composed. -/
theorem asks_allocateBareMetal : (allocateBareMetal options key spec).Asks Allocation := by
  have wider {α : Type} {p : Pass α} (labours : p.Asks Labours) : p.Asks Allocation :=
    labours.mono fun _ => Labours.allocation
  unfold allocateBareMetal
  extract_lets rest
  have goes : (rest ()).Asks Allocation := by
    refine (wider labours_allocateDeclared).bind fun machine => ?_
    refine (asks_recordAllocated machine).bind fun _ => ?_
    exact wider (labours_continueBareMetal machine)
  cases spec.staticIp with
  | none => exact goes
  | some declared => exact (Pass.Asks.discard (wider (labours_validated declared))).bind fun _ => goes

theorem asks_composeOrAdopt {host : VmHost} {pool : Maas.NamedRef} {networks : List String}
    {params : Maas.ComposeParams} :
    (composeOrAdopt key host pool networks params).Asks Works := by
  have wider {α : Type} {p : Pass α} (labours : p.Asks Labours) : p.Asks Works :=
    labours.mono fun _ => Labours.works
  refine Pass.Asks.bind (Pass.asks_tryMaas trivial) fun reply => ?_
  cases reply with
  | ok vm => exact Pass.asks_pure _
  | error error =>
      simp only
      split
      · refine (wider labours_findByHostname).bind fun found => ?_
        cases found with
        | some existing => exact Pass.asks_pure _
        | none => exact Pass.asks_throw _
      · exact Pass.asks_throw _
      · exact wider labours_failWith
      · exact Pass.asks_throw _

/-- What is asked for after a machine was composed or adopted. -/
theorem labours_looks {systemId : String} : Pass.Asks Labours (do
    let machine ← Pass.maas ("get machine " ++ systemId) (.getMachine systemId)
    continueVirtual options key spec (← ensureTags machine spec.tags)) :=
  Pass.Asks.bind (labours_maas trivial) fun machine =>
    (labours_ensureTags machine spec.tags).bind fun machine => labours_continueVirtual machine

theorem asks_composeVirtual : (composeVirtual options key spec).Asks Works := by
  have surveyed {α : Type} {p : Pass α} (spares : p.Spares Surveys) : p.Asks Works :=
    spares.asks.mono fun _ => Surveys.works
  unfold composeVirtual
  extract_lets shape hostname places
  have placed : ∀ staticIp, (places staticIp).Asks Works := by
    intro staticIp
    refine Pass.Asks.bind (surveyed (Pass.spares_maas trivial)) fun hosts => ?_
    refine (surveyed (spares_place shape hosts)).bind fun host => ?_
    extract_lets composes
    have composed : ∀ pool, (composes pool).Asks Works := by
      intro pool
      refine Pass.Asks.bind (Pass.asks_store trivial) fun _ => ?_
      refine asks_composeOrAdopt.bind fun obtained => ?_
      obtain ⟨systemId, isNew⟩ := obtained
      refine Pass.Asks.bind (Pass.asks_store trivial) fun _ => ?_
      extract_lets looks
      have looked : (looks ()).Asks Works := labours_looks.mono fun _ => Labours.works
      cases isNew with
      | false => exact looked
      | true => exact Pass.Asks.bind (Pass.asks_count trivial) fun _ => looked
    cases host.pool with
    | some pool => exact composed pool
    | none => exact Pass.Asks.bind (Pass.asks_throw _) fun _ => composed _
  cases spec.staticIp with
  | none => exact placed none
  | some declared =>
      have validates : (validated key declared).Asks Works := surveyed (spares_validated trivial)
      exact (validates.map some).bind placed

/-- Nothing is published and no time is told before a pass concludes. -/
theorem asks_provisionFrom (saved : Saved) :
    (provisionFrom options key spec saved).Asks Works := by
  unfold provisionFrom
  split
  · exact (labours_resume _).mono fun _ => Labours.works
  · split
    · exact asks_allocateBareMetal.mono fun _ => And.left
    · exact asks_composeVirtual

variable {σ : Type} {P : Discipline σ} {invariant : σ → Prop} {s : σ}

section

variable (tolerates : P.Tolerates invariant Silent)

include tolerates

theorem silent_counts : Counts P invariant := by
  refine tolerates.mono fun effect counts => ?_
  obtain ⟨event, rfl⟩ := counts
  exact id

theorem silent_clock {err : Failure → σ → Prop} (start : invariant s) :
    Pass.clock.Ensures P (fun _ => invariant) err s := by
  have now {s : σ} (start : invariant s) :
      Pass.Ensures P (ExceptT.lift Procedure.now) (fun _ => invariant) err s :=
    Pass.ensures_now.mpr (tolerates s .clock start id)
  exact (now start).bind fun _ _ kept => (now kept).bind fun _ _ kept => Pass.ensures_pure.mpr kept

/-- What every request but a publication preserves, a pass preserves until it concludes. -/
theorem provisionFrom_silent (options : Options) (key : Key) (spec : Spec) (saved : Saved)
    (start : invariant s) :
    (provisionFrom options key spec saved).Ensures P (fun _ => invariant) (fun _ => invariant) s :=
  (asks_provisionFrom saved).ensures (tolerates.mono fun _ => Works.silent) start

end

end MachineProvisioning.Engine
