import MachineProvisioning.Proofs.Engine.Recovery
import MachineProvisioning.Proofs.Engine.Tending

/-! # Going on with an instance

The rules for the parts of a pass that already has an instance. A protocol that can bear what
`Sustains` lists can bear configuration and deployment, and the recovery of a machine that one of
their operations breaks. Giving up a broken or failed machine at the start is a premise of its own.
-/

namespace MachineProvisioning.Engine

open Resource (Key Spec)
open Lifecycle (Instance)
open Maas (Machine)

/-- The operations after whose failure a machine may have to be recovered. -/
def Operates (systemId hostname : String) : Maas.Call → Prop
  | .setHostname x name => x = systemId ∧ name = hostname
  | .deploy x _ => x = systemId
  | .allocate params => params = { systemId := some systemId }
  | _ => False

variable {σ α : Type} {P : Discipline σ} {invariant : σ → Prop} {key : Key} {mine : String → Prop}
  {hostname : String} {err : Failure → σ → Prop} {s : σ}

/-- What a protocol has to bear of a pass that goes on with an instance. The instance is known by
    `mine`, which every answer about it preserves. -/
structure Sustains (P : Discipline σ) (invariant : σ → Prop) (key : Key) (mine : String → Prop)
    (hostname : String) (err : Failure → σ → Prop) : Prop where
  tends : ∀ x, mine x → P.Tolerates invariant (Tends x hostname)
  fails : ∀ failure s, failure.released = false → invariant s → err failure s
  reallocates : ∀ x s, mine x → invariant s →
    P.allows s (.maas (.allocate { systemId := some x }))
  reallocated : ∀ x s machine s', mine x → invariant s →
    P.leads s (.maas (.allocate { systemId := some x })) (.ok machine) s' →
      mine machine.systemId ∧ invariant s'
  deployed : ∀ x params s machine s', mine x → invariant s →
    P.leads s (.maas (.deploy x params)) (.ok machine) s' → mine machine.systemId
  poweredOn : ∀ x s machine s', mine x → invariant s →
    P.leads s (.maas (.powerOn x)) (.ok machine) s' → mine machine.systemId
  recovers : ∀ x call error s s', mine x → invariant s → Operates x hostname call →
    P.leads s (.maas call) (.error error) s' → ∀ (context : String) (α : Type) (ok : α → σ → Prop),
      (failWith key context (some x) error : Pass α).Ensures P ok err s'

namespace Sustains

variable (sustains : Sustains P invariant key mine hostname err)

include sustains

/-- Steps that only tend to the instance. -/
theorem tended {p : Pass α} {systemId : String} (known : mine systemId)
    (spares : p.Spares (Tends systemId hostname)) (start : invariant s) :
    p.Ensures P (fun _ => invariant) err s :=
  (spares.ensures (sustains.tends systemId known) start).mono (fun _ _ kept => kept)
    fun failure s' kept => sustains.fails failure s' kept.1 kept.2

/-- Steps that only wire the instance. -/
theorem wired {p : Pass α} {systemId : String} (known : mine systemId)
    (spares : p.Spares (Wires systemId)) (start : invariant s) :
    p.Ensures P (fun _ => invariant) err s :=
  sustains.tended known (spares.mono fun _ => Wires.tends) start

theorem ensureHostname {spec : Spec} {machine : Machine} (known : mine machine.systemId)
    (named : spec.hostname.getD key.name = hostname) (start : invariant s) :
    (ensureHostname key spec machine).Ensures P (fun _ => invariant) err s := by
  unfold Engine.ensureHostname
  extract_lets systemId declared
  split
  · exact Pass.ensures_pure.mpr start
  · have tolerated := sustains.tends _ known s (.maas (.setHostname systemId declared)) start
      ⟨rfl, named⟩
    refine Pass.ensures_bind.mpr (Pass.ensures_tryMaas.mpr ⟨tolerated.1, ?_⟩)
    intro reply s' leads
    cases reply with
    | ok renamed => exact Pass.ensures_pure.mpr (tolerated.2 _ s' leads)
    | error error =>
        simp only
        split
        · exact Pass.ensures_throw.mpr (sustains.fails _ s' rfl (tolerated.2 _ s' leads))
        · exact sustains.recovers _ (.setHostname systemId declared) _ s s' known start
            ⟨rfl, named⟩ leads _ _ _

theorem deploy (options : Options) (spec : Spec) {systemId : String} (known : mine systemId)
    (start : invariant s) :
    (deploy options key spec systemId).Ensures P
      (fun machine s' => mine machine.systemId ∧ invariant s') err s := by
  unfold Engine.deploy
  extract_lets params
  have tolerated := sustains.tends _ known s (.maas (.deploy systemId params)) start rfl
  refine Pass.ensures_bind.mpr (Pass.ensures_tryMaas.mpr ⟨tolerated.1, ?_⟩)
  intro reply s' leads
  cases reply with
  | ok machine =>
      have reported := sustains.deployed _ _ s machine s' known start leads
      exact Pass.ensures_pure.mpr ⟨reported, tolerated.2 _ s' leads⟩
  | error error =>
      simp only
      split
      · exact sustains.recovers _ (.deploy systemId params) _ s s' known start rfl leads _ _ _
      · exact Pass.ensures_throw.mpr (sustains.fails _ s' rfl (tolerated.2 _ s' leads))

theorem allocateAgain {systemId : String} (known : mine systemId) (start : invariant s) :
    (allocateAgain key systemId).Ensures P
      (fun machine s' => mine machine.systemId ∧ invariant s') err s := by
  have allowed := sustains.reallocates _ s known start
  refine Pass.ensures_bind.mpr (Pass.ensures_tryMaas.mpr ⟨allowed, fun reply s' leads => ?_⟩)
  cases reply with
  | ok machine => exact Pass.ensures_pure.mpr (sustains.reallocated _ s machine s' known start leads)
  | error error =>
      exact sustains.recovers _ (.allocate { systemId := some systemId }) _ s s' known start rfl
        leads _ _ _

theorem powerOn {machine : Machine} (known : mine machine.systemId) (start : invariant s) :
    (ensurePoweredOn machine).Ensures P
      (fun machine s' => mine machine.systemId ∧ invariant s') err s := by
  unfold ensurePoweredOn
  split
  · exact Pass.ensures_pure.mpr ⟨known, start⟩
  · have tolerated := sustains.tends _ known s (.maas (.powerOn machine.systemId)) start rfl
    refine Pass.ensures_maas.mpr ⟨tolerated.1, fun powered s' leads => ?_, fun error s' leads => ?_⟩
    · exact ⟨sustains.poweredOn _ s powered s' known start leads, tolerated.2 _ s' leads⟩
    · exact sustains.fails _ s' rfl (tolerated.2 _ s' leads)

omit sustains in
theorem shownOf {p : Pass Machine}
    (h : p.Ensures P (fun machine s' => mine machine.systemId ∧ invariant s') err s) :
    (do return Instance.ofMachine (← p) : Pass Instance).Ensures P
      (fun seen s' => mine seen.systemId ∧ invariant s') err s :=
  h.bind fun _ _ kept => Pass.ensures_pure.mpr kept

omit sustains in
theorem discarded {known : α → Prop} {p : Pass α}
    (h : p.Ensures P (fun a s' => known a ∧ invariant s') err s) :
    (discard p).Ensures P (fun _ => invariant) err s :=
  Pass.ensures_discard.mpr (h.mono (fun _ _ kept => kept.2) fun _ _ fails => fails)

theorem configureAndDeploy (options : Options) {spec : Spec} {machine : Machine}
    (known : mine machine.systemId) (named : spec.hostname.getD key.name = hostname)
    (start : invariant s) :
    (configureAndDeploy options key spec machine).Ensures P
      (fun seen s' => mine seen.systemId ∧ invariant s') err s := by
  unfold Engine.configureAndDeploy
  extract_lets systemId deploys binds
  refine (sustains.ensureHostname known named start).bind fun _ s' kept => ?_
  refine (sustains.tended known (spares_ensureNoSwap machine) kept).bind fun _ s' kept => ?_
  have deployed : ∀ s', invariant s' → (deploys ()).Ensures P
      (fun seen s'' => mine seen.systemId ∧ invariant s'') err s' := fun s' kept =>
    shownOf (sustains.deploy options spec known kept)
  have bound : ∀ s', invariant s' → (binds ()).Ensures P
      (fun seen s'' => mine seen.systemId ∧ invariant s'') err s' := by
    intro s' kept
    simp only [binds]
    cases spec.staticIp with
    | none => exact deployed s' kept
    | some staticIp =>
        exact (sustains.wired known (spares_applyStaticIp key staticIp) kept).bind fun _ => deployed
  cases spec.bridge with
  | none => exact bound s' kept
  | some bridge => exact (sustains.wired known (spares_ensureBridge bridge) kept).bind fun _ => bound

omit sustains in
theorem releaseFailed {ok : α → σ → Prop} {machine : Machine} {kind : ProvisioningKind}
    (returns : (release key machine.systemId).Ensures P
      (fun _ => Closes err) err s) :
    (releaseFailed key machine kind : Pass α).Ensures P ok err s :=
  returns.bind fun _ _ closes => Pass.ensures_throw.mpr <|
    closes _ (Failure.givesUp_provisioning (by simp [ProvisioningFailure.released_withDetail]))

/-- In the states that a pass cannot go on from, it releases what has failed and waits otherwise. -/
theorem unsettled {ok : α → σ → Prop} {state : Lifecycle.State} {machine : Machine}
    {kind : ProvisioningKind} {text : String}
    (failed : state.isFailed = true → (release key machine.systemId).Ensures P
      (fun _ => Closes err) err s) (start : invariant s) :
    (if state.isFailed then Engine.releaseFailed key machine kind
      else throw (.stillProvisioning machine.systemId text) : Pass α).Ensures P ok err s := by
  split
  · exact releaseFailed (failed (by assumption))
  · exact Pass.ensures_throw.mpr (sustains.fails _ s rfl start)

theorem continueBareMetal (options : Options) {spec : Spec} {machine : Machine}
    (known : mine machine.systemId) (named : spec.hostname.getD key.name = hostname)
    (start : invariant s)
    (broken : Lifecycle.State.ofText machine.statusName = .broken →
      ∀ (hostId : Option String) (ok : Instance → σ → Prop),
        (recoverBroken key machine.systemId hostId : Pass Instance).Ensures P ok err s)
    (failed : (Lifecycle.State.ofText machine.statusName).isFailed = true →
      (release key machine.systemId).Ensures P (fun _ => Closes err) err s) :
    (continueBareMetal options key spec machine).Ensures P
      (fun seen s' => mine seen.systemId ∧ invariant s') err s := by
  unfold Engine.continueBareMetal
  extract_lets systemId state
  change state = .broken → _ at broken
  change state.isFailed = true → _ at failed
  clear_value state
  cases state with
  | allocated => exact sustains.configureAndDeploy options known named start
  | ready =>
      refine (sustains.allocateAgain known start).bind fun machine s' kept => ?_
      exact sustains.configureAndDeploy options kept.1 named kept.2
  | deploying => exact Pass.ensures_pure.mpr ⟨known, start⟩
  | deployed => exact shownOf (sustains.powerOn known start)
  | broken => exact broken rfl none _
  | _ => exact sustains.unsettled failed start

theorem tagged {machine : Machine} (tags : List String) (known : mine machine.systemId)
    (start : invariant s) :
    (ensureTags machine tags).Ensures P
      (fun tagged s' => tagged = { machine with tagNames := tagged.tagNames } ∧ invariant s')
      err s :=
  (ensureTags_ensures machine tags (sustains.tends _ known) (fun _ => trivial) (fun _ => rfl) start).mono
    (fun _ _ kept => ⟨kept.2, kept.1⟩) fun failure s' kept => sustains.fails failure s' kept.1 kept.2

theorem finishVirtual (options : Options) {spec : Spec} {machine : Machine} {allocated : Bool}
    (known : mine machine.systemId) (start : invariant s) :
    (finishVirtual options key spec machine allocated).Ensures P
      (fun seen s' => mine seen.systemId ∧ invariant s') err s := by
  unfold Engine.finishVirtual
  extract_lets systemId deploys allocates
  have deployed : ∀ s', invariant s' → (deploys ()).Ensures P
      (fun seen s'' => mine seen.systemId ∧ invariant s'') err s' := fun s' kept =>
    shownOf (sustains.deploy options spec known kept)
  have readied : ∀ s', invariant s' → (allocates ()).Ensures P
      (fun seen s'' => mine seen.systemId ∧ invariant s'') err s' := by
    intro s' kept
    cases allocated with
    | true => exact deployed s' kept
    | false =>
        exact (discarded (sustains.allocateAgain known kept)).bind fun _ => deployed
  refine (discarded (sustains.tagged spec.tags known start)).bind fun _ s' kept => ?_
  refine (sustains.wired known (spares_verifyNetwork _) kept).bind fun _ s' kept => ?_
  cases spec.staticIp with
  | none => exact readied s' kept
  | some staticIp =>
      exact (sustains.wired known (spares_applyStaticIp key staticIp) kept).bind fun _ => readied

theorem continueVirtual (options : Options) {spec : Spec} {machine : Machine}
    (known : mine machine.systemId) (start : invariant s)
    (broken : Lifecycle.State.ofText machine.statusName = .broken →
      ∀ (hostId : Option String) (ok : Instance → σ → Prop),
        (recoverBroken key machine.systemId hostId : Pass Instance).Ensures P ok err s)
    (failed : (Lifecycle.State.ofText machine.statusName).isFailed = true →
      (release key machine.systemId).Ensures P (fun _ => Closes err) err s) :
    (continueVirtual options key spec machine).Ensures P
      (fun seen s' => mine seen.systemId ∧ invariant s') err s := by
  unfold Engine.continueVirtual
  extract_lets systemId state
  change state = .broken → _ at broken
  change state.isFailed = true → _ at failed
  clear_value state
  have waits : ∀ text, (throw (.stillProvisioning systemId text) : Pass Instance).Ensures P
      (fun seen s' => mine seen.systemId ∧ invariant s') err s := fun text =>
    Pass.ensures_throw.mpr (sustains.fails _ s rfl start)
  cases state with
  | commissioning => exact waits _
  | testing => exact waits _
  | new => exact waits _
  | ready => exact sustains.finishVirtual options known start
  | allocated => exact sustains.finishVirtual options known start
  | deploying => exact Pass.ensures_pure.mpr ⟨known, start⟩
  | deployed => exact shownOf (sustains.powerOn known start)
  | broken => exact broken rfl _ _
  | failedDeployment => exact releaseFailed (failed rfl)
  | _ => exact sustains.unsettled failed start

/-- A machine just recorded is tagged and then gone on with. -/
theorem tagAndContinue (options : Options) {spec : Spec} {machine : Machine}
    (known : mine machine.systemId) (start : invariant s)
    (broken : Lifecycle.State.ofText machine.statusName = .broken → ∀ s', invariant s' →
      ∀ (hostId : Option String) (ok : Instance → σ → Prop),
        (recoverBroken key machine.systemId hostId : Pass Instance).Ensures P ok err s')
    (failed : (Lifecycle.State.ofText machine.statusName).isFailed = true → ∀ s', invariant s' →
      (release key machine.systemId).Ensures P (fun _ => Closes err) err s') :
    (do Engine.continueVirtual options key spec (← ensureTags machine spec.tags)).Ensures P
      (fun seen s' => mine seen.systemId ∧ invariant s') err s := by
  refine (sustains.tagged spec.tags known start).bind fun tagged s' after => ?_
  obtain ⟨same, kept⟩ := after
  rw [same]
  exact sustains.continueVirtual options known kept (fun is => broken is s' kept)
    fun is => failed is s' kept

theorem continueWith (options : Options) {spec : Spec} {machine : Machine}
    (known : mine machine.systemId) (named : spec.hostname.getD key.name = hostname)
    (start : invariant s)
    (broken : Lifecycle.State.ofText machine.statusName = .broken →
      ∀ (hostId : Option String) (ok : Instance → σ → Prop),
        (recoverBroken key machine.systemId hostId : Pass Instance).Ensures P ok err s)
    (failed : (Lifecycle.State.ofText machine.statusName).isFailed = true →
      (release key machine.systemId).Ensures P (fun _ => Closes err) err s) :
    (match spec.mode with
      | .bareMetal => Engine.continueBareMetal options key spec machine
      | .virtualized => Engine.continueVirtual options key spec machine).Ensures P
      (fun seen s' => mine seen.systemId ∧ invariant s') err s := by
  cases spec.mode with
  | bareMetal => exact sustains.continueBareMetal options known named start broken failed
  | virtualized => exact sustains.continueVirtual options known start broken failed

end Sustains

/-- What a protocol has to bear of the look at a recorded instance: it goes on from `looked`, gives
    a broken or failed instance up, or forgets one that is gone. -/
structure Resumes (P : Discipline σ) (invariant : σ → Prop) (key : Key) (mine : String → Prop)
    (systemId : String) (err : Failure → σ → Prop) (s : σ) : Prop where
  allowed : P.allows s (.maas (.getMachine systemId))
  seen : ∀ machine s', P.leads s (.maas (.getMachine systemId)) (.ok machine) s' →
    mine machine.systemId ∧ invariant s'
  broken : ∀ machine s', P.leads s (.maas (.getMachine systemId)) (.ok machine) s' →
    Lifecycle.State.ofText machine.statusName = .broken →
      ∀ (hostId : Option String) (ok : Instance → σ → Prop),
        (recoverBroken key machine.systemId hostId : Pass Instance).Ensures P ok err s'
  failed : ∀ machine s', P.leads s (.maas (.getMachine systemId)) (.ok machine) s' →
    (Lifecycle.State.ofText machine.statusName).isFailed = true →
      (release key machine.systemId).Ensures P (fun _ => Closes err) err s'
  gone : ∀ text s', P.leads s (.maas (.getMachine systemId)) (.error (.notFound text)) s' →
    (Pass.store (.clearInstance key)).Ensures P (fun _ => Closes err) err s'
  refused : ∀ error s', P.leads s (.maas (.getMachine systemId)) (.error error) s' →
    ∀ failure, failure.released = false → err failure s'

theorem Sustains.resume (sustains : Sustains P invariant key mine hostname err) (options : Options)
    {spec : Spec} {checkpoint : Store.Checkpoint} (named : spec.hostname.getD key.name = hostname)
    (resumes : Resumes P invariant key mine checkpoint.instanceId err s) :
    (resume options key spec checkpoint).Ensures P
      (fun seen s' => mine seen.systemId ∧ invariant s') err s := by
  unfold Engine.resume
  extract_lets systemId
  refine Pass.ensures_bind.mpr (Pass.ensures_tryMaas.mpr ⟨resumes.allowed, fun reply s' leads => ?_⟩)
  cases reply with
  | ok machine =>
      obtain ⟨known, kept⟩ := resumes.seen machine s' leads
      exact sustains.continueWith options known named kept (resumes.broken machine s' leads)
        (resumes.failed machine s' leads)
  | error error =>
      simp only
      split
      · exact (resumes.gone _ s' leads).bind fun _ t closes =>
          Pass.ensures_throw.mpr (closes _ (Failure.givesUp_instanceGone systemId))
      · exact Pass.ensures_throw.mpr (resumes.refused _ s' leads _ rfl)

end MachineProvisioning.Engine
