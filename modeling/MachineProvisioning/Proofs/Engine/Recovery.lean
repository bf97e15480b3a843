import MachineProvisioning.Engine.Reconcile
import MachineProvisioning.Proofs.Engine.Passes
import MachineProvisioning.Proofs.Failure

/-! # Giving instances back

The rules for releases and for the recovery of broken machines. A protocol says with `Frees` where a
release leads; what it says of the store decides whether the record goes with the machine.
-/

namespace MachineProvisioning.Engine

open Resource (Key)
open Store (Checkpoint Saved)

/-- What giving an instance back asks for. -/
def Recovers (key : Key) (systemId : String) : Effect → Prop
  | .maas (.release x _) => x = systemId
  | .maas (.getVmHost _) => True
  | .store (.load k) | .store (.clearInstance k) => k = key
  | .count _ => True
  | _ => False

/-- What is asked for before there is an instance. -/
def Surveys : Effect → Prop
  | .maas (.getMachine _) | .maas .listVmHosts | .store (.listStaticIps _)
  | .store (.annotate _ _ _) => True
  | _ => False

/-- The look at the VM host of a broken machine. -/
def Inspects : Effect → Prop
  | .maas (.getVmHost _) => True
  | _ => False

variable {σ α : Type} {P : Discipline σ} {key : Key} {systemId : String} {s : σ}

theorem Inspects.recovers {effect : Effect} (inspects : Inspects effect) :
    Recovers key systemId effect := by
  unfold Inspects at inspects
  split at inspects
  · trivial
  · cases inspects

section

variable {kind : Effect → Prop} (releases : ∀ force, kind (.maas (.release systemId force)))
  (counts : kind (.count .forcedRelease))

include releases counts

theorem forceRelease_asks : (forceRelease systemId).Asks kind := by
  refine Pass.Asks.bind (Pass.asks_tryMaas (releases true)) fun reply => ?_
  split
  · exact Pass.asks_count counts
  · exact Pass.asks_pure ()
  · exact Pass.asks_throw _

variable (clears : kind (.store (.clearInstance key)))

include clears

theorem release_asks : (release key systemId).Asks kind := by
  refine Pass.Asks.bind (Pass.asks_tryMaas (releases false)) fun reply => ?_
  have clears : (Pass.store (.clearInstance key)).Asks kind := Pass.asks_store clears
  have forces := forceRelease_asks releases counts
  split
  · exact clears
  · exact clears
  · exact forces.bind fun _ => clears
  · exact forces.bind fun _ => clears
  · exact Pass.asks_throw _

theorem recoverBroken_asks (hostId : Option String) (loads : kind (.store (.load key)))
    (inspects : ∀ id, kind (.maas (.getVmHost id))) :
    (recoverBroken key systemId hostId : Pass α).Asks kind := by
  refine (forceRelease_asks releases counts).bind fun _ => (Pass.asks_store loads).bind fun saved => ?_
  extract_lets leave
  have leaves : (leave ()).Asks kind := by
    refine Pass.Asks.bind ?_ fun _ => Pass.asks_throw _
    unfold inspectHost
    split
    · next id _ =>
        exact Pass.Asks.bind (Pass.asks_tryMaas (inspects (UInt64.ofNat id))) fun _ => Pass.asks_pure ()
    · exact Pass.asks_pure ()
  split
  · exact (Pass.asks_store clears).bind fun _ => leaves
  · exact leaves

end

theorem asks_release : (release key systemId).Asks (Recovers key systemId) :=
  release_asks (fun _ => rfl) trivial rfl

variable {freed refused cleared : σ → Prop} {err : Failure → σ → Prop}

/-- A release of the instance may be asked for, and leads to `freed` when MAAS releases it or does not
    know it, and to `refused` otherwise. -/
structure Frees (P : Discipline σ) (systemId : String) (force : Bool) (freed refused : σ → Prop)
    (s : σ) : Prop where
  allowed : P.allows s (.maas (.release systemId force))
  released : ∀ s', P.leads s (.maas (.release systemId force)) (.ok ()) s' → freed s'
  gone : ∀ text s', P.leads s (.maas (.release systemId force)) (.error (.notFound text)) s' → freed s'
  failed : ∀ error s', P.leads s (.maas (.release systemId force)) (.error error) s' → refused s'

/-- The pass may end here with a failure that gives the instance up. -/
def Closes (err : Failure → σ → Prop) (s : σ) : Prop :=
  ∀ failure, (∀ x, failure.GivesUp x) → err failure s

/-- Counting an event keeps this. -/
def Counts (P : Discipline σ) (invariant : σ → Prop) : Prop :=
  P.Tolerates invariant fun effect => ∃ event, effect = .count event

theorem Counts.ensures {invariant : σ → Prop} (counts : Counts P invariant) (event : Event)
    (start : invariant s) : (Pass.count event).Ensures P (fun _ => invariant) err s := by
  obtain ⟨allowed, keeps⟩ := counts s _ start ⟨event, rfl⟩
  exact Pass.ensures_count.mpr ⟨allowed, keeps⟩

theorem forceRelease_ensures (frees : Frees P systemId true freed refused s)
    (counts : Counts P freed)
    (fails : ∀ failure s', failure.released = false → refused s' → err failure s') :
    (forceRelease systemId).Ensures P (fun _ => freed) err s := by
  refine Pass.ensures_bind.mpr (Pass.ensures_tryMaas.mpr ⟨frees.allowed, fun reply s' leads => ?_⟩)
  split
  · exact counts.ensures _ (frees.released s' leads)
  · exact Pass.ensures_pure.mpr (frees.gone _ s' leads)
  · exact Pass.ensures_throw.mpr (fails _ s' rfl (frees.failed _ s' leads))

theorem release_ensures {ok : Unit → σ → Prop} (frees : Frees P systemId false freed refused s)
    (forces : ∀ s', refused s' → Frees P systemId true freed refused s') (counts : Counts P freed)
    (fails : ∀ failure s', failure.released = false → refused s' → err failure s')
    (clears : ∀ s', freed s' → (Pass.store (.clearInstance key)).Ensures P ok err s') :
    (release key systemId).Ensures P ok err s := by
  refine Pass.ensures_bind.mpr (Pass.ensures_tryMaas.mpr ⟨frees.allowed, fun reply s' leads => ?_⟩)
  have forced : refused s' → (forceRelease systemId).Ensures P (fun _ => freed) err s' :=
    fun refused => forceRelease_ensures (forces s' refused) counts fails
  split
  · exact clears s' (frees.released s' leads)
  · exact clears s' (frees.gone _ s' leads)
  · exact (forced (frees.failed _ s' leads)).bind fun _ => clears
  · exact (forced (frees.failed _ s' leads)).bind fun _ => clears
  · exact Pass.ensures_throw.mpr (fails _ s' rfl (frees.failed _ s' leads))

theorem inspectHost_ensures {invariant : σ → Prop} (hostId : Option String)
    (inspects : P.Tolerates invariant Inspects) (start : invariant s) :
    (inspectHost hostId).Ensures P (fun _ => invariant) err s := by
  unfold inspectHost
  split
  · next id _ =>
      obtain ⟨allowed, keeps⟩ := inspects s (.maas (.getVmHost (UInt64.ofNat id))) start trivial
      exact Pass.ensures_discard.mpr (Pass.ensures_tryMaas.mpr ⟨allowed, keeps⟩)
  · exact Pass.ensures_pure.mpr start

/-- After the release the record is read, and cleared when it names the machine. -/
theorem recoverBroken_ensures {ok : α → σ → Prop} (hostId : Option String)
    (frees : Frees P systemId true freed refused s) (counts : Counts P freed)
    (fails : ∀ failure s', failure.released = false → refused s' → err failure s')
    (loads : ∀ s', freed s' → (Pass.store (.load key)).Ensures P
      (fun saved s'' =>
        if saved.checkpoint.map (·.instanceId) = some systemId then
          (Pass.store (.clearInstance key)).Ensures P (fun _ => cleared) err s''
        else cleared s'') err s')
    (inspects : P.Tolerates cleared Inspects)
    (ends : ∀ s', cleared s' → err (.brokenInstance systemId) s') :
    (recoverBroken key systemId hostId).Ensures P ok err s := by
  unfold recoverBroken
  refine (forceRelease_ensures frees counts fails).bind fun _ s' freed => ?_
  refine (loads s' freed).bind fun saved s'' after => ?_
  extract_lets leave
  have leaves : ∀ t, cleared t → (leave ()).Ensures P ok err t := by
    intro t cleared
    exact (inspectHost_ensures hostId inspects cleared).bind fun _ t' kept =>
      Pass.ensures_throw.mpr (ends t' kept)
  split
  · rw [if_pos (by assumption)] at after
    exact after.bind fun _ => leaves
  · rw [if_neg (by assumption)] at after
    exact leaves s'' after

/-- A recovery under a protocol that tolerates all that a recovery asks for. -/
theorem recoverBroken_tolerated {ok : α → σ → Prop} {invariant : σ → Prop} (hostId : Option String)
    (tolerates : P.Tolerates invariant (Recovers key systemId))
    (fails : ∀ failure s', invariant s' → err failure s') (start : invariant s) :
    (recoverBroken key systemId hostId : Pass α).Ensures P ok err s := by
  have force : ∀ t, invariant t → Frees P systemId true invariant invariant t := by
    intro t kept
    obtain ⟨allowed, keeps⟩ := tolerates t (.maas (.release systemId true)) kept rfl
    exact ⟨allowed, keeps _, fun _ => keeps _, fun _ => keeps _⟩
  have counts : Counts P invariant := by
    intro t effect kept counts
    obtain ⟨event, rfl⟩ := counts
    exact tolerates t _ kept trivial
  have clears : (Pass.store (.clearInstance key)).Asks (Recovers key systemId) :=
    Pass.asks_store rfl
  have loads : (Pass.store (.load key)).Asks (Recovers key systemId) := Pass.asks_store rfl
  have inspects : P.Tolerates invariant Inspects := fun t effect kept inspects =>
    tolerates t effect kept inspects.recovers
  refine recoverBroken_ensures hostId (force s start) counts (fun failure s' _ => fails failure s') ?_
    inspects (fails _)
  intro t kept
  refine (loads.ensures tolerates kept).mono (fun saved t' kept => ?_) fails
  split
  · exact (clears.ensures tolerates kept).mono (fun _ _ kept => kept) fails
  · exact kept

/-- The look at a machine that MAAS calls broken. -/
def Looks : Effect → Prop
  | .maas (.getMachine _) => True
  | _ => False

theorem Looks.surveys {effect : Effect} (looks : Looks effect) : Surveys effect := by
  unfold Looks at looks
  split at looks
  · trivial
  · cases looks

/-- The target is the machine that MAAS named or the one that the operation addressed. -/
theorem brokenTarget_ensures {kept : σ → Prop} {named target : Option String}
    (looks : P.Tolerates kept Looks) (start : kept s) :
    (brokenTarget named target).Ensures P
      (fun found s' => (found = named ∨ found = target) ∧ kept s') err s := by
  cases named with
  | none => exact Pass.ensures_pure.mpr ⟨.inr rfl, start⟩
  | some systemId =>
      obtain ⟨allowed, keeps⟩ := looks s (.maas (.getMachine systemId)) start trivial
      refine Pass.ensures_bind.mpr (Pass.ensures_tryMaas.mpr ⟨allowed, fun reply s' leads => ?_⟩)
      cases reply with
      | ok machine => exact Pass.ensures_pure.mpr ⟨.inl rfl, keeps _ s' leads⟩
      | error error => exact Pass.ensures_pure.mpr ⟨.inr rfl, keeps _ s' leads⟩

/-- A failure ends the pass, after a machine that it calls broken has been recovered. -/
theorem failWith_ensures {ok : α → σ → Prop} (kept : σ → Prop) {context : String}
    {target : Option String} {error : Maas.Error} (looks : P.Tolerates kept Looks)
    (fails : ∀ failure s', failure.released = false → kept s' → err failure s')
    (own : ∀ x ∈ target, ∀ hostId s', kept s' →
      (recoverBroken key x hostId : Pass α).Ensures P ok err s')
    (other : ∀ x hostId text, error = .brokenMachine (some x) hostId text → ∀ s', kept s' →
      (recoverBroken key x hostId : Pass α).Ensures P ok err s')
    (start : kept s) : (failWith key context target error : Pass α).Ensures P ok err s := by
  cases error with
  | brokenMachine named hostId text =>
      refine (brokenTarget_ensures looks start).bind fun found s' after => ?_
      obtain ⟨rfl | rfl, kept⟩ := after
      · cases found with
        | none => exact Pass.ensures_throw.mpr (fails _ s' rfl kept)
        | some x => exact other x hostId text rfl s' kept
      · cases found with
        | none => exact Pass.ensures_throw.mpr (fails _ s' rfl kept)
        | some x => exact own x rfl hostId s' kept
  | _ => exact Pass.ensures_throw.mpr (fails _ s rfl start)

/-- A failure under a protocol that tolerates all that a survey and a recovery ask for. -/
theorem failWith_tolerated {ok : α → σ → Prop} {invariant : σ → Prop} {context : String}
    {target : Option String} {error : Maas.Error} (surveys : P.Tolerates invariant Surveys)
    (recovers : ∀ x, P.Tolerates invariant (Recovers key x))
    (fails : ∀ failure s', invariant s' → err failure s') (start : invariant s) :
    (failWith key context target error : Pass α).Ensures P ok err s := by
  refine failWith_ensures invariant (surveys.mono fun _ looks => looks.surveys)
    (fun failure s' _ => fails failure s') ?_ ?_ start
  · exact fun x _ hostId s' kept => recoverBroken_tolerated hostId (recovers x) fails kept
  · exact fun x hostId _ _ s' kept => recoverBroken_tolerated hostId (recovers x) fails kept

end MachineProvisioning.Engine
