import MachineProvisioning.Proofs.Engine.Continuation

/-! # Taking an instance

The rules for the parts of a pass that get an instance and record it. Before there is one, a pass only
looks around; `Surveys` says what that asks for. An instance comes from an allocation, from a
composition or from a listing in which the declared hostname is found.
-/

namespace MachineProvisioning.Engine

open Resource (Key Spec VirtualizedSpec StaticIpSpec)
open Maas (Machine VmHost)
open Store (Checkpoint)

theorem asks_assess {policy : Placement.Policy} (host : VmHost) :
    (Placement.assess policy host).Asks Looks := by
  unfold Placement.assess
  split
  · exact Program.asks_done _
  · split
    · exact Program.asks_done _
    · exact Program.Asks.bind (Program.asks_request trivial) fun _ => Program.asks_done _

theorem asks_assessAll {policy : Placement.Policy} (hosts : List VmHost)
    (known : Placement.Assessed) : (Placement.assessAll policy hosts known).Asks Looks := by
  induction hosts generalizing known with
  | nil => exact Program.asks_done _
  | cons host rest ih =>
      unfold Placement.assessAll
      have others : ∀ found : Placement.Assessment × Placement.Assessed, Program.Asks Looks
          (Placement.assessAll policy rest found.2 >>= fun seen =>
            pure ((host, found.1) :: seen.1, seen.2)) := fun found =>
        Program.Asks.bind (ih found.2) fun _ => Program.asks_done _
      cases known.get? host.id with
      | some assessment => exact others (assessment, known)
      | none =>
          refine Program.Asks.bind (asks_assess host) fun assessment => ?_
          exact others (assessment, known.insert host.id assessment)

theorem asks_selectFrom {policy : Placement.Policy} {hosts : List VmHost}
    (tiers : List Placement.Tier) (known : Placement.Assessed) :
    (Placement.selectFrom policy hosts tiers known).Asks Looks := by
  induction tiers generalizing known with
  | nil => exact Program.asks_done _
  | cons tier rest ih =>
      unfold Placement.selectFrom
      refine Program.Asks.bind (asks_assessAll _ known) fun assessed => ?_
      obtain ⟨assessed, known⟩ := assessed
      simp only
      split
      · exact Program.asks_done _
      · exact ih known

/-- To choose a host is to look at the machines of hosts. -/
theorem asks_select {policy : Placement.Policy} (order : Placement.Relaxation)
    (hosts : List VmHost) (zone pool : Option String) :
    (Placement.select policy order hosts zone pool).Asks Looks := by
  refine Program.Asks.bind (asks_selectFrom _ _) fun found => ?_
  split <;> exact Program.asks_done _

theorem spares_choose {policy : Placement.Policy} (order : Placement.Relaxation)
    (hosts : List VmHost) (zone pool : Option String) :
    (place.choose policy order hosts zone pool).Spares Surveys := by
  have selects : (Placement.select policy order hosts zone pool).Asks Surveys :=
    (asks_select order hosts zone pool).mono fun _ => Looks.surveys
  have refuses : (Placement.select policy order hosts zone pool).Ends fun found =>
      ∀ unavailable, found = .error unavailable → unavailable.released = false := by
    refine Program.Ends.bind (Program.ends_anyhow _) fun found _ => ?_
    split
    · exact nofun
    · rintro _ ⟨⟩
      simp [Placement.noHost, ProvisioningFailure.released_withDetail,
        ProvisioningFailure.releasedDetail]
  unfold place.choose
  constructor
  · refine Pass.Asks.bind (Pass.asks_lift selects) fun found => ?_
    cases found with
    | ok host => exact Pass.asks_pure host
    | error unavailable => exact Pass.asks_throw _
  · rw [ExceptT.run_bind_lift]
    refine refuses.bind fun found kept => ?_
    cases found with
    | ok host => exact nofun
    | error unavailable => exact fun _ same => Except.error.inj same ▸ kept unavailable rfl

theorem spares_place {policy : Placement.Policy} {spec : Spec} (shape : VirtualizedSpec)
    (hosts : List VmHost) : (place policy spec shape hosts).Spares Surveys := by
  unfold place
  split
  · extract_lets candidates chooses
    split
    · exact Pass.Spares.bind (Pass.spares_throw rfl) fun _ => spares_choose _ _ _ _
    · exact spares_choose _ _ _ _
  · exact spares_choose _ _ _ _

theorem mem_of_bestOf {best : Option (Nat × VmHost)} {rank : Nat} {host : VmHost}
    {assessed : List (VmHost × Placement.Assessment)}
    (found : Placement.bestOf best assessed = some (rank, host)) :
    best = some (rank, host) ∨ host ∈ assessed.map Prod.fst := by
  induction assessed generalizing best with
  | nil => exact .inl found
  | cons first rest ih =>
      obtain ⟨candidate, assessment⟩ := first
      have later : host ∈ rest.map Prod.fst → host ∈ ((candidate, assessment) :: rest).map Prod.fst :=
        .tail _
      have here : some (rank, host) = some (rank, candidate) →
          host ∈ ((candidate, assessment) :: rest).map Prod.fst := by
        rintro ⟨⟩
        exact .head _
      unfold Placement.bestOf at found
      split at found
      · exact (ih found).imp_right later
      · split at found
        · rcases ih found with same | mem
          · cases same
            exact .inr (.head _)
          · exact .inr (later mem)
        · rcases ih found with same | mem
          · split at same
            · cases same
              exact .inr (.head _)
            · exact .inl same
          · exact .inr (later mem)

theorem ends_assessAll {policy : Placement.Policy} (hosts : List VmHost)
    (known : Placement.Assessed) :
    (Placement.assessAll policy hosts known).Ends fun assessed =>
      assessed.1.map Prod.fst = hosts := by
  induction hosts generalizing known with
  | nil => rfl
  | cons host rest ih =>
      unfold Placement.assessAll
      have others : ∀ found : Placement.Assessment × Placement.Assessed, Program.Ends
          (fun assessed => assessed.1.map Prod.fst = host :: rest)
          (Placement.assessAll policy rest found.2 >>= fun seen =>
            pure ((host, found.1) :: seen.1, seen.2)) := fun found =>
        Program.Ends.bind (ih found.2) fun _ same => congrArg (host :: ·) same
      cases known.get? host.id with
      | some assessment => exact others (assessment, known)
      | none =>
          refine Program.Ends.bind (Program.ends_anyhow _) fun assessment _ => ?_
          exact others (assessment, known.insert host.id assessment)

theorem ends_selectFrom {policy : Placement.Policy} {hosts : List VmHost}
    (tiers : List Placement.Tier) (known : Placement.Assessed) :
    (Placement.selectFrom policy hosts tiers known).Ends fun chosen =>
      ∀ host ∈ chosen, host ∈ hosts := by
  induction tiers generalizing known with
  | nil => exact nofun
  | cons tier rest ih =>
      unfold Placement.selectFrom
      refine Program.Ends.bind (ends_assessAll _ known) fun assessed same => ?_
      simp only
      split
      · next best =>
          rintro host ⟨⟩
          have mem := (mem_of_bestOf best).resolve_left nofun
          rw [same] at mem
          exact (List.mem_filter.mp mem).1
      · exact ih _

theorem ends_choose {policy : Placement.Policy} (order : Placement.Relaxation)
    (hosts : List VmHost) (zone pool : Option String) :
    (place.choose policy order hosts zone pool).run.Ends fun result =>
      ∀ host, result = .ok host → host ∈ hosts := by
  have selects : (Placement.select policy order hosts zone pool).Ends fun found =>
      ∀ host, found = .ok host → host ∈ hosts := by
    refine Program.Ends.bind (ends_selectFrom _ _) fun found mem => ?_
    cases found with
    | some host => exact fun _ same => Except.ok.inj same ▸ mem host rfl
    | none => exact nofun
  unfold place.choose
  rw [ExceptT.run_bind_lift]
  refine selects.bind fun found mem => ?_
  cases found with
  | ok host => exact fun _ same => Except.ok.inj same ▸ mem host rfl
  | error unavailable => exact nofun

/-- The host to compose on is one of those listed. -/
theorem ends_place {policy : Placement.Policy} {spec : Spec} (shape : VirtualizedSpec)
    (hosts : List VmHost) : (place policy spec shape hosts).run.Ends fun result =>
      ∀ host, result = .ok host → host ∈ hosts := by
  unfold place
  split
  · next pinned _ =>
      extract_lets candidates chooses
      have chosen : (chooses ()).run.Ends fun result => ∀ host, result = .ok host → host ∈ hosts :=
        Program.Ends.mono (ends_choose _ _ _ _) fun _ mem host same =>
          (List.mem_filter.mp (mem host same)).1
      split
      · exact nofun
      · exact chosen
  · exact ends_choose _ _ _ _

/-! ## What a protocol has to bear -/

variable {σ α : Type} {P : Discipline σ} {free : σ → Prop} {taken owned : String → σ → Prop}
  {key : Key} {err : Failure → σ → Prop} {s : σ}

/-- What is asked for other than to take an instance. -/
def Routine (effect : Effect) : Prop :=
  Surveys effect ∨ (∃ x name, Tends x name effect) ∨ ∃ key x, Recovers key x effect

section

variable {invariant : σ → Prop} (tolerates : P.Tolerates invariant Routine)
  (fails : ∀ failure s', invariant s' → err failure s')

include tolerates fails

theorem routine_recoverBroken {ok : α → σ → Prop} (x : String) (hostId : Option String)
    (start : invariant s) : (recoverBroken key x hostId : Pass α).Ensures P ok err s :=
  recoverBroken_tolerated hostId (tolerates.mono fun _ h => .inr (.inr ⟨key, x, h⟩)) fails start

theorem routine_release (x : String) (start : invariant s) :
    (release key x).Ensures P (fun _ => Closes err) err s :=
  (asks_release.ensures (tolerates.mono fun _ h => .inr (.inr ⟨key, x, h⟩)) start).mono
    (fun _ _ kept failure _ => fails failure _ kept) fails

theorem routine_failWith {ok : α → σ → Prop} {context : String} {target : Option String}
    {error : Maas.Error} (start : invariant s) :
    (failWith key context target error : Pass α).Ensures P ok err s :=
  failWith_tolerated (tolerates.mono fun _ => .inl)
    (fun x => tolerates.mono fun _ h => .inr (.inr ⟨key, x, h⟩)) fails start

end

/-- A pass looks around while it is `free`, has `taken` an instance, and has `owned` it once it is
    recorded. -/
structure Acquires (P : Discipline σ) (free : σ → Prop) (taken owned : String → σ → Prop) (key : Key)
    (err : Failure → σ → Prop) : Prop where
  surveys : P.Tolerates free Surveys
  fails : ∀ failure s, failure.released = false → free s → err failure s
  unannotated : ∀ name value s fault s', free s →
    P.leads s (.store (.annotate key name value)) (.error fault) s' → err fault s'
  records : ∀ x s checkpoint, taken x s → checkpoint.instanceId = x →
    P.allows s (.store (.recordInstance key checkpoint))
  recorded : ∀ x s checkpoint s', taken x s → checkpoint.instanceId = x →
    P.leads s (.store (.recordInstance key checkpoint)) (.ok ()) s' → owned x s'
  counts : ∀ x, Counts P (owned x)

theorem Acquires.surveyed (acquires : Acquires P free taken owned key err) {p : Pass α}
    (spares : p.Spares Surveys) (start : free s) : p.Ensures P (fun _ => free) err s :=
  (spares.ensures acquires.surveys start).mono (fun _ _ kept => kept)
    fun failure s' kept => acquires.fails failure s' kept.1 kept.2

theorem Acquires.annotated (acquires : Acquires P free taken owned key err) (name value : String)
    (start : free s) :
    (Pass.store (.annotate key name value)).Ensures P (fun _ => free) err s := by
  obtain ⟨allowed, keeps⟩ := acquires.surveys s (.store (.annotate key name value)) start trivial
  refine Pass.ensures_store.mpr ⟨allowed, fun _ s' leads => keeps _ s' leads, ?_⟩
  exact fun fault s' leads => acquires.unannotated name value s fault s' start leads

/-- What is asked of a machine to allocate. -/
def allocation (spec : Spec) : Maas.AllocateParams :=
  { cpuCount := some spec.minCpu
    memory := some spec.minMemoryMib
    zone := spec.failureDomain
    pool := spec.resourcePool
    tags := spec.tags }

/-- What a protocol has to bear of an allocation, of which `fine` holds when it succeeds. -/
structure Allocates (P : Discipline σ) (free : σ → Prop) (taken : String → σ → Prop)
    (fine : Machine → Prop) (key : Key) (spec : Spec) (err : Failure → σ → Prop) : Prop where
  allowed : ∀ s, free s → P.allows s (.maas (.allocate (allocation spec)))
  allocated : ∀ s machine s', free s →
    P.leads s (.maas (.allocate (allocation spec))) (.ok machine) s' →
      fine machine ∧ taken machine.systemId s'
  refused : ∀ s error s', free s →
    P.leads s (.maas (.allocate (allocation spec))) (.error error) s' →
      (∀ failure, failure.released = false → err failure s') ∧ ∀ (context : String) (ok : Machine → σ → Prop),
        (failWith key context none error : Pass Machine).Ensures P ok err s'
  unrecorded : ∀ x s checkpoint fault s', taken x s → checkpoint.instanceId = x →
    P.leads s (.store (.recordInstance key checkpoint)) (.error fault) s' →
      P.allows s' (.maas (.release x false)) ∧
        ∀ reply s'', P.leads s' (.maas (.release x false)) reply s'' → err fault s''

theorem allocateDeclared_ensures {fine : Machine → Prop} {spec : Spec}
    (allocates : Allocates P free taken fine key spec err) (start : free s) :
    (allocateDeclared key spec).Ensures P
      (fun machine s' => fine machine ∧ taken machine.systemId s') err s := by
  refine Pass.ensures_bind.mpr (Pass.ensures_tryMaas.mpr ⟨allocates.allowed s start, ?_⟩)
  intro reply s' leads
  cases reply with
  | ok machine => exact Pass.ensures_pure.mpr (allocates.allocated s machine s' start leads)
  | error error =>
      obtain ⟨fails, abandons⟩ := allocates.refused s error s' start leads
      simp only
      split
      · exact Pass.ensures_throw.mpr <| fails _ <| by
          simp [ProvisioningFailure.released_withDetail, ProvisioningFailure.releasedDetail]
      · exact abandons _ _

theorem recordAllocated_ensures {fine : Machine → Prop} {spec : Spec} {machine : Machine}
    (acquires : Acquires P free taken owned key err)
    (allocates : Allocates P free taken fine key spec err) (start : taken machine.systemId s) :
    (recordAllocated key spec machine).Ensures P (fun _ => owned machine.systemId) err s := by
  unfold recordAllocated
  extract_lets zone checkpoint
  have allowed := acquires.records _ s checkpoint start rfl
  refine Pass.ensures_bind.mpr (Pass.ensures_tryStore.mpr ⟨allowed, fun reply s' leads => ?_⟩)
  cases reply with
  | ok value =>
      exact (acquires.counts _).ensures _ (acquires.recorded _ s checkpoint s' start rfl leads)
  | error fault =>
      obtain ⟨released, ends⟩ := allocates.unrecorded _ s checkpoint fault s' start rfl leads
      refine Pass.ensures_bind.mpr (Pass.ensures_discard.mpr (Pass.ensures_tryMaas.mpr ⟨released, ?_⟩))
      exact fun reply s'' leads => Pass.ensures_throw.mpr (ends reply s'' leads)

theorem allocateBareMetal_ensures {fine : Machine → Prop} {options : Options} {spec : Spec}
    {ok : Lifecycle.Instance → σ → Prop} (acquires : Acquires P free taken owned key err)
    (allocates : Allocates P free taken fine key spec err)
    (continues : ∀ machine s', fine machine → owned machine.systemId s' →
      (continueBareMetal options key spec machine).Ensures P ok err s') (start : free s) :
    (allocateBareMetal options key spec).Ensures P ok err s := by
  unfold allocateBareMetal
  extract_lets rest
  have goes : ∀ s', free s' → (rest ()).Ensures P ok err s' := by
    intro s' start
    refine (allocateDeclared_ensures allocates start).bind fun machine s' obtained => ?_
    refine (recordAllocated_ensures acquires allocates obtained.2).bind fun _ s' kept => ?_
    exact continues machine s' obtained.1 kept
  cases spec.staticIp with
  | none => exact goes s start
  | some staticIp =>
      exact (acquires.surveyed (.discard (spares_validated trivial)) start).bind fun _ => goes

/-- The parameters describe the declared machine. -/
def Describes (key : Key) (spec : Spec) (params : Maas.ComposeParams) : Prop :=
  params.hostname = spec.hostname.getD key.name ∧ params.cores = spec.minCpu ∧
    params.memory = spec.minMemoryMib

/-- What a listing leads to: the first machine of the hostname is taken. -/
def Finds (free : σ → Prop) (taken : String → σ → Prop) (hostname : String)
    (machines : List Machine) (s : σ) : Prop :=
  match machines.find? (Wiring.hostnameMatches · hostname) with
  | some machine => taken machine.systemId s
  | none => free s

/-- What a protocol has to bear of a composition, and of a listing after one was refused. -/
structure Composes (P : Discipline σ) (free : σ → Prop) (taken : String → σ → Prop) (key : Key)
    (spec : Spec) (err : Failure → σ → Prop) : Prop where
  allowed : ∀ hostId params s, Describes key spec params → free s →
    P.allows s (.maas (.compose hostId params))
  composed : ∀ hostId params s vm s', Describes key spec params → free s →
    P.leads s (.maas (.compose hostId params)) (.ok vm) s' → taken vm.systemId s'
  refused : ∀ hostId params s error s', Describes key spec params → free s →
    P.leads s (.maas (.compose hostId params)) (.error error) s' →
      free s' ∧ ∀ (context : String) (ok : String × Bool → σ → Prop),
        (failWith key context none error : Pass (String × Bool)).Ensures P ok err s'
  lists : ∀ s, free s →
    P.allows s (.maas (.listMachines [("hostname", spec.hostname.getD key.name)]))
  listed : ∀ s machines s', free s →
    P.leads s (.maas (.listMachines [("hostname", spec.hostname.getD key.name)])) (.ok machines) s' →
      Finds free taken (spec.hostname.getD key.name) machines s'
  listFailed : ∀ s error s', free s →
    P.leads s (.maas (.listMachines [("hostname", spec.hostname.getD key.name)])) (.error error) s' →
      free s'
  listsHost : ∀ hostId s, free s → P.allows s (.maas (.listHostVms hostId))
  listedHost : ∀ hostId s machines s', free s →
    P.leads s (.maas (.listHostVms hostId)) (.ok machines) s' →
      Finds free taken (spec.hostname.getD key.name) machines s'
  listHostFailed : ∀ hostId s error s', free s →
    P.leads s (.maas (.listHostVms hostId)) (.error error) s' → free s'
  unrecorded : ∀ x s checkpoint fault s', taken x s → checkpoint.instanceId = x →
    P.leads s (.store (.recordInstance key checkpoint)) (.error fault) s' → err fault s'

variable {spec : Spec}

theorem finds_of_free {hostname : String} {machines : List Machine} (start : free s) :
    Finds free (fun _ => free) hostname machines s := by
  unfold Finds
  split <;> exact start

theorem Finds.mono {free' : σ → Prop} {taken' : String → σ → Prop} {hostname : String}
    {machines : List Machine} (finds : Finds free taken hostname machines s) (frees : free s → free' s)
    (takes : ∀ x, taken x s → taken' x s) : Finds free' taken' hostname machines s := by
  unfold Finds at finds ⊢
  split
  · next machine found =>
      rw [found] at finds
      exact takes _ finds
  · next found =>
      rw [found] at finds
      exact frees finds

/-- A protocol under which calls of MAAS change nothing bears a composition when it bears what comes
    after a refused one and after a failed record. -/
theorem Composes.of_unmoved (allowed : ∀ call s, free s → P.allows s (.maas call))
    (stays : ∀ call reply s s', free s → P.leads s (.maas call) reply s' → free s')
    (abandons : ∀ error s, free s → ∀ (context : String) (ok : String × Bool → σ → Prop),
      (failWith key context none error : Pass (String × Bool)).Ensures P ok err s)
    (unrecorded : ∀ s checkpoint fault s', free s →
      P.leads s (.store (.recordInstance key checkpoint)) (.error fault) s' → err fault s') :
    Composes P free (fun _ => free) key spec err where
  allowed _ _ s _ start := allowed _ s start
  composed _ _ s vm s' _ start leads := stays _ (.ok vm) s s' start leads
  refused _ _ s error s' _ start leads :=
    have kept := stays _ (.error error) s s' start leads
    ⟨kept, abandons error s' kept⟩
  lists s start := allowed _ s start
  listed s machines s' start leads := finds_of_free (stays _ (.ok machines) s s' start leads)
  listFailed s error s' start leads := stays _ (.error error) s s' start leads
  listsHost _ s start := allowed _ s start
  listedHost _ s machines s' start leads := finds_of_free (stays _ (.ok machines) s s' start leads)
  listHostFailed _ s error s' start leads := stays _ (.error error) s s' start leads
  unrecorded _ s checkpoint fault s' start _ leads := unrecorded s checkpoint fault s' start leads

theorem findByHostname_ensures {hostId : UInt64} {hostName : String}
    (acquires : Acquires P free taken owned key err)
    (composes : Composes P free taken key spec err) (start : free s) :
    (findByHostname (spec.hostname.getD key.name) hostId hostName).Ensures P
      (fun found s' => match found with
        | some machine => taken machine.systemId s'
        | none => free s') err s := by
  refine Pass.ensures_bind.mpr (Pass.ensures_maas.mpr ⟨composes.lists s start, ?_, ?_⟩)
  · intro machines s' leads
    have finds := composes.listed s machines s' start leads
    unfold Finds at finds
    split
    · next machine found =>
        rw [found] at finds
        exact Pass.ensures_pure.mpr finds
    · next found =>
        rw [found] at finds
        refine Pass.ensures_bind.mpr (Pass.ensures_maas.mpr ⟨composes.listsHost hostId s' finds, ?_, ?_⟩)
        · intro machines s'' leads
          exact Pass.ensures_pure.mpr (composes.listedHost hostId s' machines s'' finds leads)
        · intro error s'' leads
          exact acquires.fails _ s'' rfl (composes.listHostFailed hostId s' error s'' finds leads)
  · intro error s' leads
    exact acquires.fails _ s' rfl (composes.listFailed s error s' start leads)

theorem released_compositionFailure (host : VmHost) (error : Maas.Error) :
    (compositionFailure host error).released = false := by
  simp [compositionFailure, ProvisioningFailure.released_withDetail,
    ProvisioningFailure.releasedDetail]

theorem composeOrAdopt_ensures {host : VmHost} {pool : Maas.NamedRef} {networks : List String}
    {params : Maas.ComposeParams} (acquires : Acquires P free taken owned key err)
    (composes : Composes P free taken key spec err) (describes : Describes key spec params)
    (start : free s) :
    (composeOrAdopt key host pool networks params).Ensures P
      (fun obtained s' => taken obtained.1 s') err s := by
  have allowed := composes.allowed host.id params s describes start
  refine Pass.ensures_bind.mpr (Pass.ensures_tryMaas.mpr ⟨allowed, fun reply s' leads => ?_⟩)
  cases reply with
  | ok vm =>
      exact Pass.ensures_pure.mpr (composes.composed host.id params s vm s' describes start leads)
  | error error =>
      obtain ⟨kept, abandons⟩ := composes.refused host.id params s error s' describes start leads
      simp only
      split
      · rw [describes.1]
        refine (findByHostname_ensures acquires composes kept).bind fun found s'' finds => ?_
        cases found with
        | some machine => exact Pass.ensures_pure.mpr finds
        | none => exact Pass.ensures_throw.mpr (acquires.fails _ s'' rfl finds)
      · exact Pass.ensures_throw.mpr (acquires.fails _ s' rfl kept)
      · exact abandons _ _
      · exact Pass.ensures_throw.mpr (acquires.fails _ s' (released_compositionFailure _ _) kept)

theorem composeVirtual_ensures {options : Options} {ok : Lifecycle.Instance → σ → Prop}
    (acquires : Acquires P free taken owned key err)
    (composes : Composes P free taken key spec err)
    (continues : ∀ x s', owned x s' →
      P.allows s' (.maas (.getMachine x)) ∧
      (∀ machine s'', P.leads s' (.maas (.getMachine x)) (.ok machine) s'' →
        (do continueVirtual options key spec (← ensureTags machine spec.tags)).Ensures P ok err s'') ∧
      ∀ error s'', P.leads s' (.maas (.getMachine x)) (.error error) s'' →
        ∀ failure, failure.released = false → err failure s'') (start : free s) :
    (composeVirtual options key spec).Ensures P ok err s := by
  unfold composeVirtual
  extract_lets shape hostname places
  have placed : ∀ staticIp s', free s' → (places staticIp).Ensures P ok err s' := by
    intro staticIp s' start
    have lists : (Pass.maas "list VM hosts" .listVmHosts).Spares Surveys := Pass.spares_maas trivial
    refine (acquires.surveyed lists start).bind fun hosts s' start => ?_
    refine (acquires.surveyed (spares_place shape hosts) start).bind fun host s' start => ?_
    extract_lets composes'
    have composed : ∀ pool, (composes' pool).Ensures P ok err s' := by
      intro pool
      refine (acquires.annotated _ _ start).bind fun _ s' start => ?_
      refine (composeOrAdopt_ensures acquires composes ⟨rfl, rfl, rfl⟩ start).bind ?_
      intro obtained s' taken
      obtain ⟨systemId, isNew⟩ := obtained
      refine Pass.ensures_bind.mpr (Pass.ensures_store.mpr ⟨?_, fun _ t leads => ?_, ?_⟩)
      · exact acquires.records systemId s' _ taken rfl
      · have kept := acquires.recorded systemId s' _ t taken rfl leads
        extract_lets looks
        have looked : ∀ t, owned systemId t → (looks ()).Ensures P ok err t := by
          intro t kept
          obtain ⟨allowed, seen, refused⟩ := continues systemId t kept
          refine Pass.ensures_bind.mpr (Pass.ensures_maas.mpr ⟨allowed, seen, ?_⟩)
          exact fun error t' leads => refused error t' leads _ rfl
        cases isNew with
        | false => exact looked t kept
        | true => exact ((acquires.counts systemId).ensures _ kept).bind fun _ => looked
      · exact fun fault t leads => composes.unrecorded systemId s' _ fault t taken rfl leads
    cases host.pool with
    | some pool => exact composed pool
    | none => exact Pass.ensures_bind.mpr (Pass.ensures_throw.mpr (acquires.fails _ s' rfl start))
  cases spec.staticIp with
  | none => exact placed none s start
  | some declared =>
      have validates : (validated key declared).Spares Surveys := spares_validated trivial
      have valid := acquires.surveyed validates start
      exact (Pass.ensures_map.mpr valid).bind fun _ s' start => placed _ s' start

/-- What a protocol has to bear to go on with an instance that has just been recorded. Answers about it
    are about a machine that is `mine`. -/
structure Continues (P : Discipline σ) (owned : String → σ → Prop) (mine : String → String → Prop)
    (key : Key) (hostname : String) (err : Failure → σ → Prop) : Prop where
  sustains : ∀ x, Sustains P (owned x) key (mine x) hostname err
  known : ∀ x, mine x x
  looks : ∀ x s, owned x s → P.allows s (.maas (.getMachine x))
  seen : ∀ x s machine s', owned x s → P.leads s (.maas (.getMachine x)) (.ok machine) s' →
    mine x machine.systemId ∧ owned x s'
  unseen : ∀ x s error s', owned x s → P.leads s (.maas (.getMachine x)) (.error error) s' →
    ∀ failure, failure.released = false → err failure s'
  broken : ∀ x y s, mine x y → owned x s →
    ∀ (hostId : Option String) (ok : Lifecycle.Instance → σ → Prop),
      (recoverBroken key y hostId : Pass Lifecycle.Instance).Ensures P ok err s
  failed : ∀ x y s, mine x y → owned x s → (release key y).Ensures P (fun _ => Closes err) err s

/-- A pass that starts without a record ends with one of what it has seen. -/
theorem provisionFrom_ensures {options : Options} {saved : Store.Saved} {fine : Machine → Prop}
    {mine : String → String → Prop} (acquires : Acquires P free taken owned key err)
    (allocates : spec.mode = .bareMetal → Allocates P free taken fine key spec err)
    (composes : spec.mode = .virtualized → Composes P free taken key spec err)
    (continues : Continues P owned mine key (spec.hostname.getD key.name) err)
    (nothing : saved.checkpoint = none) (start : free s) :
    (provisionFrom options key spec saved).Ensures P
      (fun seen s' => ∃ x, mine x seen.systemId ∧ owned x s') err s := by
  unfold provisionFrom
  rw [nothing]
  cases mode : spec.mode with
  | bareMetal =>
      refine allocateBareMetal_ensures acquires (allocates mode) (fun machine s' _ kept => ?_) start
      have known := continues.known machine.systemId
      refine ((continues.sustains _).continueBareMetal options known rfl kept ?_ ?_).mono
        (fun seen s' kept => ⟨_, kept⟩) fun _ _ => id
      · exact fun _ => continues.broken _ _ s' known kept
      · exact fun _ => continues.failed _ _ s' known kept
  | virtualized =>
      refine composeVirtual_ensures acquires (composes mode) (fun x s' kept => ?_) start
      refine ⟨continues.looks x s' kept, fun machine s'' leads => ?_, fun error s'' leads => ?_⟩
      · obtain ⟨known, kept⟩ := continues.seen x s' machine s'' kept leads
        refine ((continues.sustains x).tagAndContinue options known kept ?_ ?_).mono
          (fun seen s' kept => ⟨x, kept⟩) fun _ _ => id
        · exact fun _ t kept => continues.broken x _ t known kept
        · exact fun _ t kept => continues.failed x _ t known kept
      · exact continues.unseen x s' error s'' kept leads

end MachineProvisioning.Engine
