import MachineProvisioning.Engine.Virtual
import MachineProvisioning.Proofs.Engine.Passes
import MachineProvisioning.Proofs.Net.Spelling

/-! # Vetting a static address

A declared static address is vetted before it is used: the declaration is lawful, and the machines of the
namespace were asked for without another one of them declaring the address. A pass heeds the address when
it composes, deploys and allocates machines and links addresses only once the declared one is vetted, and
when it blames the address only with reason.
-/

namespace MachineProvisioning.Engine

open Program (Exchange)
open Resource (Key Spec StaticIpSpec BridgeSpec VirtualizedSpec)
open StaticIp (Declaration Target Spells)
open Maas (Interface Link Machine VmHost)
open Lifecycle (Instance)

/-- What takes a machine or gives it an address. A recorded machine that is allocated again is not
    taken. -/
def Commits : Effect → Prop
  | .maas (.compose _ _) | .maas (.deploy _ _) => True
  | .maas (.allocate params) => params.systemId = none
  | .maas (.linkSubnet _ _ params) | .maas (.bindBootInterface _ params) => params.ipAddress ≠ none
  | _ => False

/-- What neither commits nor asks who declares which address. -/
def Unrelated : Effect → Prop
  | .maas (.compose _ _) | .maas (.deploy _ _) | .store (.listStaticIps _) => False
  | .maas (.allocate params) => params.systemId ≠ none
  | .maas (.linkSubnet _ _ params) | .maas (.bindBootInterface _ params) => params.ipAddress = none
  | _ => True

variable {key : Key} {declared : StaticIpSpec} {past : Transcript}

/-- The machines of the namespace were listed, and another one of them declares the address, in
    whatever spelling. -/
def Contested (key : Key) (declared : StaticIpSpec) (exchange : Exchange Effect Effect.Answer) : Prop :=
  ∃ peers, exchange = ⟨.store (.listStaticIps key.namespace_), .ok peers⟩ ∧
    ∃ name text address, (name, text) ∈ peers ∧ name ≠ key.name ∧ Spells text address ∧
      Spells declared.address address

/-- The declaration is lawful, the machines of the namespace were asked for, and no answer showed
    another one that declares the address. -/
structure Vetted (key : Key) (declared : StaticIpSpec) (past : Transcript) : Prop where
  lawful : ∃ ip, StaticIp.validate declared = .ok ip
  asked : ∃ exchange ∈ past, exchange.1 = .store (.listStaticIps key.namespace_)
  uncontested : ∀ exchange ∈ past, ¬Contested key declared exchange

/-- Why a pass may fail as it does: because of the address only with reason, and with whatever the store
    tells. -/
inductive Justified (key : Key) (declared : StaticIpSpec) (past : Transcript) : Failure → Prop where
  | unlawful {fault : StaticIpFault} (refused : StaticIp.validate declared = .error fault) :
      Justified key declared past (.staticIp fault)
  | contested {fault : StaticIpFault} {exchange : Exchange Effect Effect.Answer}
      (mem : exchange ∈ past) (contested : Contested key declared exchange) :
      Justified key declared past (.staticIp fault)
  | told {failure : Failure} {call : Store.Call} (mem : ⟨.store call, .error failure⟩ ∈ past) :
      Justified key declared past failure
  | other {failure : Failure} (other : ∀ fault, failure ≠ .staticIp fault) :
      Justified key declared past failure

/-- Nothing is committed to before the address is vetted. -/
def vetting (key : Key) (declared : StaticIpSpec) : Discipline Transcript :=
  .history (fun past effect => Commits effect → Vetted key declared past) fun _ _ => True

theorem Unrelated.not_commits {effect : Effect} (unrelated : Unrelated effect) :
    ¬Commits effect := by
  cases effect with
  | maas call => cases call <;> simp_all [Unrelated, Commits]
  | _ => exact id

/-- How far a pass has come with the declared address. -/
inductive Stage where
  | unvetted
  | vetted

namespace Stage

/-- No other machine has been seen to declare the address, and at the last stage it is vetted. -/
def Holds (key : Key) (declared : StaticIpSpec) : Stage → Transcript → Prop
  | .unvetted, past => ∀ exchange ∈ past, ¬Contested key declared exchange
  | .vetted, past => Vetted key declared past

/-- What may be asked for without another look at the address. -/
def Permits (stage : Stage) (effect : Effect) : Prop :=
  Unrelated effect ∨ stage = .vetted ∧ Commits effect

variable {stage : Stage}

theorem Holds.uncontested (holds : stage.Holds key declared past) :
    ∀ exchange ∈ past, ¬Contested key declared exchange := by
  cases stage with
  | unvetted => exact holds
  | vetted => exact Vetted.uncontested holds

theorem Permits.not_contested {effect : Effect} (permits : stage.Permits effect)
    (answer : effect.Answer) : ¬Contested key declared ⟨effect, answer⟩ := by
  rintro ⟨peers, same, -⟩
  cases same
  obtain unrelated | ⟨-, commits⟩ := permits
  · exact unrelated
  · exact commits

theorem uncontested_append {exchange : Exchange Effect Effect.Answer}
    (uncontested : ∀ exchange ∈ past, ¬Contested key declared exchange)
    (last : ¬Contested key declared exchange) :
    ∀ other ∈ past ++ [exchange], ¬Contested key declared other := by
  intro other mem
  rcases List.mem_append.mp mem with mem | mem
  · exact uncontested other mem
  · exact List.mem_singleton.mp mem ▸ last

/-- What may be asked for at a stage keeps the pass at it. -/
theorem tolerates (stage : Stage) :
    (vetting key declared).Tolerates (stage.Holds key declared) stage.Permits := by
  intro past effect holds permits
  constructor
  · intro commits
    obtain unrelated | ⟨rfl, -⟩ := permits
    · exact absurd commits unrelated.not_commits
    · exact holds
  · rintro answer _ ⟨-, rfl⟩
    have last : ¬Contested key declared ⟨effect, answer⟩ := permits.not_contested answer
    have uncontested := uncontested_append holds.uncontested last
    cases stage with
    | unvetted => exact uncontested
    | vetted =>
        obtain ⟨lawful, ⟨exchange, mem, asked⟩, -⟩ : Vetted key declared past := holds
        exact ⟨lawful, ⟨exchange, List.mem_append_left _ mem, asked⟩, uncontested⟩

end Stage

theorem Justified.append {failure : Failure} (justified : Justified key declared past failure)
    (later : Transcript) : Justified key declared (past ++ later) failure := by
  cases justified with
  | unlawful refused => exact .unlawful refused
  | contested mem contested => exact .contested (List.mem_append_left _ mem) contested
  | told mem => exact .told (List.mem_append_left _ mem)
  | other other => exact .other other

variable {α β : Type} {before middle after stage : Stage}

/-- From the one stage the pass comes to the other, or fails for a reason. -/
structure Pass.Heeds (key : Key) (declared : StaticIpSpec) (before after : Stage) (p : Pass α) :
    Prop where
  ensures : ∀ past, before.Holds key declared past →
    p.Ensures (vetting key declared) (fun _ => after.Holds key declared)
      (fun failure later => Justified key declared later failure) past

namespace Pass

theorem heeds_pure (a : α) : (pure a : Pass α).Heeds key declared stage stage :=
  ⟨fun _ holds => ensures_pure.mpr holds⟩

theorem heeds_throw {failure : Failure} (other : ∀ fault, failure ≠ .staticIp fault) :
    (throw failure : Pass α).Heeds key declared before after :=
  ⟨fun _ _ => ensures_throw.mpr (.other other)⟩

theorem Heeds.bind {p : Pass α} {f : α → Pass β} (first : p.Heeds key declared before middle)
    (rest : ∀ a, (f a).Heeds key declared middle after) :
    (p >>= f).Heeds key declared before after :=
  ⟨fun past holds => (first.ensures past holds).bind fun a => (rest a).ensures⟩

theorem Heeds.map {p : Pass α} (heeds : p.Heeds key declared before after) (f : α → β) :
    (f <$> p).Heeds key declared before after :=
  ⟨fun past holds => ensures_map.mpr (heeds.ensures past holds)⟩

theorem Heeds.discard {p : Pass α} (heeds : p.Heeds key declared before after) :
    (discard p).Heeds key declared before after :=
  heeds.map fun _ => ()

/-- A pass that has vetted the address has not seen it contested. -/
theorem Heeds.relax {p : Pass α} (heeds : p.Heeds key declared before after) :
    p.Heeds key declared before .unvetted :=
  ⟨fun past holds => (heeds.ensures past holds).mono (fun _ _ holds => holds.uncontested)
    fun _ _ => id⟩

theorem heeds_lift {p : Procedure α} (asks : p.Asks stage.Permits) :
    Heeds key declared stage stage (ExceptT.lift p : Pass α) :=
  ⟨fun _ holds => ensures_lift.mpr (asks.keeps stage.tolerates holds)⟩

theorem heeds_tryMaas {call : Maas.Call} (permits : stage.Permits (.maas call)) :
    (tryMaas call).Heeds key declared stage stage :=
  heeds_lift (Program.asks_request permits)

theorem heeds_maas {context : String} {call : Maas.Call} (permits : stage.Permits (.maas call)) :
    (maas context call).Heeds key declared stage stage := by
  refine (heeds_tryMaas permits).bind fun reply => ?_
  cases reply with
  | ok value => exact heeds_pure value
  | error error => exact heeds_throw nofun

theorem heeds_store {call : Store.Call} (permits : stage.Permits (.store call)) :
    (store call).Heeds key declared stage stage := by
  refine ⟨fun past holds => ?_⟩
  obtain ⟨allowed, keeps⟩ := stage.tolerates past (.store call) holds permits
  refine ensures_store.mpr ⟨allowed, fun value later leads => keeps _ later leads, ?_⟩
  rintro failure _ ⟨-, rfl⟩
  exact .told (List.mem_append_right past (.head _))

theorem heeds_count {event : Event} : (count event).Heeds key declared stage stage :=
  heeds_lift (p := Procedure.count event) (Program.asks_request (.inl trivial))

end Pass

/-- Whether a listing shows another machine that declares the address. -/
def opposes (key : Key) (address : Net.Address) : Exchange Effect Effect.Answer → Bool
  | ⟨.store (.listStaticIps namespace_), .ok peers⟩ =>
      namespace_ = key.namespace_ && (conflictingPeer key address peers).isSome
  | _ => false

theorem isSome_conflictingPeer {address : Net.Address} {peers : List (String × String)} :
    (conflictingPeer key address peers).isSome = true ↔
      ∃ name text, (name, text) ∈ peers ∧ name ≠ key.name ∧ Spells text address := by
  simp only [conflictingPeer, Option.isSome_map, List.find?_isSome, decide_eq_true_eq, Prod.exists,
    StaticIp.addressOf?_eq_some_iff]

/-- Whether an exchange is contested is found out by reading the addresses. -/
theorem contested_iff {ip : Declaration} (valid : StaticIp.validate declared = .ok ip)
    {exchange : Exchange Effect Effect.Answer} :
    Contested key declared exchange ↔ opposes key ip.address exchange = true := by
  have own : Spells declared.address ip.address :=
    StaticIp.addressOf?_eq_some_iff.mp (StaticIp.address_of_validate valid)
  constructor
  · rintro ⟨peers, rfl, name, text, address, mem, other, spells, spelled⟩
    obtain rfl := spelled.unique own
    simpa [opposes] using isSome_conflictingPeer.mpr ⟨name, text, mem, other, spells⟩
  · intro shows
    unfold opposes at shows
    split at shows
    · next namespace_ peers =>
        simp only [Bool.and_eq_true, decide_eq_true_eq] at shows
        obtain ⟨rfl, conflicts⟩ := shows
        obtain ⟨name, text, mem, other, spells⟩ := isSome_conflictingPeer.mp conflicts
        exact ⟨peers, rfl, name, text, ip.address, mem, other, spells, own⟩
    · cases shows

theorem heeds_checkConflict {ip : Declaration} (valid : StaticIp.validate declared = .ok ip) :
    (checkConflict key ip.address).Heeds key declared before .vetted := by
  refine ⟨fun past holds => ?_⟩
  have vets : ∀ reply,
      opposes key ip.address ⟨.store (.listStaticIps key.namespace_), reply⟩ = false →
        Vetted key declared (past ++ [⟨.store (.listStaticIps key.namespace_), reply⟩]) := by
    intro reply clear
    refine ⟨⟨ip, valid⟩, ⟨_, List.mem_append_right past (.head _), rfl⟩, ?_⟩
    refine Stage.uncontested_append holds.uncontested fun contested => ?_
    exact Bool.false_ne_true (clear.symm.trans ((contested_iff valid).mp contested))
  refine Pass.ensures_bind.mpr (Pass.ensures_tryStore.mpr ⟨nofun, ?_⟩)
  rintro reply _ ⟨-, rfl⟩
  cases reply with
  | error fault => exact Pass.ensures_pure.mpr (vets _ rfl)
  | ok peers =>
      simp only
      split
      · next clear => exact Pass.ensures_pure.mpr (vets _ (by simp [opposes, clear]))
      · next name conflict =>
          have contested : Contested key declared
              ⟨.store (.listStaticIps key.namespace_), .ok peers⟩ :=
            (contested_iff valid).mpr (by simp [opposes, conflict])
          exact Pass.ensures_throw.mpr (.contested (List.mem_append_right past (.head _)) contested)

/-- A pass goes on from here with the address vetted. -/
theorem heeds_validated : (validated key declared).Heeds key declared before .vetted := by
  unfold validated
  cases valid : StaticIp.validate declared with
  | error fault => exact ⟨fun _ _ => Pass.ensures_throw.mpr (.unlawful valid)⟩
  | ok ip => exact Pass.Heeds.bind (heeds_checkConflict valid) fun _ => Pass.heeds_pure ip

theorem heeds_changeNetwork {systemId action : String} {call : Maas.Call}
    (permits : stage.Permits (.maas call)) :
    (changeNetwork systemId action call).Heeds key declared stage stage := by
  refine Pass.Heeds.bind (Pass.heeds_tryMaas permits) fun reply => ?_
  cases reply with
  | ok value => exact Pass.heeds_pure value
  | error error => exact Pass.heeds_throw nofun

theorem heeds_releaseStaleAddress (ip : Declaration) :
    (releaseStaleAddress ip).Heeds key declared stage stage := by
  refine Pass.Heeds.bind (Pass.heeds_maas (.inl trivial)) fun found => ?_
  cases found with
  | none => exact Pass.heeds_pure ()
  | some allocation =>
      simp only
      split
      · refine Pass.Heeds.bind (Pass.heeds_tryMaas (.inl trivial)) fun reply => ?_
        split
        · exact Pass.heeds_pure ()
        · exact Pass.heeds_pure ()
        · exact Pass.heeds_throw nofun
      · exact Pass.heeds_pure ()

variable {systemId : String}

theorem heeds_unlinkAll (iface : Interface) (action : Link → String) (links : List Link) :
    (unlinkAll systemId iface action links).Heeds key declared stage stage := by
  induction links with
  | nil => exact Pass.heeds_pure ()
  | cons link rest ih =>
      exact Pass.Heeds.bind (.discard (heeds_changeNetwork (.inl trivial))) fun _ => ih

/-- An address is linked once it is vetted. -/
theorem heeds_bindAddress (interfaces : List Interface) (ip : Declaration) (target : Target) :
    (bindAddress systemId interfaces ip target).Heeds key declared .vetted .vetted := by
  refine Pass.Heeds.bind (heeds_releaseStaleAddress ip) fun _ => ?_
  cases target with
  | interface iface =>
      refine Pass.Heeds.bind (heeds_unlinkAll iface _ _) fun _ => ?_
      exact .discard (heeds_changeNetwork (.inr ⟨rfl, nofun⟩))
  | boot => exact .discard (heeds_changeNetwork (.inr ⟨rfl, nofun⟩))

theorem heeds_applyStaticIp :
    (applyStaticIp key systemId declared).Heeds key declared before .vetted := by
  unfold applyStaticIp
  refine Pass.Heeds.bind heeds_validated fun ip => ?_
  refine Pass.Heeds.bind (Pass.heeds_maas (.inl trivial)) fun machine => ?_
  extract_lets state bind
  have binds : (bind ()).Heeds key declared .vetted .vetted := by
    refine Pass.Heeds.bind (Pass.heeds_maas (.inl trivial)) fun interfaces => ?_
    split
    · split
      · exact Pass.heeds_pure ()
      · exact Pass.heeds_throw nofun
    · split
      · exact Pass.heeds_throw nofun
      · extract_lets bound
        split
        · exact Pass.heeds_pure ()
        · exact heeds_bindAddress _ _ _
  split
  · exact Pass.Heeds.bind (Pass.heeds_throw nofun) fun _ => binds
  · exact binds

theorem heeds_withSubnets (name : String) (listed : Interface) :
    (withSubnets systemId name listed).Heeds key declared stage stage := by
  unfold withSubnets
  split
  · exact Pass.heeds_maas (.inl trivial)
  · exact Pass.heeds_pure listed

/-- A link to a declared network carries no address. -/
theorem heeds_ensureNetwork (interfaces : List Interface) (name network : String) :
    (ensureNetwork systemId interfaces name network).Heeds key declared stage stage := by
  unfold ensureNetwork
  split
  · exact Pass.heeds_throw nofun
  · refine Pass.Heeds.bind (heeds_withSubnets name _) fun iface => ?_
    split
    · exact Pass.heeds_pure ()
    · refine Pass.Heeds.bind (heeds_unlinkAll iface _ _) fun _ => ?_
      exact .discard (heeds_changeNetwork (.inl rfl))

theorem heeds_verifyNetwork (networks : List String) :
    (verifyNetwork systemId networks).Heeds key declared stage stage := by
  unfold verifyNetwork
  split
  · refine Pass.Heeds.bind (Pass.heeds_maas (.inl trivial)) fun machine => ?_
    extract_lets state verify
    have verifies : (verify ()).Heeds key declared stage stage := by
      refine Pass.Heeds.bind (Pass.heeds_maas (.inl trivial)) fun interfaces => ?_
      exact Pass.Heeds.bind (heeds_ensureNetwork _ _ _) fun _ => heeds_ensureNetwork _ _ _
    split
    · exact Pass.Heeds.bind (Pass.heeds_throw nofun) fun _ => verifies
    · exact verifies
  · exact Pass.heeds_pure ()

theorem heeds_ensureBridge (bridge : BridgeSpec) :
    (ensureBridge systemId bridge).Heeds key declared stage stage := by
  refine Pass.Heeds.bind (Pass.heeds_maas (.inl trivial)) fun interfaces => ?_
  split
  · exact Pass.heeds_pure ()
  · exact .discard (heeds_changeNetwork (.inl trivial))

theorem heeds_ensureNoSwap (machine : Machine) :
    (ensureNoSwap machine).Heeds key declared stage stage := by
  unfold ensureNoSwap
  split
  · exact Pass.heeds_pure ()
  · exact .discard (Pass.heeds_maas (.inl trivial))

theorem heeds_ensureTags (machine : Machine) (tags : List String) :
    (ensureTags machine tags).Heeds key declared stage stage := by
  induction tags generalizing machine with
  | nil => exact Pass.heeds_pure machine
  | cons tag rest ih =>
      unfold ensureTags
      split
      · exact ih machine
      · refine Pass.Heeds.bind (.discard (Pass.heeds_maas (.inl trivial))) fun _ => ?_
        exact Pass.Heeds.bind (Pass.heeds_maas (.inl trivial)) fun _ => ih _

theorem heeds_powerOn (machine : Machine) :
    (ensurePoweredOn machine).Heeds key declared stage stage := by
  unfold ensurePoweredOn
  split
  · exact Pass.heeds_pure machine
  · exact Pass.heeds_maas (.inl trivial)

theorem heeds_forceRelease : (forceRelease systemId).Heeds key declared stage stage := by
  refine Pass.Heeds.bind (Pass.heeds_tryMaas (.inl trivial)) fun reply => ?_
  split
  · exact Pass.heeds_count
  · exact Pass.heeds_pure ()
  · exact Pass.heeds_throw nofun

theorem heeds_release : (release key systemId).Heeds key declared stage stage := by
  refine Pass.Heeds.bind (Pass.heeds_tryMaas (.inl trivial)) fun reply => ?_
  have clears : (Pass.store (.clearInstance key)).Heeds key declared stage stage :=
    Pass.heeds_store (.inl trivial)
  split
  · exact clears
  · exact clears
  · exact heeds_forceRelease.bind fun _ => clears
  · exact heeds_forceRelease.bind fun _ => clears
  · exact Pass.heeds_throw nofun

theorem heeds_inspectHost (hostId : Option String) :
    (inspectHost hostId).Heeds key declared stage stage := by
  unfold inspectHost
  split
  · exact .discard (Pass.heeds_tryMaas (.inl trivial))
  · exact Pass.heeds_pure ()

theorem heeds_recoverBroken (hostId : Option String) :
    (recoverBroken key systemId hostId : Pass α).Heeds key declared stage after := by
  unfold recoverBroken
  refine Pass.Heeds.bind heeds_forceRelease fun _ => ?_
  refine Pass.Heeds.bind (Pass.heeds_store (.inl trivial)) fun saved => ?_
  extract_lets leave
  have leaves : (leave ()).Heeds key declared stage after :=
    Pass.Heeds.bind (heeds_inspectHost hostId) fun _ => Pass.heeds_throw nofun
  split
  · exact Pass.Heeds.bind (Pass.heeds_store (.inl trivial)) fun _ => leaves
  · exact leaves

theorem heeds_brokenTarget (named target : Option String) :
    (brokenTarget named target).Heeds key declared stage stage := by
  cases named with
  | none => exact Pass.heeds_pure target
  | some systemId =>
      refine Pass.Heeds.bind (Pass.heeds_tryMaas (.inl trivial)) fun reply => ?_
      cases reply with
      | ok machine => exact Pass.heeds_pure (some systemId)
      | error error => exact Pass.heeds_pure target

theorem heeds_failWith {context : String} {target : Option String} (error : Maas.Error) :
    (failWith key context target error : Pass α).Heeds key declared stage after := by
  unfold failWith
  split
  · refine Pass.Heeds.bind (heeds_brokenTarget _ _) fun found => ?_
    cases found with
    | none => exact Pass.heeds_throw nofun
    | some x => exact heeds_recoverBroken _
  · exact Pass.heeds_throw nofun

theorem heeds_releaseFailed {machine : Machine} {kind : ProvisioningKind} :
    (releaseFailed key machine kind : Pass α).Heeds key declared stage after :=
  Pass.Heeds.bind heeds_release fun _ => Pass.heeds_throw nofun

/-- A state that a pass cannot go on from ends it. -/
theorem heeds_unsettled {state : Lifecycle.State} {machine : Machine} {kind : ProvisioningKind}
    {text : String} :
    (if state.isFailed then releaseFailed key machine kind
      else throw (.stillProvisioning machine.systemId text) : Pass α).Heeds key declared stage
        after := by
  split
  · exact heeds_releaseFailed
  · exact Pass.heeds_throw nofun

end MachineProvisioning.Engine
