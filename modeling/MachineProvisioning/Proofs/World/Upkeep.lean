import MachineProvisioning.Proofs.Engine.Tasks
import MachineProvisioning.Proofs.Net.Block
import MachineProvisioning.Proofs.Program.Requests
import MachineProvisioning.Proofs.Region.Stock
import MachineProvisioning.Proofs.World.Answers

/-! # Requests in their place

A world sees the requests of a task one by one. Each operation on a machine has states in which it is
in place, and a deployment also wants the machine to be configured as declared. What a step of a pass
leaves of the machine is carried to the next step by `Stocks`.
-/

namespace MachineProvisioning

open Resource (Key Spec StaticIpSpec BridgeSpec)
open Lifecycle (State)
open Maas (Machine Interface)
open Region (Stocks Mirrors Stores Inventory)
open Engine

namespace World

/-- The machine is there, in one of these states. -/
def InState (world : World) (x : String) (states : List State) : Prop :=
  ∃ machine, world.region.inventory.machines.get? x = some machine ∧
    State.ofText machine.statusName ∈ states

/-- The request is an operation for which its machine is in the right state, or no such operation. -/
def Permits (world : World) : Effect → Prop
  | .maas (.linkSubnet x _ _) | .maas (.unlinkSubnet x _ _) | .maas (.bindBootInterface x _)
  | .maas (.createBridge x _) => world.InState x [.new, .ready, .allocated, .broken]
  | .maas (.allocate params) => ∀ x ∈ params.systemId, world.InState x [.ready]
  | .maas (.deploy x _) => world.InState x [.allocated]
  | .maas (.powerOn x) => world.InState x [.deployed]
  | _ => True

/-- An interface of the machine has a static link with the declared address. -/
def Binds (world : World) (x : String) (declared : StaticIpSpec) : Prop :=
  ∃ address, StaticIp.addressOf? declared.address = some address ∧
    ∃ iface ∈ world.region.inventory.interfacesOf x, ∃ link ∈ iface.links,
      link.mode = .static ∧ link.ipAddress.bind Net.Address.ofText? = some address

/-- The machine is configured as declared. -/
structure Configured (world : World) (key : Key) (spec : Spec) (x : String) : Prop where
  machine : ∃ machine, world.region.inventory.machines.get? x = some machine ∧
    (spec.mode = .bareMetal →
      machine.hostname = spec.hostname.getD key.name ∧ machine.swapSize = some 0) ∧
    (spec.mode = .virtualized → ∀ tag ∈ spec.tags, tag ∈ machine.tagNames)
  bridge : spec.mode = .bareMetal → ∀ bridge ∈ spec.bridge,
    ∃ iface ∈ world.region.inventory.interfacesOf x, iface.name = bridge.name
  staticIp : ∀ declared ∈ spec.staticIp, world.Binds x declared

/-- The operation is permitted, and a deployment is one of a machine that is configured as declared. -/
structure Proper (key : Key) (spec? : Option Spec) (world : World) (effect : Effect) : Prop where
  permitted : world.Permits effect
  configured : ∀ x params, effect = .maas (.deploy x params) →
    ∃ spec ∈ spec?, world.Configured key spec x

/-- A world that answers passes, whose requests are all in place. -/
def upkeep (key : Key) (spec? : Option Spec) : Discipline World :=
  .attending World.answer (Proper key spec?)

variable {world after : World} {key : Key} {spec? : Option Spec} {x : String}
  {fine fine' : Machine → Prop} {names : List String}

/-- A MAAS call meets a fault, or the region answers it. -/
theorem region_answerMaas {call : Maas.Call} {reply : call.Reply}
    (answers : (reply, after) = world.answer (.maas call)) :
    (∃ error, reply = .error error ∧ after.region = world.region) ∨
      world.region.answer call = (reply, after.region) := by
  obtain ⟨-, met⟩ := world.answerMaas_cases call
  change (reply, after) = world.answerMaas call at answers
  rw [← answers] at met
  exact met.imp_right fun ⟨replies, region⟩ => Prod.ext replies.symm region.symm

theorem region_of_ok (call : Maas.Call) {value : call.Value}
    (answers : (.ok value, after) = world.answer (.maas call)) :
    world.region.answer call = (.ok value, after.region) := by
  rcases region_answerMaas answers with ⟨error, replies, -⟩ | answered
  · cases replies
  · exact answered

/-- A call that stores a machine does so when it succeeds. -/
theorem stored_of_ok (call : Maas.Call) {value : call.Value} (stores : Stores call)
    (answers : (.ok value, after) = world.answer (.maas call)) : ∃ machine,
      Region.Alters world.region call machine ∧ Region.Tells call value machine ∧
        after.region.inventory.machines.get? machine.systemId = some machine := by
  have conforms := world.region.answer_conforms call
  unfold Region.Conforms at conforms
  rw [region_of_ok call answers] at conforms
  obtain ⟨machine, alters, tells, put⟩ := conforms.of_stores stores
  refine ⟨machine, alters, tells, ?_⟩
  rw [put, Table.get?_insert, if_pos rfl]

/-- A store call touches no machine. -/
theorem region_answerStore {call : Store.Call} {reply : call.Reply}
    (answers : (reply, after) = world.answer (.store call)) : after.region = world.region := by
  have region := (world.answerStore_cases call).1
  change (reply, after) = world.answerStore call at answers
  rw [← answers] at region
  exact region

theorem lawful_answer (effect : Effect) {reply : effect.Answer} (lawful : world.region.Lawful)
    (answers : (reply, after) = world.answer effect) : after.region.Lawful := by
  cases effect with
  | maas call =>
      rcases region_answerMaas answers with ⟨-, -, same⟩ | answered
      · exact same ▸ lawful
      · have kept := lawful.preserved (world.region.answer_conforms call)
        rwa [answered] at kept
  | store call =>
      rw [region_answerStore answers]
      exact lawful
  | clock =>
      cases answers
      exact lawful
  | count event =>
      cases answers
      exact lawful

theorem stocks_silent {call : Maas.Call} {reply : call.Reply}
    (stocks : Stocks x fine names world.region) (silent : ¬Stores call)
    (answers : (reply, after) = world.answer (.maas call)) : Stocks x fine names after.region := by
  rcases region_answerMaas answers with ⟨-, -, same⟩ | answered
  · rw [same]
    exact stocks
  · have kept := stocks.silent silent
    rw [answered] at kept
    exact kept

theorem InState.of_stocks {states : List State} (stocks : Stocks x fine names world.region)
    (is : ∀ machine, fine machine → State.ofText machine.statusName ∈ states) :
    world.InState x states := by
  obtain ⟨-, ⟨machine, found, fine⟩, -⟩ := stocks
  exact ⟨machine, found, is machine fine⟩

theorem lawful_leads {effect : Effect} {reply : effect.Answer} (lawful : world.region.Lawful)
    (leads : (upkeep key spec?).leads world effect reply after) : after.region.Lawful :=
  lawful_answer effect lawful leads

/-- The request is no operation that has to wait for its machine. -/
def Harmless : Effect → Prop
  | .maas (.linkSubnet _ _ _) | .maas (.unlinkSubnet _ _ _) | .maas (.bindBootInterface _ _)
  | .maas (.createBridge _ _) | .maas (.deploy _ _) | .maas (.powerOn _) => False
  | .maas (.allocate params) => params.systemId = none
  | _ => True

theorem Harmless.proper {effect : Effect} (harmless : Harmless effect) :
    Proper key spec? world effect := by
  refine ⟨?_, ?_⟩
  · unfold Permits
    split
    case h_5 params =>
      have unnamed : params.systemId = none := harmless
      simp [unnamed]
    all_goals trivial
  · rintro x params rfl
    cases harmless

theorem Harmless.of_recovers {systemId : String} {effect : Effect} (recovers : Recovers key systemId effect) :
    Harmless effect := by
  unfold Recovers at recovers
  split at recovers
  all_goals trivial

theorem Harmless.of_surveys {effect : Effect} (surveys : Surveys effect) : Harmless effect := by
  unfold Surveys at surveys
  split at surveys
  all_goals trivial

theorem Harmless.of_concludes {effect : Effect} (concludes : Concludes effect) : Harmless effect := by
  unfold Concludes at concludes
  split at concludes
  all_goals trivial

/-- The pass makes only requests that are in place, and `ok` holds when it succeeds. -/
abbrev Attends {α : Type} (key : Key) (spec? : Option Spec) (pass : Pass α)
    (ok : α → World → Prop) (world : World) : Prop :=
  pass.Ensures (upkeep key spec?) ok (fun _ after => after.region.Lawful) world

/-- The pass makes only requests that are in place. -/
abbrev Behaves {α : Type} (key : Key) (spec? : Option Spec) (pass : Pass α) (world : World) : Prop :=
  Attends key spec? pass (fun _ after => after.region.Lawful) world

variable {α : Type}

theorem upkeep_tolerates_harmless :
    (upkeep key spec?).Tolerates (fun world => world.region.Lawful) Harmless :=
  fun _ _ lawful harmless => ⟨harmless.proper, fun _ _ => lawful_leads lawful⟩

theorem behaves_of_asks {kind : Effect → Prop} {pass : Pass α} (asks : pass.Asks kind)
    (narrower : ∀ effect, kind effect → Harmless effect) (lawful : world.region.Lawful) :
    Behaves key spec? pass world :=
  asks.ensures (upkeep_tolerates_harmless.mono narrower) lawful

theorem attends_recoverBroken {ok : α → World → Prop} (systemId : String) (hostId : Option String)
    (lawful : world.region.Lawful) : Attends key spec? (recoverBroken key systemId hostId) ok world :=
  recoverBroken_tolerated hostId (upkeep_tolerates_harmless.mono fun _ => .of_recovers)
    (fun _ _ lawful => lawful) lawful

theorem attends_failWith {ok : α → World → Prop} {context : String} {target : Option String}
    {error : Maas.Error} (lawful : world.region.Lawful) :
    Attends key spec? (failWith key context target error) ok world :=
  failWith_tolerated (upkeep_tolerates_harmless.mono fun _ => .of_surveys)
    (fun _ => upkeep_tolerates_harmless.mono fun _ => .of_recovers) (fun _ _ lawful => lawful) lawful

theorem attends_releaseFailed {ok : α → World → Prop} {machine : Machine} {kind : ProvisioningKind}
    (lawful : world.region.Lawful) : Attends key spec? (releaseFailed key machine kind) ok world :=
  (behaves_of_asks asks_release (fun _ => .of_recovers) lawful).bind fun _ _ lawful =>
    Pass.ensures_throw.mpr lawful

theorem attends_maas {context : String} {call : Maas.Call} {ok : call.Value → World → Prop}
    (proper : Proper key spec? world (.maas call)) (lawful : world.region.Lawful)
    (answered : ∀ value after, (.ok value, after) = world.answer (.maas call) → ok value after) :
    Attends key spec? (Pass.maas context call) ok world :=
  Pass.ensures_maas.mpr ⟨proper, answered, fun _ _ => lawful_leads lawful⟩

theorem attends_changeNetwork {systemId action : String} {call : Maas.Call}
    {ok : call.Value → World → Prop} (proper : Proper key spec? world (.maas call))
    (lawful : world.region.Lawful)
    (answered : ∀ value after, (.ok value, after) = world.answer (.maas call) → ok value after) :
    Attends key spec? (changeNetwork systemId action call) ok world := by
  refine Pass.ensures_bind.mpr (Pass.ensures_tryMaas.mpr ⟨proper, fun reply after answers => ?_⟩)
  cases reply with
  | ok value => exact Pass.ensures_pure.mpr (answered value after answers)
  | error error => exact Pass.ensures_throw.mpr (lawful_leads lawful answers)

/-- The states in which interfaces may be edited. -/
theorem mem_of_allowsNetworkEdits {state : State} (allows : state.allowsNetworkEdits = true) :
    state ∈ [State.new, .ready, .allocated, .broken] := by
  cases state <;> simp [State.allowsNetworkEdits] at allows ⊢

/-- A machine of which this holds may be rewired. -/
def Editable (fine : Machine → Prop) : Prop :=
  ∀ machine, fine machine → (State.ofText machine.statusName).allowsNetworkEdits = true

theorem proper_wiring {effect : Effect} (stocks : Stocks x fine names world.region)
    (editable : Editable fine) (wires : Wires x effect) : Proper key spec? world effect := by
  have edits : world.InState x [.new, .ready, .allocated, .broken] :=
    .of_stocks stocks fun machine is => mem_of_allowsNetworkEdits (editable machine is)
  refine ⟨?_, ?_⟩
  · unfold Permits
    split
    all_goals first | trivial | exact (show _ = x from wires) ▸ edits
  · rintro y params rfl
    cases wires

theorem upkeep_tolerates_wiring (editable : Editable fine) :
    (upkeep key spec?).Tolerates (fun world => Stocks x fine names world.region) (Wires x) := by
  intro world effect stocks wires
  refine ⟨proper_wiring stocks editable wires, fun reply after answers => ?_⟩
  cases effect with
  | maas call =>
      refine stocks_silent stocks ?_ answers
      cases call <;> first | exact id | cases wires
  | store call =>
      rw [region_answerStore answers]
      exact stocks
  | clock => cases wires
  | count event => cases wires

theorem attends_wiring {pass : Pass α} (stocks : Stocks x fine names world.region)
    (editable : Editable fine) (spares : pass.Spares (Wires x)) :
    Attends key spec? pass (fun _ after => Stocks x fine names after.region) world :=
  (spares.ensures (upkeep_tolerates_wiring editable) stocks).mono (fun _ _ stocks => stocks)
    fun _ _ kept => kept.2.lawful

theorem Binds.of_bears {declared : StaticIpSpec} {address : Net.Address}
    (read : StaticIp.addressOf? declared.address = some address)
    (bears : world.region.inventory.Bears x address) : world.Binds x declared := by
  obtain ⟨iface, listed, link, mem, carried⟩ := bears
  have parts : link.mode = .static ∧ link.ipAddress.bind Net.Address.ofText? = some address := by
    simpa [StaticIp.carries] using carried
  exact ⟨address, read, iface, listed, link, mem, parts⟩

/-- A listing shows the interfaces that there are. -/
theorem listed_interfaces {interfaces : List Interface}
    (answers : (.ok interfaces, after) = world.answer (.maas (.listInterfaces x))) :
    interfaces = after.region.inventory.interfacesOf x := by
  have answered : Region.listInterfaces x world.region = (.ok interfaces, after.region) :=
    region_of_ok (.listInterfaces x) answers
  unfold Region.listInterfaces at answered
  split at answered
  · cases answered
  · split at answered
    · obtain ⟨shown, same⟩ := Prod.mk.inj answered
      rw [← same]
      exact (Except.ok.inj shown).symm
    · cases answered

theorem attends_listInterfaces {context : String} (stocks : Stocks x fine names world.region) :
    Attends key spec? (Pass.maas context (.listInterfaces x)) (fun interfaces after =>
      Stocks x fine names after.region ∧ interfaces = after.region.inventory.interfacesOf x) world :=
  attends_maas (Harmless.proper trivial) stocks.lawful fun _ _ answers =>
    ⟨stocks_silent stocks id answers, listed_interfaces answers⟩

theorem mem_of_selectTarget {interfaces : List Interface} {bootId : Option UInt64}
    {ip : StaticIp.Declaration} {iface : Interface}
    (chosen : StaticIp.selectTarget interfaces bootId ip = .ok (.interface iface)) :
    iface ∈ interfaces := by
  unfold StaticIp.selectTarget at chosen
  split at chosen
  · split at chosen
    · next found =>
        cases chosen
        exact List.mem_of_find?_eq_some found
    · cases chosen
  · split at chosen
    · next found =>
        cases chosen
        exact List.mem_of_find?_eq_some found
    · split at chosen
      · next found =>
          cases chosen
          obtain ⟨id, -, found⟩ := Option.bind_eq_some_iff.mp found
          exact List.mem_of_find?_eq_some found
      · cases chosen

theorem attends_validated {declared : StaticIpSpec} (editable : Editable fine)
    (stocks : Stocks x fine names world.region) :
    Attends key spec? (validated key declared) (fun ip after =>
      StaticIp.addressOf? declared.address = some ip.address ∧ Stocks x fine names after.region)
      world := by
  unfold validated
  cases valid : StaticIp.validate declared with
  | error fault => exact Pass.ensures_throw.mpr stocks.lawful
  | ok ip =>
      refine (attends_wiring stocks editable (spares_checkConflict trivial)).bind fun _ after stocks => ?_
      exact Pass.ensures_pure.mpr ⟨StaticIp.address_of_validate valid, stocks⟩

/-- Binding an address leaves a link that carries it. -/
theorem attends_bindAddress {interfaces : List Interface} {ip : StaticIp.Declaration}
    {target : StaticIp.Target} (editable : Editable fine) (stocks : Stocks x fine names world.region) :
    Attends key spec? (bindAddress x interfaces ip target) (fun _ after =>
      Stocks x fine names after.region ∧ after.region.inventory.Bears x ip.address) world := by
  unfold bindAddress
  refine (attends_wiring stocks editable (spares_releaseStaleAddress ip)).bind fun _ world stocks => ?_
  extract_lets params action
  cases target with
  | interface iface =>
      refine (attends_wiring stocks editable (spares_unlinkAll iface _ _)).bind fun _ world stocks => ?_
      refine Pass.ensures_discard.mpr (attends_changeNetwork (proper_wiring stocks editable rfl)
        stocks.lawful fun linked after answers => ⟨stocks_silent stocks id answers, ?_⟩)
      exact Region.bears_linkSubnet iface.id rfl rfl (region_of_ok _ answers)
  | boot =>
      refine Pass.ensures_discard.mpr (attends_changeNetwork (proper_wiring stocks editable rfl)
        stocks.lawful fun linked after answers => ⟨stocks_silent stocks id answers, ?_⟩)
      exact Region.bears_bindBootInterface rfl rfl (region_of_ok _ answers)

theorem attends_applyStaticIp {declared : StaticIpSpec} (editable : Editable fine)
    (stocks : Stocks x fine names world.region) :
    Attends key spec? (applyStaticIp key x declared) (fun _ after =>
      Stocks x fine names after.region ∧ after.Binds x declared) world := by
  unfold applyStaticIp
  refine (attends_validated editable stocks).bind fun ip world validated => ?_
  obtain ⟨read, stocks⟩ := validated
  extract_lets address
  have looks : (Pass.maas ("get machine " ++ x) (.getMachine x)).Spares (Wires x) :=
    Pass.spares_maas rfl
  refine (attends_wiring stocks editable looks).bind fun machine world stocks => ?_
  extract_lets state bind
  have bears : ∀ {world : World}, Stocks x fine names world.region ∧ world.region.inventory.Bears x ip.address →
      Stocks x fine names world.region ∧ world.Binds x declared :=
    fun kept => ⟨kept.1, .of_bears read kept.2⟩
  have binds : Attends key spec? (bind ()) (fun _ after =>
      Stocks x fine names after.region ∧ after.Binds x declared) world := by
    refine (attends_listInterfaces stocks).bind fun interfaces world listed => ?_
    obtain ⟨stocks, rfl⟩ := listed
    split
    · split
      · next carried =>
          obtain ⟨iface, listed, bound⟩ := List.any_eq_true.mp carried
          exact Pass.ensures_pure.mpr (bears ⟨stocks, Region.bears_of_isBound listed bound⟩)
      · exact Pass.ensures_throw.mpr stocks.lawful
    · split
      · exact Pass.ensures_throw.mpr stocks.lawful
      · next target chosen =>
          extract_lets bound
          split
          · next already =>
              cases target with
              | interface iface =>
                  have listed := mem_of_selectTarget chosen
                  exact Pass.ensures_pure.mpr (bears ⟨stocks, Region.bears_of_isBound listed already⟩)
              | boot => exact absurd already Bool.false_ne_true
          · exact (attends_bindAddress editable stocks).mono (fun _ _ => bears) fun _ _ => id
  split
  · exact Pass.ensures_bind.mpr (Pass.ensures_throw.mpr stocks.lawful)
  · exact binds

end World

end MachineProvisioning
