import MachineProvisioning.Proofs.World.Binding
import MachineProvisioning.Proofs.World.Networks

/-! # Finishing a virtual machine

Between the verification of its networks and its deployment, a virtual machine gets its static
address. Binding it takes links away and adds one on a subnet that is chosen for the address alone,
so that an interface may leave the network that it has just been verified on.
-/

namespace MachineProvisioning

open Resource (Key Spec StaticIpSpec)
open Lifecycle (State)
open Maas (Machine Interface Link Subnet)
open StaticIp (Declaration isBound)
open Region (Inventory Joined Relaid)
open Engine

namespace World

variable {start world verified after : World} {key : Key} {spec : Spec} {x name network : String}
  {management workload : String} {declared : StaticIpSpec} {ip : Declaration} {iface : Interface}
  {machine : Machine} {options : Options}

/-- An interface that has the name and gets the address has it already, keeps a link on the network, or
    is linked to a subnet of the network. -/
def StaysOn (stock : Inventory) (x : String) (ip : Declaration) (name network : String) : Prop :=
  ∀ iface, stock.target x ip = .ok (.interface iface) →
    (stock.interfacesOf x).find? (·.name == name) = some iface →
      isBound iface ip = true ∨ isOnNetwork network { iface with links := freed iface ip } = true ∨
        ∃ subnet ∈ stock.bindingSubnet? x ip, Wiring.subnetMatches subnet network = true

/-- Both interfaces stay on their networks. -/
structure Stays (stock : Inventory) (x : String) (ip : Declaration) (management workload : String) :
    Prop where
  management : StaysOn stock x ip "eth0" management
  workload : StaysOn stock x ip "eth1" workload

theorem isOnNetwork_append {links : List Link} {link : Link} {subnet : Subnet}
    (shows : link.subnet = some subnet) :
    isOnNetwork network { iface with links := links ++ [link] } = true ↔
      isOnNetwork network { iface with links } = true ∨ Wiring.subnetMatches subnet network = true := by
  simp [Region.isOnNetwork_iff, shows, or_and_right, exists_or]

/-- Of an interface that is on the network, binding the address decides whether it stays there. -/
theorem on_iff_staysOn {stock last : Inventory} {subnet : Subnet} {number : UInt64}
    (distinct : ((stock.interfacesOf x).map (·.id)).Nodup)
    (chosen : stock.target x ip = .ok (.interface iface)) (unbound : ¬isBound iface ip = true)
    (linked : stock.bindingSubnet? x ip = some subnet)
    (relaid : Relaid x iface.id (freed iface ip ++ [bindingLink number subnet ip]) stock last)
    (on : stock.On x name network) : last.On x name network ↔ StaysOn stock x ip name network := by
  obtain ⟨other, found, isOn⟩ := on
  by_cases own : other.id = iface.id
  · have mem := (Region.target_eq_interface_iff.mp chosen).mem
    obtain rfl : other = iface :=
      List.inj_on_of_nodup_map distinct (List.mem_of_find?_eq_some found) mem own
    rw [Region.on_iff (relaid.find?_own found), isOnNetwork_append rfl]
    simp [StaysOn, chosen, Option.mem_def.mp found, unbound, linked]
  · have kept : last.On x name network ↔ stock.On x name network :=
      Region.on_congr (relaid.find?_apart found own)
    refine iff_of_true (kept.mpr ⟨other, found, isOn⟩) fun iface' again named => ?_
    cases chosen.symm.trans again
    cases found.symm.trans named
    exact absurd rfl own

/-- A machine that may be edited, whose interfaces have numbers of their own. -/
structure Wirable (world : World) (x : String) (machine : Machine) : Prop where
  lawful : world.region.Lawful
  distinct : ((world.region.inventory.interfacesOf x).map (·.id)).Nodup
  stored : world.region.inventory.machines.get? x = some machine
  editable : (State.ofText machine.statusName).allowsNetworkEdits = true

/-- Binding the address leaves the machine on its networks, just when both interfaces stay on theirs. -/
theorem applyStaticIp_stays {P : Discipline World} (looks : Observes P Reads)
    (observes : Observes P (Wires x)) (prepared : world.Wirable x machine)
    (valid : StaticIp.validate declared = .ok ip)
    (wired : world.region.inventory.Wired x management workload) :
    (applyStaticIp key x declared).Ensures P
      (fun _ after => after.region.inventory.Wired x management workload ↔
        Stays world.region.inventory x ip management workload) (fun _ _ => True) world := by
  obtain ⟨lawful, distinct, stored, editable⟩ := prepared
  refine applyStaticIp_outcomes looks observes lawful distinct valid ?_ ?_ (fun _ _ _ _ => trivial)
    fun _ _ _ _ _ _ _ => trivial
  · intro other after same _ found settled
    cases stored.symm.trans found
    rw [same]
    have stays : ∀ name network, StaysOn world.region.inventory x ip name network := by
      intro name network iface chosen _
      cases settled with
      | anywhere untouchable => exact absurd editable (by simp [untouchable])
      | chosen _ target again bound =>
          cases chosen.symm.trans again
          exact .inl bound
    exact iff_of_true wired ⟨stays _ _, stays _ _⟩
  · intro other iface subnet number after _ _ _ due _ linked relaid
    have on := on_iff_staysOn distinct due.chosen due.unbound linked relaid wired.management
    have on' := on_iff_staysOn distinct due.chosen due.unbound linked relaid wired.workload
    exact ⟨fun wired => ⟨on.mp wired.1, on'.mp wired.2⟩, fun stays => ⟨on.mpr stays.1, on'.mpr stays.2⟩⟩

/-- The request deploys a machine. -/
def Deploys (effect : Effect) : Prop := ∃ x params, effect = .maas (.deploy x params)

/-- A world answers, and nothing is deployed in it unless it is fit. -/
def deploying (fit : World → Prop) : Discipline World :=
  .attending World.answer fun found effect => Deploys effect → fit found

variable {fit : World → Prop} {kind : Effect → Prop} {α : Type}

/-- What is no deployment is always in place. -/
theorem observes_deploying (plain : ∀ x params, ¬kind (.maas (.deploy x params))) :
    Observes (deploying fit) kind := by
  refine observes_attending ?_
  rintro found effect is ⟨x, params, rfl⟩
  exact absurd is (plain x params)

theorem deploying_failWith {ok : α → World → Prop} {context : String} {target : Option String}
    {error : Maas.Error} :
    (failWith key context target error : Pass α).Ensures (deploying fit) ok (fun _ _ => True) world :=
  failWith_tolerated ((observes_deploying fun _ _ => id).tolerates fun _ _ _ => trivial)
    (fun _ => (observes_deploying fun _ _ => id).tolerates fun _ _ _ => trivial)
    (fun _ _ _ => trivial) trivial

/-- Allocating a machine changes nothing about its interfaces. -/
theorem deploying_allocateAgain
    (fits : ∀ after, after.region.inventory.interfaces = world.region.inventory.interfaces → fit after) :
    (allocateAgain key x).Ensures (deploying fit) (fun _ => fit) (fun _ _ => True) world := by
  refine Pass.ensures_bind.mpr (Pass.ensures_tryMaas.mpr ⟨nofun, fun reply after answers => ?_⟩)
  cases reply with
  | ok shown =>
      have same := interfaces_of_plain (.allocate { systemId := some x }) id answers
      exact Pass.ensures_pure.mpr (fits after same)
  | error error => exact deploying_failWith

theorem deploying_deploy (fits : fit world) :
    (deploy options key spec x).Ensures (deploying fit) (fun _ _ => True) (fun _ _ => True) world := by
  refine Pass.ensures_bind.mpr (Pass.ensures_tryMaas.mpr ⟨fun _ => fits, fun reply after _ => ?_⟩)
  cases reply with
  | ok machine => exact Pass.ensures_pure.mpr trivial
  | error error =>
      simp only
      split
      · exact deploying_failWith
      · exact Pass.ensures_throw.mpr trivial

/-- What tagging asks for. -/
def Tags : Effect → Prop
  | .maas (.createTag _) | .maas (.assignTag _ _) => True
  | _ => False

theorem deploying_ensureTags (lawful : start.region.Lawful) (tags : List String) :
    (discard (ensureTags machine tags)).Ensures (deploying fit) (fun _ after => after.region.Lawful ∧
      after.region.inventory.interfaces = start.region.inventory.interfaces) (fun _ _ => True) start := by
  have tolerates : (deploying fit).Tolerates (fun world => world.region.Lawful ∧
      world.region.inventory.interfaces = start.region.inventory.interfaces) Tags := by
    refine (observes_deploying fun _ _ => id).tolerates fun {world effect reply after} is kept answers => ?_
    refine ⟨lawful_answer effect kept.1 answers, ?_⟩
    unfold Tags at is
    split at is
    · exact (interfaces_of_plain _ id answers).trans kept.2
    · exact (interfaces_of_plain _ id answers).trans kept.2
    · exact is.elim
  refine Pass.ensures_discard.mpr ((ensureTags_ensures machine tags tolerates (fun _ => trivial)
    (fun _ => trivial) ⟨lawful, rfl⟩).mono ?_ fun _ _ _ => trivial)
  exact fun _ _ kept => kept.1

/-- After its networks have been verified, the machine is known and may be edited. -/
theorem deploying_prepare (lawful : start.region.Lawful)
    (distinct : ((start.region.inventory.interfacesOf machine.systemId).map (·.id)).Nodup)
    (tags : List String) :
    (discard (ensureTags machine tags) >>= fun _ =>
      verifyNetwork machine.systemId [management, workload]).Ensures (deploying fit)
        (fun _ verified => ∃ stored, verified.Wirable machine.systemId stored) (fun _ _ => True) start := by
  refine (deploying_ensureTags lawful tags).bind ?_
  rintro - world ⟨lawful, same⟩
  have interfaces := Region.interfacesOf_congr same machine.systemId
  refine verifyNetwork_ensures (observes_deploying fun _ _ => nofun) (observes_deploying fun _ _ => id)
    lawful (interfaces ▸ distinct) ?_ fun _ _ => trivial
  intro stored middle verified found editable _ first second
  have machines := second.machines.trans first.machines
  refine ⟨stored, lawful.congr machines, ?_, machines ▸ found, editable⟩
  rw [second.ids, first.ids, interfaces]
  exact distinct

/-- A machine is deployed on its networks just when binding the address has left it there. -/
theorem deploying_finishVirtual (options : Options) (key : Key) (allocated : Bool)
    (lawful : start.region.Lawful)
    (distinct : ((start.region.inventory.interfacesOf machine.systemId).map (·.id)).Nodup)
    (networks : (spec.virtualized.map (·.networks)).getD [] = [management, workload])
    (declares : spec.staticIp = some declared) (valid : StaticIp.validate declared = .ok ip)
    (verifies : start.pass (discard (ensureTags machine spec.tags) >>= fun _ =>
      verifyNetwork machine.systemId [management, workload]) = (.ok (), verified))
    (wired : verified.region.inventory.Wired machine.systemId management workload) :
    (finishVirtual options key spec machine allocated).Ensures
      (deploying fun found => found.region.inventory.Wired machine.systemId management workload ↔
        Stays verified.region.inventory machine.systemId ip management workload)
      (fun _ _ => True) (fun _ _ => True) start := by
  unfold finishVirtual
  extract_lets systemId deploys allocates
  -- Binding the address makes a world `fit`; allocating the machine keeps it so.
  let fit (found : World) : Prop := found.region.inventory.Wired systemId management workload ↔
    Stays verified.region.inventory systemId ip management workload
  have deployed : ∀ world, fit world →
      (deploys ()).Ensures (deploying fit) (fun _ _ => True) (fun _ _ => True) world := fun world fits =>
    (deploying_deploy fits).bind fun _ _ _ => Pass.ensures_pure.mpr trivial
  have readied : ∀ world, fit world →
      (allocates ()).Ensures (deploying fit) (fun _ _ => True) (fun _ _ => True) world := by
    intro world fits
    cases allocated with
    | true => exact deployed world fits
    | false =>
        refine Pass.Ensures.bind (Pass.ensures_discard.mpr (deploying_allocateAgain ?_)) fun _ => deployed
        exact fun after same => (Region.wired_congr same).trans fits
  have prepares : (discard (ensureTags machine spec.tags) >>= fun _ =>
      verifyNetwork systemId [management, workload]).Ensures (deploying fit)
        (fun _ verified => ∃ stored, verified.Wirable systemId stored) (fun _ _ => True) start :=
    deploying_prepare lawful distinct spec.tags
  have prepared := ensures_of_pass prepares verifies
  refine ((Pass.ensures_bind.mp prepared).mono (fun _ _ => id) fun _ _ => False.elim).bind ?_
  intro _ world prepared
  rw [networks, declares]
  refine (prepared.mono (fun _ _ => id) fun _ _ => False.elim).bind ?_
  rintro - last ⟨⟨stored, wirable⟩, same⟩
  rw [same]
  exact (applyStaticIp_stays (observes_deploying fun _ _ => nofun) (observes_deploying fun _ _ => id)
    wirable valid wired).bind fun _ => readied

/-- When a pass deploys a machine whose networks it has verified, the machine is still on them just when
    binding the static address has left both interfaces there. -/
theorem deploys_wired_iff {found : World} {params : Maas.DeployParams} (lawful : start.region.Lawful)
    (distinct : ((start.region.inventory.interfacesOf machine.systemId).map (·.id)).Nodup)
    (state : State.ofText machine.statusName = .ready ∨ State.ofText machine.statusName = .allocated)
    (networks : (spec.virtualized.map (·.networks)).getD [] = [management, workload])
    (declares : spec.staticIp = some declared) (valid : StaticIp.validate declared = .ok ip)
    (verifies : start.pass (discard (ensureTags machine spec.tags) >>= fun _ =>
      verifyNetwork machine.systemId [management, workload]) = (.ok (), verified))
    (wired : verified.region.inventory.Wired machine.systemId management workload)
    (deploys : (found, Effect.maas (.deploy machine.systemId params)) ∈
      (continueVirtual options key spec machine).run.requests World.answer start) :
    found.region.inventory.Wired machine.systemId management workload ↔
      Stays verified.region.inventory machine.systemId ip management workload := by
  have finishes : ∃ allocated, continueVirtual options key spec machine =
      finishVirtual options key spec machine allocated := by
    unfold continueVirtual
    rcases state with is | is <;> rw [is]
    · exact ⟨false, rfl⟩
    · exact ⟨true, rfl⟩
  obtain ⟨allocated, same⟩ := finishes
  rw [same] at deploys
  have keeps := deploying_finishVirtual options key allocated lawful distinct networks declares valid
    verifies wired
  exact (pass_of_attending keeps).2 _ deploys ⟨_, _, rfl⟩

/-- A virtual machine on two networks with an address on the second one. -/
def dualHomed : Spec :=
  { minCpu := 1
    minMemoryMib := 1
    mode := .virtualized
    virtualized := some { networks := ["management", "workload"] }
    staticIp := some (hosted (some "eth1")) }

theorem deploys_wired_iff_dualHomed :
    let start := doubly "Ready" managementSubnet workloadSubnet
    let machine := Machine.idle "m1" "node-7" "Ready"
    let pass := continueVirtual {} ⟨"metal", "worker-0"⟩ dualHomed machine
    let verified := (start.pass (discard (ensureTags machine dualHomed.tags) >>= fun _ =>
      verifyNetwork machine.systemId ["management", "workload"])).2
    ∃ ip found params, StaticIp.validate (hosted (some "eth1")) = .ok ip ∧
      (found, Effect.maas (.deploy machine.systemId params)) ∈ pass.run.requests World.answer start ∧
        (found.region.inventory.Wired machine.systemId "management" "workload" ↔
          Stays verified.region.inventory machine.systemId ip "management" "workload") := by
  intro start machine pass verified
  let params : Maas.DeployParams := { distroSeries := some "jammy", userData := none }
  have deploys : ∃ request ∈ pass.run.requests World.answer start,
      request.2 = .maas (.deploy machine.systemId params) := by
    decide +kernel
  obtain ⟨⟨found, effect⟩, mem, is⟩ := deploys
  obtain rfl : effect = .maas (.deploy machine.systemId params) := is
  have ready : State.ofText machine.statusName = .ready := by decide +kernel
  have distinct : ((start.region.inventory.interfacesOf machine.systemId).map (·.id)).Nodup := by
    decide +kernel
  have verifies : start.pass (discard (ensureTags machine dualHomed.tags) >>= fun _ =>
      verifyNetwork machine.systemId ["management", "workload"]) = (.ok (), verified) :=
    pass_eq_ok (by decide +kernel)
  have wired : verified.region.inventory.Wired machine.systemId "management" "workload" := by
    decide +kernel
  refine ⟨_, found, params, rfl, mem, ?_⟩
  exact deploys_wired_iff (lawful_doubly _ _ _) distinct (.inl ready) rfl rfl rfl verifies wired mem

/-- An address that lies on both networks takes its interface from the one to the other. -/
theorem deploys_unwired_widened :
    let start := doubly "Ready" (.plain 1 "management" "10.0.0.0/8") workloadSubnet
    let machine := Machine.idle "m1" "node-7" "Ready"
    let pass := continueVirtual {} ⟨"metal", "worker-0"⟩ dualHomed machine
    let verified := start.pass (discard (ensureTags machine dualHomed.tags) >>= fun _ =>
      verifyNetwork "m1" ["management", "workload"])
    let params : Maas.DeployParams := { distroSeries := some "jammy", userData := none }
    verified.1.toOption.isSome = true ∧
      verified.2.region.inventory.Wired "m1" "management" "workload" ∧
        ∃ request ∈ pass.run.requests World.answer start,
          request.2 = .maas (.deploy "m1" params) ∧
            ¬request.1.region.inventory.Wired "m1" "management" "workload" := by
  intro start machine pass verified params
  refine ⟨?_, ?_, ?_⟩
  all_goals decide +kernel

end World

end MachineProvisioning
