import MachineProvisioning.Proofs.Region.Bookkeeping
import MachineProvisioning.Proofs.Region.History
import MachineProvisioning.Proofs.Region.Hosts
import MachineProvisioning.Proofs.Region.Stock
import MachineProvisioning.Proofs.Text.Numeral

/-! # Composed machines are new

The id of a composed machine is made of the next number, of which it keeps four digits, and nobody looks
whether it is taken. The machine is new while fewer than ten thousand numbers have been taken and nothing
was brought in under its id; otherwise it can replace another one, whose interfaces it keeps.
-/

namespace MachineProvisioning.Region

open Maas (Interface Subnet ComposeParams ComposedVm)
open Text

theorem composedId_eq_iff {m n : UInt64} :
    composedId m = composedId n ↔ m.toNat % 10000 = n.toNat % 10000 := by
  constructor
  · intro same
    have digits : (decimalPadded 4 (m.toNat % 10000)).toList =
        (decimalPadded 4 (n.toNat % 10000)).toList := by
      have texts := congrArg String.toList same
      rw [composedId, composedId, String.toList_append, String.toList_append] at texts
      exact List.append_cancel_left texts
    have reads : readDecimal? (decimalPadded 4 (m.toNat % 10000)).toList = some (m.toNat % 10000) :=
      readDecimal?_decimalPadded
    rw [digits, readDecimal?_decimalPadded] at reads
    exact (Option.some.inj reads).symm
  · intro same
    rw [composedId, composedId, same]

/-- The interface that is made of a wire, with the number and the one after it. -/
def wiredInterface (resolve : String → Option Subnet) (number : UInt64) (wire : Wire) : Interface :=
  .physical number wire.name
    [{ id := number + 1
       mode := if wire.address.isSome then .static else .auto
       subnet := resolve wire.subnet
       ipAddress := wire.address }]

/-- The interfaces that are made of a wiring, with numbers from this one on. -/
def wiredInterfaces (resolve : String → Option Subnet) (number : UInt64) : List Wire → List Interface
  | [] => []
  | wire :: rest => wiredInterface resolve number wire :: wiredInterfaces resolve (number + 1 + 1) rest

/-- The interfaces of a machine with a wiring, or the one that it has without. -/
def madeInterfaces (resolve : String → Option Subnet) (number : UInt64) (wiring : List Wire) :
    List Interface :=
  if wiring.isEmpty then [.physical number "eth0" []] else wiredInterfaces resolve number wiring

def wiringOf (params : ComposeParams) : List Wire := (params.interfaces.map readWiring).getD []

/-- The interfaces that a composition makes. The machine itself takes the first number. -/
def composedInterfaces (region : Region) (params : ComposeParams) : List Interface :=
  madeInterfaces region.inventory.resolveSubnet (region.nextId + 1) (wiringOf params)

variable {region after : Region} {x y : String} {hostId : UInt64} {params : ComposeParams}
  {vm : ComposedVm}

theorem interfacesOf_addInterface (stock : Inventory) (x y : String) (iface : Interface) :
    (stock.addInterface x iface).interfacesOf y =
      if x = y then stock.interfacesOf y ++ [iface] else stock.interfacesOf y := by
  unfold Inventory.addInterface
  rw [Inventory.interfacesOf, Table.get?_insert]
  split
  · next same => rw [same]; rfl
  · rfl

theorem bootInterfaces_addInterface (stock : Inventory) (iface : Interface) (differs : x ≠ y) :
    (stock.addInterface x iface).bootInterfaces.get? y = stock.bootInterfaces.get? y := by
  unfold Inventory.addInterface
  dsimp only
  split
  · rfl
  · rw [Table.get?_insert, if_neg differs]

theorem interfacesOf_wire (x : String) (wiring : List Wire) (region : Region) :
    (wire x wiring region).inventory.interfacesOf x = region.inventory.interfacesOf x ++
      madeInterfaces region.inventory.resolveSubnet region.nextId wiring := by
  have wires : (wiring.foldl (addWire x) region).inventory.interfacesOf x =
      region.inventory.interfacesOf x ++
        wiredInterfaces region.inventory.resolveSubnet region.nextId wiring := by
    induction wiring generalizing region with
    | nil => exact (List.append_nil _).symm
    | cons first rest ih =>
        have made : (addWire x region first).inventory.interfacesOf x =
            region.inventory.interfacesOf x ++
              [wiredInterface region.inventory.resolveSubnet region.nextId first] :=
          (interfacesOf_addInterface region.inventory x x _).trans (if_pos rfl)
        calc ((first :: rest).foldl (addWire x) region).inventory.interfacesOf x
            = (addWire x region first).inventory.interfacesOf x ++
                wiredInterfaces region.inventory.resolveSubnet (region.nextId + 1 + 1) rest :=
              ih (addWire x region first)
          _ = _ := by rw [made, wiredInterfaces, List.append_assoc, List.singleton_append]
  unfold wire madeInterfaces
  split
  · exact (interfacesOf_addInterface region.inventory x x _).trans (if_pos rfl)
  · exact wires

/-- A composition takes the next number, stores a machine under the id of that number, in place of one that
    has it already, and adds the interfaces to those that are there under the id. -/
structure Composes (region : Region) (params : ComposeParams) (x : String) (after : Region) : Prop where
  named : x = composedId region.nextId
  taken : after.nextId = region.nextId + UInt64.ofNat (1 + numbersOf (wiringOf params))
  stored : ∃ machine, after.inventory.machines = region.inventory.machines.insert x machine
  interfaces : after.inventory.interfacesOf x =
    region.inventory.interfacesOf x ++ region.composedInterfaces params
  others : ∀ y ≠ x, after.inventory.interfaces.get? y = region.inventory.interfaces.get? y ∧
    after.inventory.bootInterfaces.get? y = region.inventory.bootInterfaces.get? y

theorem composes (answers : region.answer (.compose hostId params) = (.ok vm, after)) :
    Composes region params vm.systemId after := by
  unfold answer compose at answers
  dsimp only at answers
  split at answers
  · cases answers
  · split at answers
    · cases answers
    · next host _ =>
        split at answers
        · cases answers
        · cases answers
          refine ⟨rfl, ?_, ⟨_, wire_machines _ _ _⟩, ?_, fun y differs => ?_⟩
          · refine (nextId_wire _ _ _).trans ?_
            rw [UInt64.ofNat_add, ← UInt64.add_assoc]
            rfl
          · exact interfacesOf_wire _ _ _
          · refine wire_preserves (P := fun after =>
              after.inventory.interfaces.get? y = region.inventory.interfaces.get? y ∧
                after.inventory.bootInterfaces.get? y = region.inventory.bootInterfaces.get? y)
              (fun before iface nextId same => ?_) _ ⟨rfl, rfl⟩
            refine ⟨?_, (bootInterfaces_addInterface _ _ (Ne.symm differs)).trans same.2⟩
            exact (Table.get?_insert _ _ _ _).trans ((if_neg (Ne.symm differs)).trans same.1)

/-- A composition that is refused takes no number. -/
theorem nextId_of_refused {error : Maas.Error}
    (answers : region.answer (.compose hostId params) = (.error error, after)) :
    after.nextId = region.nextId := by
  unfold answer compose at answers
  dsimp only at answers
  split at answers
  · cases answers
    rfl
  · split at answers
    · cases answers
      rfl
    · split at answers
      · cases answers
        rfl
      · cases answers

/-- A composition adds a machine with the interfaces that it makes, and leaves every other one alone. -/
structure ComposesAnew (region : Region) (params : ComposeParams) (x : String) (after : Region) :
    Prop where
  unnamed : region.inventory.machines.get? x = none
  added : after.inventory.machines.keys.Perm (x :: region.inventory.machines.keys)
  others : ∀ y ≠ x, after.inventory.machines.get? y = region.inventory.machines.get? y ∧
    after.inventory.interfacesOf y = region.inventory.interfacesOf y ∧
    after.inventory.bootInterfaces.get? y = region.inventory.bootInterfaces.get? y
  interfaces : after.inventory.interfacesOf x = region.composedInterfaces params

/-- A composition adds a machine when nothing is there under its id. -/
theorem Composes.anew_iff (composes : Composes region params x after) :
    ComposesAnew region params x after ↔
      region.inventory.machines.get? x = none ∧ region.inventory.interfacesOf x = [] := by
  constructor
  · intro anew
    have same := composes.interfaces.symm.trans anew.interfaces
    exact ⟨anew.unnamed, List.append_left_eq_self.mp same⟩
  · rintro ⟨unnamed, bare⟩
    obtain ⟨machine, put⟩ := composes.stored
    refine ⟨unnamed, put ▸ Table.perm_keys_insert unnamed, fun y differs => ?_, ?_⟩
    · obtain ⟨interfaces, boot⟩ := composes.others y differs
      refine ⟨?_, congrArg (·.getD []) interfaces, boot⟩
      rw [put, Table.get?_insert, if_neg (Ne.symm differs)]
    · rw [composes.interfaces, bare, List.nil_append]

/-! ## Unknown ids -/

/-- The region has nothing under this id. -/
structure Unknown (x : String) (region : Region) : Prop where
  machine : region.inventory.machines.get? x = none
  interfaces : region.inventory.interfaces.get? x = none
  boot : region.inventory.bootInterfaces.get? x = none

/-- A machine with this id, or an interface for it, is brought in from outside. -/
def Event.Brings (x : String) : Event → Prop
  | .change (.addMachine machine) => machine.systemId = x
  | .change (.addInterface y _) => y = x
  | _ => False

theorem Unknown.interfacesOf (unknown : Unknown x region) : region.inventory.interfacesOf x = [] := by
  rw [Inventory.interfacesOf, unknown.interfaces]
  rfl

theorem get?_interfaces_relinked {stock changed : Inventory} {iface : Interface}
    (relinks : Relinks stock y iface changed) (absent : stock.interfaces.get? x = none) :
    changed.interfaces.get? x = none := by
  rw [relinks.put]
  unfold Inventory.putInterface
  dsimp only
  rw [Table.get?_modify, absent, Option.map_none, ite_self]

/-- Only a composition gives the first interface. -/
theorem Unknown.interfaces_answer (unknown : Unknown x region) {call : Maas.Call}
    (plain : ¬IsComposition call) : (region.answer call).2.inventory.interfaces.get? x = none := by
  have linked (y : String) (interfaceId : UInt64) (params : Maas.LinkParams) :
      (linkSubnet y interfaceId params region).2.inventory.interfaces.get? x = none := by
    rcases linkSubnet_cases (x := y) interfaceId params region with
      ⟨_, -, same⟩ | ⟨_, _, -, -, -, -, relinks⟩
    · rw [same]
      exact unknown.interfaces
    · exact get?_interfaces_relinked relinks unknown.interfaces
  cases call with
  | compose hostId params => exact absurd trivial plain
  | linkSubnet y interfaceId params => exact linked y interfaceId params
  | bindBootInterface y params =>
      simp only [answer, bindBootInterface]
      split
      · exact unknown.interfaces
      · next bootId _ => exact linked y bootId params
  | unlinkSubnet y interfaceId linkId =>
      rcases unlinkSubnet_cases (x := y) interfaceId linkId region with same | ⟨_, relinks⟩
      · exact same ▸ unknown.interfaces
      · exact get?_interfaces_relinked relinks unknown.interfaces
  | createBridge y params =>
      simp only [answer, createBridge, drawId]
      split
      · exact unknown.interfaces
      · split
        · exact unknown.interfaces
        · next booted =>
            have differs : y ≠ x := by
              rintro rfl
              exact booted (by simp [Table.contains, tally, unknown.boot])
            exact (Table.get?_insert _ _ _ _).trans ((if_neg differs).trans unknown.interfaces)
  | _ =>
      rw [Region.interfaces_answer region _ id]
      exact unknown.interfaces

theorem Unknown.machine_answer (lawful : region.Lawful) (unknown : Unknown x region) {call : Maas.Call}
    (plain : ¬IsComposition call) : (region.answer call).2.inventory.machines.get? x = none := by
  have conforms := region.answer_conforms call
  unfold Conforms at conforms
  generalize (region.answer call).1 = reply at conforms
  generalize (region.answer call).2 = after at conforms
  cases conforms with
  | refused same => exact same ▸ unknown.machine
  | quiet _ same => exact same ▸ unknown.machine
  | stored machine alters _ put =>
      rw [put, Table.get?_insert]
      split
      · next own =>
          obtain ⟨hostId, params, rfl⟩ | ⟨old, known, -⟩ := lawful.alters_cases alters
          · exact absurd trivial plain
          · rw [own, unknown.machine] at known
            cases known
      · exact unknown.machine

theorem Unknown.congr (unknown : Unknown x region) (same : after.inventory = region.inventory) :
    Unknown x after := by
  obtain ⟨machine, interfaces, boot⟩ := unknown
  exact ⟨same ▸ machine, same ▸ interfaces, same ▸ boot⟩

/-- What is known of an id after a call, and was not before, is a machine that the call has composed. -/
theorem Unknown.composed (lawful : region.Lawful) (unknown : Unknown x region) {call : Maas.Call}
    (known : ¬Unknown x (region.answer call).2) : ∃ hostId params vm, call = .compose hostId params ∧
      region.answer (.compose hostId params) =
        (.ok vm, (region.answer (.compose hostId params)).2) ∧ vm.systemId = x := by
  by_cases plain : IsComposition call
  · cases call with
    | compose hostId params =>
        generalize result : region.answer (.compose hostId params) = answers at known
        obtain ⟨error | vm, after⟩ := answers
        · exact absurd (unknown.congr (inventory_of_refused result)) known
        · refine ⟨hostId, params, vm, rfl, by rw [result], ?_⟩
          by_contra differs
          have made := composes result
          obtain ⟨machine, put⟩ := made.stored
          obtain ⟨interfaces, boot⟩ := made.others x (Ne.symm differs)
          refine known ⟨?_, interfaces.trans unknown.interfaces, boot.trans unknown.boot⟩
          rw [put, Table.get?_insert, if_neg differs, unknown.machine]
    | _ => exact plain.elim
  · refine absurd ⟨unknown.machine_answer lawful plain, unknown.interfaces_answer plain, ?_⟩ known
    rw [(region.leaves_answer call).boots plain]
    exact unknown.boot

/-- A change from outside leaves an id unknown that it does not bring in. -/
theorem Unknown.changed (unknown : Unknown x region) {change : Change}
    (other : ¬(Event.change change).Brings x) : Unknown x (region.after change) := by
  have modified (y : String) (f : Maas.Machine → Maas.Machine) :
      Unknown x { region with inventory := region.inventory.modifyMachine y f } := by
    refine ⟨?_, unknown.interfaces, unknown.boot⟩
    refine (Table.get?_modify _ _ _ _).trans ?_
    rw [unknown.machine, Option.map_none, ite_self]
  cases change with
  | addMachine machine =>
      refine ⟨?_, unknown.interfaces, unknown.boot⟩
      exact (Table.get?_insert _ _ _ _).trans ((if_neg other).trans unknown.machine)
  | addInterface y iface =>
      refine ⟨unknown.machine, ?_, (bootInterfaces_addInterface _ iface other).trans unknown.boot⟩
      exact (Table.get?_insert _ _ _ _).trans ((if_neg other).trans unknown.interfaces)
  | removeMachine y =>
      refine ⟨?_, ?_, unknown.boot⟩
      · refine (Table.get?_erase _ _ _).trans ?_
        rw [unknown.machine, ite_self]
      · refine (Table.get?_erase _ _ _).trans ?_
        rw [unknown.interfaces, ite_self]
  | setStatus y statusName => exact modified y _
  | setPower y powerState => exact modified y _
  | commissioned y => exact modified y _
  | deployed y => exact modified y _
  | addHost | addSubnet | addAllocation => exact ⟨unknown.machine, unknown.interfaces, unknown.boot⟩

/-- What is known of an id after an event, and was not before, is brought in or composed by it. -/
theorem Unknown.turn (lawful : region.Lawful) (unknown : Unknown x region) {event : Event}
    (known : ¬Unknown x (region.next event)) :
    event.Brings x ∨ ∃ hostId params vm, event = .call (.compose hostId params) ∧
      region.answer (.compose hostId params) = (.ok vm, region.next event) ∧ vm.systemId = x := by
  cases event with
  | call call =>
      obtain ⟨hostId, params, vm, rfl, answers, own⟩ := unknown.composed lawful known
      exact .inr ⟨hostId, params, vm, rfl, answers, own⟩
  | change change =>
      by_contra other
      exact known (unknown.changed fun brings => other (.inl brings))
  | plant planted => exact absurd ⟨unknown.machine, unknown.interfaces, unknown.boot⟩ known

/-- How many numbers an event takes at most. -/
def Event.draws : Event → Nat
  | .call asked => Region.draws asked
  | _ => 0

/-- How many numbers the events take at most. -/
def drawsOf : List Event → Nat
  | [] => 0
  | event :: rest => event.draws + drawsOf rest

theorem drawsOf_append (earlier later : List Event) :
    drawsOf (earlier ++ later) = drawsOf earlier + drawsOf later := by
  induction earlier with
  | nil => exact (Nat.zero_add _).symm
  | cons event rest ih =>
      rw [List.cons_append, drawsOf, ih, drawsOf, Nat.add_assoc]

theorem nextId_next (region : Region) (event : Event) :
    ∃ k ≤ event.draws, (region.next event).nextId = region.nextId + UInt64.ofNat k := by
  cases event with
  | call call => exact (region.answer_entered call).drawn
  | _ => exact ⟨0, Nat.le_refl _, (UInt64.add_zero _).symm⟩

theorem nextId_afterAll (region : Region) (events : List Event) :
    ∃ k ≤ drawsOf events, (region.afterAll events).nextId = region.nextId + UInt64.ofNat k := by
  induction events generalizing region with
  | nil => exact ⟨0, Nat.le_refl _, (UInt64.add_zero _).symm⟩
  | cons event rest ih =>
      obtain ⟨k, few, first⟩ := region.nextId_next event
      obtain ⟨l, fewer, last⟩ := ih (region.next event)
      refine ⟨k + l, Nat.add_le_add few fewer, ?_⟩
      calc (region.afterAll (event :: rest)).nextId
          = (region.next event).nextId + UInt64.ofNat l := last
        _ = region.nextId + UInt64.ofNat (k + l) := by
            rw [first, UInt64.ofNat_add, UInt64.add_assoc]

theorem composedId_ne {earlier later : Nat} (before : earlier < later) (few : later < 10000) :
    composedId (empty.nextId + UInt64.ofNat earlier) ≠
      composedId (empty.nextId + UInt64.ofNat later) := by
  have number {k : Nat} (small : k < 10000) : (empty.nextId + UInt64.ofNat k).toNat = 1000 + k := by
    rw [UInt64.toNat_add, UInt64.toNat_ofNat_of_lt' (Nat.lt_trans small (by decide))]
    change (1000 + k) % 2 ^ 64 = _
    omega
  rw [Ne, composedId_eq_iff, number (by omega), number few]
  omega

/-! ## Compositions in a history -/

/-- The id of a composition does not come back before ten thousand numbers have been taken. -/
theorem composedId_ne_later {earlier later : List Event}
    (answers : (empty.afterAll earlier).answer (.compose hostId params) =
      (.ok vm, (empty.afterAll earlier).next (.call (.compose hostId params))))
    (few : drawsOf (earlier ++ .call (.compose hostId params) :: later) < 10000) :
    vm.systemId ≠
      composedId (empty.afterAll (earlier ++ .call (.compose hostId params) :: later)).nextId := by
  let composed := (empty.afterAll earlier).next (.call (.compose hostId params))
  let own := 1 + numbersOf (wiringOf params)
  obtain ⟨k, fewer, first⟩ := empty.nextId_afterAll earlier
  obtain ⟨l, fewest, last⟩ := composed.nextId_afterAll later
  have made := composes answers
  have total : drawsOf (earlier ++ .call (.compose hostId params) :: later) =
      drawsOf earlier + (own + drawsOf later) := drawsOf_append _ _
  have now : (empty.afterAll (earlier ++ .call (.compose hostId params) :: later)).nextId =
      empty.nextId + UInt64.ofNat (k + own + l) := by
    calc (empty.afterAll (earlier ++ .call (.compose hostId params) :: later)).nextId
        = (composed.afterAll later).nextId := by rw [afterAll_append]; rfl
      _ = empty.nextId + UInt64.ofNat k + UInt64.ofNat own + UInt64.ofNat l := by
          rw [last, made.taken, first]
      _ = empty.nextId + UInt64.ofNat (k + own + l) := by
          rw [UInt64.ofNat_add (k + own), UInt64.ofNat_add k, UInt64.add_assoc, UInt64.add_assoc,
            UInt64.add_assoc]
  rw [made.named, first, now]
  exact composedId_ne (by omega) (by omega)

/-- Nothing has ever been known under the id that comes next, when nothing was brought in under it and
    fewer than ten thousand numbers have been taken. -/
theorem unknown_next {events first : List Event} (initial : first <+: events)
    (unbrought : ∀ event ∈ events, ¬event.Brings (composedId (empty.afterAll events).nextId))
    (few : drawsOf events < 10000) :
    Unknown (composedId (empty.afterAll events).nextId) (empty.afterAll first) := by
  by_contra known
  obtain ⟨rest, rfl⟩ := initial
  let x := composedId (empty.afterAll (first ++ rest)).nextId
  have start : Unknown x empty := ⟨rfl, rfl, rfl⟩
  -- The id has become known in one of the events, which can only be another composition.
  obtain ⟨earlier, event, later, rfl, before, turned⟩ :=
    exists_turn (P := fun region => ¬Unknown x region) (not_not_intro start) known
  obtain brings | ⟨hostId, params, vm, rfl, composed, same⟩ :=
    (not_not.mp before).turn (lawful_empty.afterAll earlier) turned
  · exact unbrought event (by simp) brings
  · rw [List.append_assoc, List.cons_append] at few
    refine composedId_ne_later composed few (same.trans ?_)
    rw [← List.cons_append, ← List.append_assoc]

/-- Nothing is known under the id of a composition, when nothing was brought in under it and fewer than
    ten thousand numbers have been taken. -/
theorem unknown_composed {events : List Event}
    (answers : (empty.afterAll events).answer (.compose hostId params) = (.ok vm, after))
    (unbrought : ∀ event ∈ events, ¬event.Brings vm.systemId) (few : drawsOf events < 10000) :
    Unknown vm.systemId (empty.afterAll events) := by
  have named := (composes answers).named
  rw [named] at unbrought ⊢
  exact unknown_next (List.prefix_refl events) unbrought few

/-- A composition adds a machine exactly when no machine and no interface is there under its id. That is so
    as long as fewer than ten thousand numbers have been taken and nothing was brought in under the id. -/
theorem composes_anew_iff {events : List Event}
    (answers : (empty.afterAll events).answer (.compose hostId params) = (.ok vm, after)) :
    (ComposesAnew (empty.afterAll events) params vm.systemId after ↔
      (empty.afterAll events).inventory.machines.get? vm.systemId = none ∧
        (empty.afterAll events).inventory.interfacesOf vm.systemId = []) ∧
    ((∀ event ∈ events, ¬event.Brings vm.systemId) → drawsOf events < 10000 →
      ComposesAnew (empty.afterAll events) params vm.systemId after) := by
  have made := composes answers
  refine ⟨made.anew_iff, fun unbrought few => made.anew_iff.mpr ?_⟩
  have unknown := unknown_composed answers unbrought few
  exact ⟨unknown.machine, unknown.interfacesOf⟩

/-- A small machine with one wire. -/
def oneWired (hostname : String) : ComposeParams :=
  ⟨2, 2048, none, hostname, none, none, some "eth0:subnet=lan,ip=10.0.0.5"⟩

/-- A VM host, and a machine that was composed on it. -/
def composedOnce : List Event :=
  [.change (.addHost (.roomy 1 "host-1" ⟨1, "z1"⟩ none none)), .call (.compose 1 (oneWired "worker-0"))]

/-- A second machine gets an id of its own. -/
theorem composes_anew_iff_second :
    let region := empty.afterAll composedOnce
    let after := (region.answer (.compose 1 (oneWired "worker-1"))).2
    ∃ vm, region.answer (.compose 1 (oneWired "worker-1")) = (.ok vm, after) ∧
      vm.systemId = "vm1003" ∧
      (ComposesAnew region (oneWired "worker-1") vm.systemId after ↔
        region.inventory.machines.get? vm.systemId = none ∧
          region.inventory.interfacesOf vm.systemId = []) ∧
      ComposesAnew region (oneWired "worker-1") vm.systemId after := by
  intro region after
  have answers : region.answer (.compose 1 (oneWired "worker-1")) =
      (.ok ⟨"vm1003", "/MAAS/api/2.0/machines/vm1003/"⟩, after) := by
    decide +kernel
  obtain ⟨exactly, anew⟩ := composes_anew_iff answers
  refine ⟨_, answers, rfl, exactly, anew (fun event mem => ?_) (by decide +kernel)⟩
  simp only [composedOnce, List.mem_cons, List.not_mem_nil, or_false] at mem
  obtain rfl | rfl := mem
  · exact id
  · exact id

/-- A VM host, and a deployed machine that bears the first id of a composition. -/
def namesake : List Event :=
  [.change (.addHost (.roomy 1 "host-1" ⟨1, "z1"⟩ none none)),
   .change (.addMachine { systemId := "vm1000", hostname := "node-7", statusName := "Deployed" })]

/-- The deployed machine is replaced by the composed one. -/
theorem composition_replaces_namesake :
    ¬∀ (events : List Event) (hostId : UInt64) (params : ComposeParams) (vm : ComposedVm)
      (after : Region), (empty.afterAll events).answer (.compose hostId params) = (.ok vm, after) →
        ComposesAnew (empty.afterAll events) params vm.systemId after := by
  intro claim
  have answers : (empty.afterAll namesake).answer (.compose 1 (oneWired "worker-0")) =
      (.ok ⟨"vm1000", "/MAAS/api/2.0/machines/vm1000/"⟩,
        ((empty.afterAll namesake).answer (.compose 1 (oneWired "worker-0"))).2) := by
    rfl
  have known : ((empty.afterAll namesake).inventory.machines.get? "vm1000").isSome := by
    decide +kernel
  rw [(claim namesake 1 (oneWired "worker-0") _ _ answers).unnamed] at known
  cases known

end MachineProvisioning.Region
