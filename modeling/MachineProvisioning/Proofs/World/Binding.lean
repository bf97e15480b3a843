import MachineProvisioning.Proofs.World.Wiring

/-! # Binding a static address

A pass that binds an address decides from the layout of the machine whether anything is left to do, and
on which interface. The decision is a look at the region, the rest replaces the links of the interface.
A later pass decides anew, from what the first one has left.
-/

namespace MachineProvisioning

open Resource (Key StaticIpSpec)
open Lifecycle (State)
open Maas (Machine Interface Link Subnet)
open StaticIp (Declaration Target isBound)
open Region (Relaid SameLayout Inventory Chosen withoutLink withoutLinks reaches)
open Engine

namespace World

variable {world after later : World} {P : Discipline World} {key : Key} {x : String}
  {declared : StaticIpSpec} {ip : Declaration} {iface : Interface} {target : Target}
  {ok : Unit → World → Prop} {err : Failure → World → Prop}

/-- The target has the address already. -/
def Bound (ip : Declaration) : Target → Prop
  | .interface iface => isBound iface ip = true
  | .boot => False

/-- The address is bound, where it is to be bound or, on a machine that is not to be touched, anywhere. -/
inductive Settled (stock : Inventory) (x : String) (machine : Machine) (ip : Declaration) : Prop where
  | chosen (editable : (State.ofText machine.statusName).allowsNetworkEdits = true) (target : Target)
      (chosen : stock.target x ip = .ok target) (bound : Bound ip target)
  | anywhere (untouchable : (State.ofText machine.statusName).allowsNetworkEdits = false)
      (examined : (State.ofText machine.statusName).isCommissioning = false) (iface : Interface)
      (listed : iface ∈ stock.interfacesOf x) (bound : isBound iface ip = true)

/-- The address is to be bound on the target. -/
structure Due (stock : Inventory) (x : String) (machine : Machine) (ip : Declaration) (target : Target) :
    Prop where
  editable : (State.ofText machine.statusName).allowsNetworkEdits = true
  chosen : stock.target x ip = .ok target
  unbound : ¬Bound ip target

variable {stock : Inventory} {machine : Machine}

theorem not_due_of_untouchable
    (untouchable : (State.ofText machine.statusName).allowsNetworkEdits = false) (target : Target) :
    ¬Due stock x machine ip target :=
  fun due => Bool.false_ne_true (untouchable.symm.trans due.editable)

theorem not_due_of_refused {failure : ProvisioningFailure} (refused : stock.target x ip = .error failure)
    (target : Target) : ¬Due stock x machine ip target :=
  fun due => nomatch refused.symm.trans due.chosen

theorem not_settled_of_unbound
    (untouchable : (State.ofText machine.statusName).allowsNetworkEdits = false)
    (unbound : ∀ iface ∈ stock.interfacesOf x, ¬isBound iface ip = true) :
    ¬Settled stock x machine ip
  | .chosen editable _ _ _ => Bool.false_ne_true (untouchable.symm.trans editable)
  | .anywhere _ _ iface listed bound => unbound iface listed bound

theorem not_settled_of_refused {failure : ProvisioningFailure}
    (editable : (State.ofText machine.statusName).allowsNetworkEdits = true)
    (refused : stock.target x ip = .error failure) : ¬Settled stock x machine ip
  | .chosen _ _ chosen _ => nomatch refused.symm.trans chosen
  | .anywhere untouchable _ _ _ _ => Bool.false_ne_true (untouchable.symm.trans editable)

theorem not_due_of_settled (settled : Settled stock x machine ip) (target : Target) :
    ¬Due stock x machine ip target := by
  intro due
  cases settled with
  | chosen _ other chosen bound =>
      cases due.chosen.symm.trans chosen
      exact due.unbound bound
  | anywhere untouchable => exact not_due_of_untouchable untouchable target due

/-- On a machine that may be edited, a chosen target has the address or is to get it. -/
theorem settled_or_due (editable : (State.ofText machine.statusName).allowsNetworkEdits = true)
    (chosen : stock.target x ip = .ok target) :
    Settled stock x machine ip ∨ Due stock x machine ip target := by
  by_cases bound : Bound ip target
  · exact .inl (.chosen editable target chosen bound)
  · exact .inr ⟨editable, chosen, bound⟩

/-- Nothing is edited on a machine that is being commissioned, and nothing counts as bound there. -/
theorem untouchable_of_isCommissioning {state : State} (busy : state.isCommissioning = true) :
    state.allowsNetworkEdits = false := by
  cases state <;> first | rfl | cases busy

theorem not_settled_of_isCommissioning
    (busy : (State.ofText machine.statusName).isCommissioning = true) : ¬Settled stock x machine ip
  | .chosen editable _ _ _ =>
      Bool.false_ne_true ((untouchable_of_isCommissioning busy).symm.trans editable)
  | .anywhere _ examined _ _ _ => Bool.false_ne_true (examined.symm.trans busy)

/-- No other machine is known to declare the address. -/
def Unopposed (world : World) (key : Key) (address : Net.Address) : Prop :=
  world.memory.listingFails = true ∨
    conflictingPeer key address (world.memory.declaredIn key.namespace_) = none

/-- Why a pass cannot find out whether the address is bound. -/
inductive Hindered (P : Discipline World) (world : World) (key : Key) (x : String) (ip : Declaration) :
    Prop where
  | opposed (other : ¬world.Unopposed key ip.address)
  | unseen (found : World) (unchanged : Unchanged world found) (error : Maas.Error) (after : World)
      (leads : P.leads found (.maas (.getMachine x)) (.error error) after)
  | unlisted (found : World) (unchanged : Unchanged world found) (error : Maas.Error) (after : World)
      (leads : P.leads found (.maas (.listInterfaces x)) (.error error) after)
  | impossible (machine : Machine)
      (stored : world.region.inventory.machines.get? x = some machine)
      (unsettled : ¬Settled world.region.inventory x machine ip)
      (idle : ∀ target, ¬Due world.region.inventory x machine ip target)

theorem listed_peers {namespace_ : String} {peers : List (String × String)}
    (answers : (.ok peers, after) = world.answer (.store (.listStaticIps namespace_))) :
    world.memory.listingFails = false ∧ peers = world.memory.declaredIn namespace_ := by
  have replies : .ok peers = (world.answerStore (.listStaticIps namespace_)).1 :=
    congrArg Prod.fst answers
  obtain ⟨-, ⟨fault, faulted, -⟩ | ⟨answered, -⟩⟩ := world.answerStore_cases (.listStaticIps namespace_)
  · rw [faulted] at replies
    cases replies
  · rw [answered, Store.Memory.answer] at replies
    split at replies
    · cases replies
    · next lists => exact ⟨by simpa using lists, Except.ok.inj replies⟩

theorem checkConflict_ensures (observes : Observes P Reads)
    (free : ∀ after, Unchanged world after → ok () after)
    (taken : ∀ failure after, Unchanged world after → ¬world.Unopposed key ip.address →
      err failure after) :
    (checkConflict key ip.address).Ensures P ok err world := by
  refine Pass.ensures_bind.mpr (Pass.ensures_tryStore.mpr ⟨observes.allows world _ trivial, ?_⟩)
  intro reply after leads
  have answers := observes.answers leads
  have unchanged := unchanged_of_store answers
  cases reply with
  | error failure => exact Pass.ensures_pure.mpr (free after unchanged)
  | ok peers =>
      obtain ⟨lists, rfl⟩ := listed_peers answers
      simp only
      split
      · exact Pass.ensures_pure.mpr (free after unchanged)
      · next name conflict =>
          refine Pass.ensures_throw.mpr (taken _ after unchanged ?_)
          simp [Unopposed, lists, conflict]

theorem validated_ensures {ok : Declaration → World → Prop} (observes : Observes P Reads)
    (valid : StaticIp.validate declared = .ok ip) (free : ∀ after, Unchanged world after → ok ip after)
    (taken : ∀ failure after, Unchanged world after → ¬world.Unopposed key ip.address →
      err failure after) :
    (validated key declared).Ensures P ok err world := by
  unfold validated
  rw [valid]
  refine Pass.ensures_bind.mpr (checkConflict_ensures observes (fun after unchanged => ?_) taken)
  exact Pass.ensures_pure.mpr (free after unchanged)

/-- Binding an address is a look at the machine, which finds that the address is bound already or what
    it is to be bound on, unless the pass is hindered. -/
theorem applyStaticIp_ensures (observes : Observes P Reads) (lawful : world.region.Lawful)
    (valid : StaticIp.validate declared = .ok ip)
    (settled : ∀ machine after, Unchanged world after → world.region.planted.listInterfaces = none →
      world.region.inventory.machines.get? x = some machine →
        Settled world.region.inventory x machine ip → ok () after)
    (due : ∀ machine target after, Unchanged world after →
      world.region.planted.listInterfaces = none →
        world.region.inventory.machines.get? x = some machine →
          Due world.region.inventory x machine ip target →
            (bindAddress x (world.region.inventory.interfacesOf x) ip target).Ensures P ok err after)
    (hindered : ∀ failure after, after.region.inventory = world.region.inventory →
      Hindered P world key x ip → err failure after) :
    (applyStaticIp key x declared).Ensures P ok err world := by
  unfold applyStaticIp
  refine Pass.ensures_bind.mpr (validated_ensures observes valid (fun first unchanged => ?_) ?_)
  case refine_2 =>
    exact fun failure after unchanged other =>
      hindered failure after (congrArg _ unchanged.region) (.opposed other)
  extract_lets address
  refine Pass.ensures_bind.mpr (ensures_look observes rfl rfl (fun shown second seen answered => ?_) ?_)
  case refine_2 =>
    intro error after leads same
    exact hindered _ after (by rw [same, unchanged.region]) (.unseen first unchanged error after leads)
  rw [unchanged.region] at answered
  obtain ⟨machine, stored, status, boots⟩ := shown_machine lawful answered
  have unchanged := unchanged.trans seen
  extract_lets state list
  have edits : state = State.ofText machine.statusName := congrArg State.ofText status
  have impossible : ∀ failure after, Unchanged world after →
      ¬Settled world.region.inventory x machine ip →
        (∀ target, ¬Due world.region.inventory x machine ip target) → err failure after :=
    fun failure after unchanged unsettled idle =>
      hindered failure after (congrArg _ unchanged.region) (.impossible machine stored unsettled idle)
  have lists : state.isCommissioning = false → (list ()).Ensures P ok err second := by
    intro calm
    refine Pass.ensures_bind.mpr (ensures_look observes rfl rfl (fun interfaces third seen answered => ?_) ?_)
    case refine_2 =>
      intro error after leads same
      exact hindered _ after (by rw [same, unchanged.region]) (.unlisted second unchanged error after leads)
    rw [unchanged.region] at answered
    obtain ⟨rfl, plain⟩ := shown_interfaces answered
    have unchanged := unchanged.trans seen
    have chooses : StaticIp.selectTarget (world.region.inventory.interfacesOf x)
        (shown.bootInterface.map (·.id)) ip = world.region.inventory.target x ip := by rw [boots]; rfl
    split
    · next untouchable =>
        rw [edits, Bool.not_eq_true'] at untouchable
        rw [edits] at calm
        split
        · next bound =>
            obtain ⟨iface, listed, bound⟩ := List.any_eq_true.mp bound
            exact Pass.ensures_pure.mpr
              (settled machine third unchanged plain stored (.anywhere untouchable calm iface listed bound))
        · next unbound =>
            refine Pass.ensures_throw.mpr (impossible _ third unchanged ?_ (not_due_of_untouchable untouchable))
            exact not_settled_of_unbound untouchable fun iface listed bound =>
              unbound (List.any_eq_true.mpr ⟨iface, listed, bound⟩)
    · next editable =>
        rw [edits, Bool.not_eq_true', Bool.not_eq_false] at editable
        rw [chooses]
        split
        · next failure refused =>
            exact Pass.ensures_throw.mpr (impossible _ third unchanged
              (not_settled_of_refused editable refused) (not_due_of_refused refused))
        · next target chosen =>
            extract_lets bound
            have decides : bound = true ↔ Bound ip target := by
              cases target <;> simp [Bound, bound]
            split
            · next already =>
                exact Pass.ensures_pure.mpr (settled machine third unchanged plain stored
                  (.chosen editable target chosen (decides.mp already)))
            · next unbound =>
                exact due machine target third unchanged plain stored
                  ⟨editable, chosen, fun already => unbound (decides.mpr already)⟩
  split
  · next busy =>
      rw [edits] at busy
      exact Pass.ensures_bind.mpr (Pass.ensures_throw.mpr (impossible _ second unchanged
        (not_settled_of_isCommissioning busy)
        (not_due_of_untouchable (untouchable_of_isCommissioning busy))))
  · next calm => exact lists (by simpa using calm)

/-- The links of an interface that stay when the address is bound on it. -/
def freed (iface : Interface) (ip : Declaration) : List Link :=
  withoutLinks iface.links ((linksInTheWay iface ip).map (·.id))

/-- The link that binds the address. -/
def bindingLink (number : UInt64) (subnet : Subnet) (ip : Declaration) : Link :=
  ⟨number, .static, some subnet, some ip.address.toText⟩

theorem releaseStaleAddress_ensures (observes : Observes P (Wires x))
    (done : ∀ after, SameLayout world.region.inventory after.region.inventory → ok () after)
    (refused : ∀ failure after call, Refuses P call →
      SameLayout world.region.inventory after.region.inventory → err failure after) :
    (releaseStaleAddress ip).Ensures P ok err world := by
  refine Pass.ensures_bind.mpr (ensures_look observes trivial rfl (fun found second seen _ => ?_) ?_)
  case refine_2 =>
    intro error after leads same
    exact refused _ after _ ⟨world, error, after, leads⟩ (same ▸ Region.sameLayout_refl _)
  have alike : SameLayout world.region.inventory second.region.inventory :=
    seen.region ▸ Region.sameLayout_refl _
  cases found with
  | none => exact Pass.ensures_pure.mpr (done second alike)
  | some allocation =>
      simp only
      split
      · refine Pass.ensures_bind.mpr (Pass.ensures_tryMaas.mpr ⟨observes.allows second _ trivial, ?_⟩)
        intro reply after leads
        have answers := observes.answers leads
        cases reply with
        | ok value =>
            refine Pass.ensures_pure.mpr (done after (alike.trans ?_))
            exact Region.sameLayout_releaseIpAddress (region_of_ok _ answers)
        | error error =>
            have same : SameLayout world.region.inventory after.region.inventory := by
              rw [inventory_of_error answers]
              exact alike
            cases error with
            | notFound text => exact Pass.ensures_pure.mpr (done after same)
            | _ =>
                exact Pass.ensures_throw.mpr (refused _ after _ ⟨second, _, after, leads⟩ same)
      · exact Pass.ensures_pure.mpr (done second alike)

/-- Binding an address on an interface takes away the links that stand in its way and adds one with
    the address, unless MAAS refuses. A choice that is left to MAAS is refused. -/
theorem bindAddress_ensures {stock : Inventory} (observes : Observes P (Wires x))
    (same : world.region.inventory = stock)
    (distinct : ((stock.interfacesOf x).map (·.id)).Nodup) (chosen : stock.target x ip = .ok target)
    (bound : ∀ iface subnet linkId after params, target = .interface iface →
      Grants P (.linkSubnet x iface.id params) → stock.bindingSubnet? x ip = some subnet →
        Relaid x iface.id (freed iface ip ++ [bindingLink linkId subnet ip]) stock
          after.region.inventory → ok () after)
    (refused : ∀ failure after call, Refuses P call →
      (∀ iface, target = .interface iface → ∃ gone,
        Relaid x iface.id (withoutLinks iface.links gone) stock after.region.inventory) →
          err failure after) :
    (bindAddress x (stock.interfacesOf x) ip target).Ensures P ok err world := by
  subst same
  unfold bindAddress
  cases target with
  | interface iface =>
      have mem := (Region.target_eq_interface_iff.mp chosen).mem
      have self := Region.relaid_self distinct mem
      have refused : ∀ failure after call gone, Refuses P call →
          Relaid x iface.id (withoutLinks iface.links gone) world.region.inventory
            after.region.inventory → err failure after := by
        intro failure after call gone refuses relaid
        refine refused failure after call refuses fun other same => ?_
        cases same
        exact ⟨gone, relaid⟩
      refine Pass.ensures_bind.mpr (releaseStaleAddress_ensures observes (fun first alike => ?_) ?_)
      case refine_2 =>
        exact fun failure after call refuses alike =>
          refused failure after call [] refuses (self.congr alike)
      extract_lets params action
      refine Pass.ensures_bind.mpr (unlinkAll_ensures _ observes distinct mem (self.congr alike) ?_ ?_)
      · intro second relaid
        refine link_ensures observes distinct mem relaid ?_ ?_
        · intro after subnet linkId grants names relaid
          exact bound iface subnet linkId after params rfl grants names relaid
        · exact fun failure after refuses relaid => refused failure after _ _ refuses relaid
      · exact fun failure after gone linkId refuses relaid =>
          refused failure after _ gone refuses relaid
  | boot =>
      refine Pass.ensures_bind.mpr (releaseStaleAddress_ensures observes (fun first alike => ?_) ?_)
      case refine_2 =>
        exact fun failure after call refuses _ =>
          refused failure after call refuses fun _ same => nomatch same
      extract_lets params action
      have bootless : first.region.inventory.bootInterface? x = none := by
        rw [← Region.bootless_of_target chosen]
        unfold Inventory.bootInterface?
        rw [alike.bootInterfaces, Region.interfacesOf_congr alike.interfaces]
      refine Pass.ensures_discard.mpr (ensures_changeNetwork.mpr ⟨observes.allows first _ rfl, ?_, ?_⟩)
      · intro value after leads
        exact absurd (region_of_ok _ (observes.answers leads)) (Region.bindBootInterface_refused bootless)
      · intro error after leads
        exact refused _ after _ ⟨first, error, after, leads⟩ fun _ same => nomatch same

/-- A pass that is to bind an address finds it bound and changes nothing, or binds it; or it is
    hindered or refused, and has at most taken links away. -/
theorem applyStaticIp_outcomes (looks : Observes P Reads) (observes : Observes P (Wires x))
    (lawful : world.region.Lawful)
    (distinct : ((world.region.inventory.interfacesOf x).map (·.id)).Nodup)
    (valid : StaticIp.validate declared = .ok ip)
    (settled : ∀ machine after, after.region = world.region →
      world.region.planted.listInterfaces = none →
        world.region.inventory.machines.get? x = some machine →
          Settled world.region.inventory x machine ip → ok () after)
    (bound : ∀ machine iface subnet linkId after params,
      world.region.planted.listInterfaces = none →
        world.region.inventory.machines.get? x = some machine →
          Due world.region.inventory x machine ip (.interface iface) →
            Grants P (.linkSubnet x iface.id params) →
              world.region.inventory.bindingSubnet? x ip = some subnet →
                Relaid x iface.id (freed iface ip ++ [bindingLink linkId subnet ip])
                  world.region.inventory after.region.inventory → ok () after)
    (hindered : ∀ failure after, after.region.inventory = world.region.inventory →
      Hindered P world key x ip → err failure after)
    (refused : ∀ target failure after call, world.region.inventory.target x ip = .ok target →
      Refuses P call → (∀ iface, target = .interface iface → ∃ gone,
        Relaid x iface.id (withoutLinks iface.links gone) world.region.inventory
          after.region.inventory) → err failure after) :
    (applyStaticIp key x declared).Ensures P ok err world := by
  refine applyStaticIp_ensures looks lawful valid ?_ ?_ hindered
  · exact fun machine after unchanged => settled machine after unchanged.region
  · intro machine target found unchanged plain stored due
    refine bindAddress_ensures observes (congrArg _ unchanged.region) distinct due.chosen ?_ ?_
    · rintro iface subnet linkId after params rfl
      exact bound machine iface subnet linkId after params plain stored due
    · exact fun failure after call => refused target failure after call due.chosen

end World

end MachineProvisioning
