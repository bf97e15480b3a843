import MachineProvisioning.Proofs.Net.Address
import MachineProvisioning.Proofs.Region.Machines
import MachineProvisioning.StaticIp.Target

/-! # How calls configure a machine

What a call does to the interfaces of a machine, beside what it does to the machine itself. No call
takes an interface away, and a link stays where it is unless it is unlinked.
-/

namespace MachineProvisioning.Region

open Maas (Machine Interface Link LinkParams BridgeParams)

/-- The names of the interfaces of a machine. -/
def Inventory.interfaceNames (stock : Inventory) (x : String) : List String :=
  (stock.interfacesOf x).map (·.name)

/-- The call changes the interfaces of a machine. -/
def Rewires : Maas.Call → Prop
  | .compose _ _ | .linkSubnet _ _ _ | .unlinkSubnet _ _ _ | .bindBootInterface _ _
  | .createBridge _ _ => True
  | _ => False

/-- Other calls leave all interfaces alone. -/
theorem interfaces_answer (region : Region) (call : Maas.Call) (plain : ¬Rewires call) :
    (region.answer call).2.inventory.interfaces = region.inventory.interfaces := by
  cases call with
  | allocate params => simp only [answer, allocate]; (repeat' split) <;> rfl
  | release x force => simp only [answer, release]; (repeat' split) <;> rfl
  | setSwapSize x bytes => simp only [answer, setSwapSize, update]; split <;> rfl
  | setHostname x hostname => simp only [answer, setHostname, update]; (repeat' split) <;> rfl
  | deploy x params => simp only [answer, deploy]; (repeat' split) <;> rfl
  | powerOn x => simp only [answer, powerOn, update]; split <;> rfl
  | listHostVms hostId => simp only [answer, listHostVms]; split <;> rfl
  | listInterfaces x => simp only [answer, listInterfaces]; (repeat' split) <;> rfl
  | releaseIpAddress ip force => simp only [answer, releaseIpAddress]; (repeat' split) <;> rfl
  | createTag name => simp only [answer, createTag]; split <;> rfl
  | assignTag name x => simp only [answer, assignTag]; (repeat' split) <;> rfl
  | compose hostId params => exact absurd trivial plain
  | linkSubnet x interfaceId params => exact absurd trivial plain
  | unlinkSubnet x interfaceId linkId => exact absurd trivial plain
  | bindBootInterface x params => exact absurd trivial plain
  | createBridge x params => exact absurd trivial plain
  | _ => rfl

variable {region after : Region} {stock : Inventory} {x : String} {iface : Interface}

theorem interface_eq_ok {interfaceId : UInt64} (found : stock.interface x interfaceId = .ok iface) :
    (stock.interfacesOf x).find? (·.id == iface.id) = some iface := by
  unfold Inventory.interface at found
  split at found
  · next first =>
      cases found
      have same : iface.id = interfaceId := by simpa using List.find?_some first
      rw [same]
      exact first
  · cases found

theorem names_replaceFirst {old : Interface} {interfaces : List Interface}
    (found : interfaces.find? (·.id == iface.id) = some old) (same : iface.name = old.name) :
    (replaceFirst iface interfaces).map (·.name) = interfaces.map (·.name) := by
  induction interfaces with
  | nil => rfl
  | cons other rest ih =>
      unfold replaceFirst
      split
      · next here =>
          simp only [List.find?_cons, here, beq_self_eq_true, Option.some.injEq] at found
          simp [same, found]
      · next differs =>
          simp only [List.find?_cons, beq_eq_false_iff_ne.mpr differs] at found
          simp [ih found]

theorem mem_replaceFirst {old : Interface} {interfaces : List Interface}
    (found : interfaces.find? (·.id == iface.id) = some old) :
    iface ∈ replaceFirst iface interfaces := by
  induction interfaces with
  | nil => cases found
  | cons other rest ih =>
      unfold replaceFirst
      split
      · exact .head _
      · next differs =>
          simp only [List.find?_cons, beq_eq_false_iff_ne.mpr differs] at found
          exact .tail _ (ih found)

theorem interfacesOf_putInterface (y : String) : (stock.putInterface x iface).interfacesOf y =
    if x = y then replaceFirst iface (stock.interfacesOf y) else stock.interfacesOf y := by
  unfold Inventory.interfacesOf Inventory.putInterface
  dsimp only
  rw [Table.get?_modify]
  split
  · cases stock.interfaces.get? y <;> rfl
  · rfl

/-- An interface of a machine is replaced by one that differs in its links. -/
structure Relinks (stock : Inventory) (x : String) (iface : Interface) (after : Inventory) : Prop where
  known : ∃ old, (stock.interfacesOf x).find? (·.id == iface.id) = some old ∧ iface.name = old.name
  put : after.interfaces = (stock.putInterface x iface).interfaces

theorem interfacesOf_congr {stock after : Inventory} (same : after.interfaces = stock.interfaces)
    (y : String) : after.interfacesOf y = stock.interfacesOf y := by
  unfold Inventory.interfacesOf
  rw [same]

theorem Relinks.interfaceNames {stock after : Inventory} (relinks : Relinks stock x iface after)
    (y : String) : after.interfaceNames y = stock.interfaceNames y := by
  obtain ⟨⟨old, found, same⟩, put⟩ := relinks
  unfold Inventory.interfaceNames
  rw [interfacesOf_congr put, interfacesOf_putInterface]
  split
  · next here => exact names_replaceFirst (here ▸ found) same
  · rfl

theorem Relinks.mem {stock after : Inventory} (relinks : Relinks stock x iface after) :
    iface ∈ after.interfacesOf x := by
  obtain ⟨⟨old, found, -⟩, put⟩ := relinks
  rw [interfacesOf_congr put, interfacesOf_putInterface, if_pos rfl]
  exact mem_replaceFirst found

/-- A link is added to the interface, or nothing changes. -/
theorem linkSubnet_cases (interfaceId : UInt64) (params : LinkParams) (region : Region) :
    (∃ error, (linkSubnet x interfaceId params region).1 = .error error ∧
      (linkSubnet x interfaceId params region).2.inventory.interfaces = region.inventory.interfaces) ∨
    ∃ iface link, (linkSubnet x interfaceId params region).1 = .ok iface ∧ link ∈ iface.links ∧
      link.mode = params.mode ∧ link.ipAddress = params.ipAddress ∧
        Relinks region.inventory x iface (linkSubnet x interfaceId params region).2.inventory := by
  unfold linkSubnet drawId
  dsimp only
  split
  · exact .inl ⟨_, rfl, rfl⟩
  · split
    · exact .inl ⟨_, rfl, rfl⟩
    · next old found =>
        refine .inr ⟨_, _, rfl, List.mem_append_right _ (.head _), rfl, rfl, ⟨old, ?_, rfl⟩, ?_⟩
        · exact interface_eq_ok found
        · split <;> rfl

theorem unlinkSubnet_cases (interfaceId linkId : UInt64) (region : Region) :
    (unlinkSubnet x interfaceId linkId region).2.inventory.interfaces =
        region.inventory.interfaces ∨
      ∃ iface, Relinks region.inventory x iface
        (unlinkSubnet x interfaceId linkId region).2.inventory := by
  unfold unlinkSubnet
  dsimp only
  split
  · exact .inl rfl
  · next old found =>
      split
      · exact .inl rfl
      · next link _ =>
          refine .inr ⟨{ old with links := old.links.erase link }, ⟨old, interface_eq_ok found, rfl⟩, ?_⟩
          split <;> rfl

/-- An interface is added to a machine. -/
theorem interfaceNames_append {stock after : Inventory}
    (put : after.interfaces = stock.interfaces.insert x (stock.interfacesOf x ++ [iface]))
    (y : String) : after.interfaceNames y =
      if x = y then stock.interfaceNames y ++ [iface.name] else stock.interfaceNames y := by
  unfold Inventory.interfaceNames Inventory.interfacesOf
  rw [put, Table.get?_insert]
  split
  · next same => simp [same, Inventory.interfacesOf]
  · rfl

theorem createBridge_cases (params : BridgeParams) (region : Region) :
    (∃ error, (createBridge x params region).1 = .error error ∧
      (createBridge x params region).2.inventory.interfaces = region.inventory.interfaces) ∨
    ∃ bridge : Interface, bridge.name = params.name ∧
      (createBridge x params region).2.inventory.interfaces =
        region.inventory.interfaces.insert x (region.inventory.interfacesOf x ++ [bridge]) := by
  unfold createBridge drawId
  dsimp only
  split
  · exact .inl ⟨_, rfl, rfl⟩
  · split
    · exact .inl ⟨_, rfl, rfl⟩
    · exact .inr ⟨_, rfl, rfl⟩

theorem interfaceNames_congr {stock after : Inventory} (same : after.interfaces = stock.interfaces)
    (y : String) : after.interfaceNames y = stock.interfaceNames y :=
  congrArg _ (interfacesOf_congr same y)

theorem interfaceNames_wire (wiring : List Wire) (region : Region) (y : String) :
    region.inventory.interfaceNames y ⊆ (wire x wiring region).inventory.interfaceNames y := by
  refine wire_preserves (P := fun after =>
    region.inventory.interfaceNames y ⊆ after.inventory.interfaceNames y)
    (fun before iface nextId has => ?_) wiring (List.Subset.refl _)
  have put : (before.inventory.addInterface x iface).interfaces = before.inventory.interfaces.insert x
      (before.inventory.interfacesOf x ++ [iface]) := rfl
  rw [interfaceNames_append put y]
  split
  · exact List.subset_append_of_subset_left _ has
  · exact has

/-- No call takes an interface away. -/
theorem interfaceNames_answer (region : Region) (call : Maas.Call) (y : String) :
    region.inventory.interfaceNames y ⊆ (region.answer call).2.inventory.interfaceNames y := by
  have unchanged {after : Region} (same : after.inventory.interfaces = region.inventory.interfaces) :
      region.inventory.interfaceNames y ⊆ after.inventory.interfaceNames y := by
    rw [interfaceNames_congr same y]
    exact List.Subset.refl _
  have relinked {x : String} {iface : Interface} {after : Region}
      (relinks : Relinks region.inventory x iface after.inventory) :
      region.inventory.interfaceNames y ⊆ after.inventory.interfaceNames y := by
    rw [relinks.interfaceNames y]
    exact List.Subset.refl _
  have linked (x : String) (interfaceId : UInt64) (params : LinkParams) :
      region.inventory.interfaceNames y ⊆
        (linkSubnet x interfaceId params region).2.inventory.interfaceNames y := by
    rcases linkSubnet_cases (x := x) interfaceId params region with
      ⟨_, -, same⟩ | ⟨_, _, -, -, -, -, relinks⟩
    · exact unchanged same
    · exact relinked relinks
  cases call with
  | linkSubnet x interfaceId params => exact linked x interfaceId params
  | bindBootInterface x params =>
      simp only [answer, bindBootInterface]
      split
      · exact unchanged rfl
      · next bootId _ => exact linked x bootId params
  | unlinkSubnet x interfaceId linkId =>
      rcases unlinkSubnet_cases (x := x) interfaceId linkId region with same | ⟨_, relinks⟩
      · exact unchanged same
      · exact relinked relinks
  | createBridge x params =>
      rcases createBridge_cases (x := x) params region with ⟨_, -, same⟩ | ⟨bridge, -, put⟩
      · exact unchanged same
      · simp only [answer]
        rw [interfaceNames_append put y]
        split
        · exact List.subset_append_left _ _
        · exact List.Subset.refl _
  | compose hostId params =>
      simp only [answer, compose]
      split
      · exact unchanged rfl
      · split
        · exact unchanged rfl
        · split
          · exact unchanged rfl
          · intro name mem
            exact interfaceNames_wire _ _ y mem
  | _ => exact unchanged (interfaces_answer region _ id)

/-- A bridge that is created is there. -/
theorem bridge_mem {params : BridgeParams} {bridge : Interface}
    (answers : region.answer (.createBridge x params) = (.ok bridge, after)) :
    params.name ∈ after.inventory.interfaceNames x := by
  change createBridge x params region = (.ok bridge, after) at answers
  rcases createBridge_cases (x := x) params region with ⟨_, replies, -⟩ | ⟨made, same, put⟩
  · rw [answers] at replies
    cases replies
  · rw [answers] at put
    rw [interfaceNames_append put, if_pos rfl, ← same]
    exact List.mem_append_right _ (.head _)

/-- An interface of the machine has a static link with this address. -/
def Inventory.Bears (stock : Inventory) (x : String) (address : Net.Address) : Prop :=
  ∃ iface ∈ stock.interfacesOf x, ∃ link ∈ iface.links, StaticIp.carries address link = true

/-- A static link with the text of an address carries the address. -/
theorem carries_toText {link : Link} {address : Net.Address} (mode : link.mode = .static)
    (text : link.ipAddress = some address.toText) : StaticIp.carries address link = true := by
  simp [StaticIp.carries, mode, text, Net.Address.ofText?_toText]

theorem bears_linkSubnet (interfaceId : UInt64) {params : LinkParams} {address : Net.Address}
    {linked : Interface} (mode : params.mode = .static) (text : params.ipAddress = some address.toText)
    (answers : region.answer (.linkSubnet x interfaceId params) = (.ok linked, after)) :
    after.inventory.Bears x address := by
  change linkSubnet x interfaceId params region = (.ok linked, after) at answers
  rcases linkSubnet_cases (x := x) interfaceId params region with
    ⟨error, replies, -⟩ | ⟨iface, link, -, mem, linkMode, linkText, relinks⟩
  · rw [answers] at replies
    cases replies
  · rw [answers] at relinks
    exact ⟨iface, relinks.mem, link, mem, carries_toText (linkMode.trans mode) (linkText.trans text)⟩

theorem bears_bindBootInterface {params : LinkParams} {address : Net.Address} {linked : Interface}
    (mode : params.mode = .static) (text : params.ipAddress = some address.toText)
    (answers : region.answer (.bindBootInterface x params) = (.ok linked, after)) :
    after.inventory.Bears x address := by
  change bindBootInterface x params region = (.ok linked, after) at answers
  unfold bindBootInterface at answers
  split at answers
  · cases answers
  · next bootId _ => exact bears_linkSubnet bootId mode text answers

/-- What is bound on a listed interface is bound on the machine. -/
theorem bears_of_isBound {ip : StaticIp.Declaration} (listed : iface ∈ stock.interfacesOf x)
    (bound : StaticIp.isBound iface ip = true) : stock.Bears x ip.address := by
  unfold StaticIp.isBound at bound
  obtain ⟨link, mem, carried⟩ := List.any_eq_true.mp bound
  simp only [Bool.and_eq_true] at carried
  exact ⟨iface, listed, link, (List.mem_filter.mp mem).1, carried.1⟩

end MachineProvisioning.Region
