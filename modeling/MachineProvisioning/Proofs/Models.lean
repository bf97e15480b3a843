import MachineProvisioning.Proofs.Maas.Codec
import MachineProvisioning.Proofs.Resource.Restoring

/-! # Models as text

What is declared of a machine and what MAAS reports is exchanged as JSON text. A value is written with
its fields as they are declared or with increasing keys, and is read back from both texts.
-/

namespace MachineProvisioning

open Json (Restores)

/-- How values of a type are exchanged. -/
structure Codec (α : Type) where
  toJson : α → Json
  ofJson? : Json → Option α
  /-- The timestamps that a value has. -/
  timestamps : α → List Instant := fun _ => []

namespace Codec

variable {α : Type} {codec : Codec α} {x : α}

/-- The texts of a value: with its fields as they are declared, and with increasing keys. -/
def texts (codec : Codec α) (x : α) : List String :=
  [String.ofList (codec.toJson x).write, (codec.toJson x).compact]

def read? (codec : Codec α) (text : String) : Option α :=
  (Json.read? text).bind codec.ofJson?

/-- The decoder restores what the encoder writes, as long as its timestamps can be read, and it
accepts no others. -/
structure IsFaithful (codec : Codec α) : Prop where
  plain : ∀ x, (codec.toJson x).IsPlain
  restores : ∀ x, (∀ t ∈ codec.timestamps x, t.IsLegible) →
    Restores codec.ofJson? (codec.toJson x) x
  legible : ∀ j x, codec.ofJson? j = some x → ∀ t ∈ codec.timestamps x, t.IsLegible

theorem isFaithful_of_dateless {toJson : α → Json} {ofJson? : Json → Option α}
    (plain : ∀ x, (toJson x).IsPlain) (restores : ∀ x, Restores ofJson? (toJson x) x) :
    IsFaithful { toJson, ofJson? } :=
  ⟨plain, fun x _ => restores x, fun _ _ _ _ => nofun⟩

theorem IsFaithful.read?_of_mem_texts (faithful : codec.IsFaithful)
    (legible : ∀ t ∈ codec.timestamps x, t.IsLegible) {text : String} (mem : text ∈ codec.texts x) :
    codec.read? text = some x := by
  have restores := faithful.restores x legible
  have plain := faithful.plain x
  simp only [texts, List.mem_cons, List.not_mem_nil, or_false] at mem
  rcases mem with rfl | rfl
  · rw [read?, Json.read?_write plain]
    exact restores _ .asWritten
  · rw [read?, Json.read?_compact plain]
    exact restores _ .inOrder

theorem IsFaithful.isLegible_of_read? (faithful : codec.IsFaithful) {text : String}
    (reads : codec.read? text = some x) : ∀ t ∈ codec.timestamps x, t.IsLegible := by
  obtain ⟨j, -, decodes⟩ := Option.bind_eq_some_iff.mp reads
  exact faithful.legible j x decodes

end Codec

/-- The kinds of values that are exchanged. -/
inductive Model where
  | spec
  | status
  | staticIp
  | bridge
  | virtualized
  | condition
  | phase
  | mode
  | machine
  | vmHost
  | hostCapacity
  | interface
  | link
  | linkMode
  | subnet
  | vlan
  | ipAllocation
  | addressHolder
  | tag
  | composedVm
  | namedRef
  deriving Repr, DecidableEq

namespace Model

def Value : Model → Type
  | spec => Resource.Spec
  | status => Resource.Status
  | staticIp => Resource.StaticIpSpec
  | bridge => Resource.BridgeSpec
  | virtualized => Resource.VirtualizedSpec
  | condition => Resource.Condition
  | phase => Resource.Phase
  | mode => Resource.Mode
  | machine => Maas.Machine
  | vmHost => Maas.VmHost
  | hostCapacity => Maas.HostCapacity
  | interface => Maas.Interface
  | link => Maas.Link
  | linkMode => Maas.LinkMode
  | subnet => Maas.Subnet
  | vlan => Maas.Vlan
  | ipAllocation => Maas.IpAllocation
  | addressHolder => Maas.AddressHolder
  | tag => Maas.Tag
  | composedVm => Maas.ComposedVm
  | namedRef => Maas.NamedRef

def codec : (model : Model) → Codec model.Value
  | spec => { toJson := Resource.Spec.toJson, ofJson? := Resource.Spec.ofJson? }
  | status =>
      { toJson := Resource.Status.toJson
        ofJson? := Resource.Status.ofJson?
        timestamps := Resource.Status.timestamps }
  | staticIp => { toJson := Resource.StaticIpSpec.toJson, ofJson? := Resource.StaticIpSpec.ofJson? }
  | bridge => { toJson := Resource.BridgeSpec.toJson, ofJson? := Resource.BridgeSpec.ofJson? }
  | virtualized =>
      { toJson := Resource.VirtualizedSpec.toJson, ofJson? := Resource.VirtualizedSpec.ofJson? }
  | condition =>
      { toJson := Resource.Condition.toJson
        ofJson? := Resource.Condition.ofJson?
        timestamps := Resource.Condition.timestamps }
  | phase => { toJson := Resource.Phase.toJson, ofJson? := Resource.Phase.ofJson? }
  | mode => { toJson := Resource.Mode.toJson, ofJson? := Resource.Mode.ofJson? }
  | machine => { toJson := Maas.Machine.toJson, ofJson? := Maas.Machine.ofJson? }
  | vmHost => { toJson := Maas.VmHost.toJson, ofJson? := Maas.VmHost.ofJson? }
  | hostCapacity => { toJson := Maas.HostCapacity.toJson, ofJson? := Maas.HostCapacity.ofJson? }
  | interface => { toJson := Maas.Interface.toJson, ofJson? := Maas.Interface.ofJson? }
  | link => { toJson := Maas.Link.toJson, ofJson? := Maas.Link.ofJson? }
  | linkMode => { toJson := Maas.LinkMode.toJson, ofJson? := Maas.LinkMode.ofJson? }
  | subnet => { toJson := Maas.Subnet.toJson, ofJson? := Maas.Subnet.ofJson? }
  | vlan => { toJson := Maas.Vlan.toJson, ofJson? := Maas.Vlan.ofJson? }
  | ipAllocation => { toJson := Maas.IpAllocation.toJson, ofJson? := Maas.IpAllocation.ofJson? }
  | addressHolder => { toJson := Maas.AddressHolder.toJson, ofJson? := Maas.AddressHolder.ofJson? }
  | tag => { toJson := Maas.Tag.toJson, ofJson? := Maas.Tag.ofJson? }
  | composedVm => { toJson := Maas.ComposedVm.toJson, ofJson? := Maas.ComposedVm.ofJson? }
  | namedRef => { toJson := Maas.NamedRef.toJson, ofJson? := Maas.NamedRef.ofJson? }

open Codec (isFaithful_of_dateless) in
theorem isFaithful (model : Model) : model.codec.IsFaithful := by
  cases model with
  | status =>
      refine ⟨Resource.Status.isPlain_toJson, Resource.Status.restores_toJson, fun j x reads => ?_⟩
      obtain ⟨r, -, fields⟩ := Resource.Status.exists_readFrom_of_ofJson? reads
      exact fields.isLegible
  | condition =>
      exact ⟨Resource.Condition.isPlain_toJson, Resource.Condition.restores_toJson,
        fun _ _ => Resource.Condition.isLegible_of_ofJson?⟩
  | spec => exact isFaithful_of_dateless Resource.Spec.isPlain_toJson Resource.Spec.restores_toJson
  | staticIp =>
      exact isFaithful_of_dateless Resource.StaticIpSpec.isPlain_toJson
        Resource.StaticIpSpec.restores_toJson
  | bridge =>
      exact isFaithful_of_dateless Resource.BridgeSpec.isPlain_toJson Resource.BridgeSpec.restores_toJson
  | virtualized =>
      exact isFaithful_of_dateless Resource.VirtualizedSpec.isPlain_toJson
        Resource.VirtualizedSpec.restores_toJson
  | phase => exact isFaithful_of_dateless Resource.Phase.isPlain_toJson Resource.Phase.restores_toJson
  | mode => exact isFaithful_of_dateless Resource.Mode.isPlain_toJson Resource.Mode.restores_toJson
  | machine => exact isFaithful_of_dateless Maas.Machine.isPlain_toJson Maas.Machine.restores_toJson
  | vmHost => exact isFaithful_of_dateless Maas.VmHost.isPlain_toJson Maas.VmHost.restores_toJson
  | hostCapacity =>
      exact isFaithful_of_dateless Maas.HostCapacity.isPlain_toJson Maas.HostCapacity.restores_toJson
  | interface => exact isFaithful_of_dateless Maas.Interface.isPlain_toJson Maas.Interface.restores_toJson
  | link => exact isFaithful_of_dateless Maas.Link.isPlain_toJson Maas.Link.restores_toJson
  | linkMode => exact isFaithful_of_dateless Maas.LinkMode.isPlain_toJson Maas.LinkMode.restores_toJson
  | subnet => exact isFaithful_of_dateless Maas.Subnet.isPlain_toJson Maas.Subnet.restores_toJson
  | vlan => exact isFaithful_of_dateless Maas.Vlan.isPlain_toJson Maas.Vlan.restores_toJson
  | ipAllocation =>
      exact isFaithful_of_dateless Maas.IpAllocation.isPlain_toJson Maas.IpAllocation.restores_toJson
  | addressHolder =>
      exact isFaithful_of_dateless Maas.AddressHolder.isPlain_toJson Maas.AddressHolder.restores_toJson
  | tag => exact isFaithful_of_dateless Maas.Tag.isPlain_toJson Maas.Tag.restores_toJson
  | composedVm => exact isFaithful_of_dateless Maas.ComposedVm.isPlain_toJson Maas.ComposedVm.restores_toJson
  | namedRef => exact isFaithful_of_dateless Maas.NamedRef.isPlain_toJson Maas.NamedRef.restores_toJson

/-- A value whose timestamps can be read is read back from each of its texts. What is read of any text
is such a value, so that it is read back from the texts that are written of it. -/
theorem reads_back_what_is_written (model : Model) (x : model.Value) :
    ((∀ t ∈ model.codec.timestamps x, t.IsLegible) →
      ∀ text ∈ model.codec.texts x, model.codec.read? text = some x) ∧
    ∀ text, model.codec.read? text = some x →
      ∀ again ∈ model.codec.texts x, model.codec.read? again = some x := by
  have faithful := model.isFaithful
  refine ⟨fun legible text mem => ?_, fun text reads again mem => ?_⟩
  · exact faithful.read?_of_mem_texts legible mem
  · exact faithful.read?_of_mem_texts (faithful.isLegible_of_read? reads) mem

/-- A status with the first and the last second of the years of four digits, the last one a leap
second. -/
def spanning : Resource.Status where
  instanceId := some "m1"
  conditions :=
    [{ kind := "Ready", status := "False", lastTransitionTime := some ⟨-62167219200, 1000⟩ }]
  lastReconciled := some ⟨253402300799, 1500000000⟩

theorem reads_back_what_is_written_spanning :
    (∀ t ∈ status.codec.timestamps spanning, t.IsLegible) ∧
    (∀ text ∈ status.codec.texts spanning, status.codec.read? text = some spanning) ∧
    ∃ x, status.codec.read? "\x7b\"phase\":\"failed\",\"conditions\":[],\"note\":[1.5]\x7d" = some x ∧
      ∀ again ∈ status.codec.texts x, status.codec.read? again = some x := by
  have legible : ∀ t ∈ Resource.Status.timestamps spanning, t.IsLegible := by decide
  have reads : (Json.read? "\x7b\"phase\":\"failed\",\"conditions\":[],\"note\":[1.5]\x7d").bind
      Resource.Status.ofJson? = some { phase := .failed } := by decide +kernel
  exact ⟨legible, (reads_back_what_is_written .status spanning).1 legible, _, reads,
    (reads_back_what_is_written .status _).2 _ reads⟩

end Model

end MachineProvisioning
