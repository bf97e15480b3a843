import MachineProvisioning.Proofs.Json.Decoding
import MachineProvisioning.Proofs.Resource.Codec

/-! # Declared machines that are decoded again

A field is left out when a decoder takes its absence for what it was: a value that is absent, or a list
that is empty.
-/

namespace MachineProvisioning.Resource

open Json

theorem restores_instant {t : Instant} (legible : t.IsLegible) : Restores instant? (ofInstant t) t := by
  intro j form
  rw [form.str]
  exact legible.ofText?_toText

@[simp] theorem isPlain_ofInstant (t : Instant) : (ofInstant t).IsPlain := .str _

namespace Mode

@[simp] theorem isPlain_toJson (mode : Mode) : mode.toJson.IsPlain := .str _

theorem restores_toJson (mode : Mode) : Restores ofJson? mode.toJson mode := by
  cases mode <;> exact restores_oneOf rfl

end Mode

namespace Phase

@[simp] theorem isPlain_toJson (phase : Phase) : phase.toJson.IsPlain := .str _

/-- Of the two names of a phase the one that is written is among those that are read. -/
theorem restores_toJson (phase : Phase) : Restores ofJson? phase.toJson phase := by
  cases phase <;> exact restores_oneOf rfl

end Phase

namespace StaticIpSpec

/-- The fields of an encoded declaration, with those that may be left out. -/
def entries (spec : StaticIpSpec) : List (String × Option Json) :=
  [("address", some (.str spec.address)), ("gateway", some (.str spec.gateway)),
    ("subnet", some (.str spec.subnet)), ("dnsServers", unlessEmpty .str spec.dnsServers),
    ("interface", spec.interface.map .str)]

theorem toJson_eq (spec : StaticIpSpec) : spec.toJson = .obj (given spec.entries) := by
  simp [toJson, entries, given_nil, given_present, given_some, given_nonEmpty]

@[simp] theorem isPlain_toJson (spec : StaticIpSpec) : spec.toJson.IsPlain := by
  rw [toJson_eq, isPlain_given]
  simp [entries]

theorem restores_toJson (spec : StaticIpSpec) : Restores ofJson? spec.toJson spec := by
  rw [toJson_eq]
  refine restores_given (by simp [entries]) fun r holds => ?_
  rw [r.required_eq (holds "address" (by decide)) (restores_text spec.address),
    r.required_eq (holds "gateway" (by decide)) (restores_text spec.gateway),
    r.required_eq (holds "subnet" (by decide)) (restores_text spec.subnet),
    r.texts_of_nonEmpty (holds "dnsServers" (by decide)),
    r.text_of_map (holds "interface" (by decide))]
  rfl

end StaticIpSpec

namespace BridgeSpec

@[simp] theorem isPlain_toJson (spec : BridgeSpec) : spec.toJson.IsPlain := by simp [toJson]

theorem restores_toJson (spec : BridgeSpec) : Restores ofJson? spec.toJson spec := by
  refine restores_record (by simp) fun r holds => ?_
  rw [r.required_eq (holds "name" (by decide)) (restores_text spec.name),
    r.defaulted_eq (holds "stp" (by decide)) (restores_bool spec.stp),
    r.defaulted_eq (holds "forwardDelay" (by decide)) (restores_word32 spec.forwardDelay)]
  rfl

end BridgeSpec

namespace VirtualizedSpec

def entries (spec : VirtualizedSpec) : List (String × Option Json) :=
  [("storageGib", spec.storageGib.map ofWord32),
    ("networks", unlessEmpty .str spec.networks),
    ("vmHost", spec.vmHost.map .str)]

theorem toJson_eq (spec : VirtualizedSpec) : spec.toJson = .obj (given spec.entries) := by
  simp [toJson, entries, given_nil, given_present, given_nonEmpty]

@[simp] theorem isPlain_toJson (spec : VirtualizedSpec) : spec.toJson.IsPlain := by
  rw [toJson_eq, isPlain_given]
  simp [entries]

theorem restores_toJson (spec : VirtualizedSpec) : Restores ofJson? spec.toJson spec := by
  rw [toJson_eq]
  refine restores_given (by simp [entries]) fun r holds => ?_
  rw [r.optional_of_map (holds "storageGib" (by decide)) fun size _ =>
      ⟨nofun, restores_word32 size⟩,
    r.texts_of_nonEmpty (holds "networks" (by decide)),
    r.text_of_map (holds "vmHost" (by decide))]
  rfl

end VirtualizedSpec

namespace Spec

def entries (spec : Spec) : List (String × Option Json) :=
  [("minCpu", some (ofWord32 spec.minCpu)),
    ("minMemoryMib", some (ofWord64 spec.minMemoryMib)),
    ("image", spec.image.map .str),
    ("failureDomain", spec.failureDomain.map .str),
    ("resourcePool", spec.resourcePool.map .str),
    ("tags", unlessEmpty .str spec.tags),
    ("provisioningMode", some spec.mode.toJson),
    ("hostname", spec.hostname.map .str),
    ("userData", spec.userData.map .str),
    ("staticIp", spec.staticIp.map StaticIpSpec.toJson),
    ("bridge", spec.bridge.map BridgeSpec.toJson),
    ("virtualized", spec.virtualized.map VirtualizedSpec.toJson)]

theorem toJson_eq (spec : Spec) : spec.toJson = .obj (given spec.entries) := by
  simp [toJson, entries, given_nil, given_present, given_some, given_nonEmpty]

@[simp] theorem isPlain_toJson (spec : Spec) : spec.toJson.IsPlain := by
  rw [toJson_eq, isPlain_given]
  simp [entries]

theorem restores_toJson (spec : Spec) : Restores ofJson? spec.toJson spec := by
  rw [toJson_eq]
  refine restores_given (by simp [entries]) fun r holds => ?_
  rw [r.required_eq (holds "minCpu" (by decide)) (restores_word32 spec.minCpu),
    r.required_eq (holds "minMemoryMib" (by decide)) (restores_word64 spec.minMemoryMib),
    r.text_of_map (holds "image" (by decide)),
    r.text_of_map (holds "failureDomain" (by decide)),
    r.text_of_map (holds "resourcePool" (by decide)),
    r.texts_of_nonEmpty (holds "tags" (by decide)),
    r.defaulted_eq (holds "provisioningMode" (by decide)) (spec.mode.restores_toJson),
    r.text_of_map (holds "hostname" (by decide)),
    r.text_of_map (holds "userData" (by decide)),
    r.optional_of_map (holds "staticIp" (by decide)) fun ip _ => ⟨nofun, ip.restores_toJson⟩,
    r.optional_of_map (holds "bridge" (by decide)) fun bridge _ => ⟨nofun, bridge.restores_toJson⟩,
    r.optional_of_map (holds "virtualized" (by decide)) fun shape _ =>
      ⟨nofun, shape.restores_toJson⟩]
  rfl

end Spec

namespace Condition

def entries (condition : Condition) : List (String × Option Json) :=
  [("type", some (.str condition.kind)),
    ("status", some (.str condition.status)),
    ("reason", condition.reason.map .str),
    ("message", condition.message.map .str),
    ("lastTransitionTime", condition.lastTransitionTime.map ofInstant)]

theorem toJson_eq (condition : Condition) : condition.toJson = .obj (given condition.entries) := by
  simp [toJson, entries, given_nil, given_present, given_some]

@[simp] theorem isPlain_toJson (condition : Condition) : condition.toJson.IsPlain := by
  rw [toJson_eq, isPlain_given]
  simp [entries]

theorem restores_toJson (condition : Condition)
    (legible : ∀ t ∈ condition.timestamps, t.IsLegible) :
    Restores ofJson? condition.toJson condition := by
  rw [toJson_eq]
  refine restores_given (by simp [entries]) fun r holds => ?_
  rw [r.required_eq (holds "type" (by decide)) (restores_text condition.kind),
    r.required_eq (holds "status" (by decide)) (restores_text condition.status),
    r.text_of_map (holds "reason" (by decide)),
    r.text_of_map (holds "message" (by decide)),
    r.optional_of_map (holds "lastTransitionTime" (by decide)) fun t mem =>
      ⟨nofun, restores_instant (legible t (Option.mem_toList.mpr mem))⟩]
  rfl

end Condition

namespace Status

def entries (status : Status) : List (String × Option Json) :=
  [("instanceId", status.instanceId.map .str),
    ("providerId", status.providerId.map .str),
    ("failureDomain", status.failureDomain.map .str),
    ("hostname", status.hostname.map .str),
    ("machineState", status.machineState.map .str),
    ("powerState", status.powerState.map .str),
    ("addresses", unlessEmpty .str status.addresses),
    ("running", some (.bool status.running)),
    ("operational", some (.bool status.operational)),
    ("knownState", some (.bool status.knownState)),
    ("ready", some (.bool status.ready)),
    ("phase", some status.phase.toJson),
    ("conditions", unlessEmpty Condition.toJson status.conditions),
    ("error", status.error.map .str),
    ("lastReconciled", status.lastReconciled.map ofInstant)]

theorem toFields_eq (status : Status) : status.toFields = given status.entries := by
  simp [toFields, entries, given_nil, given_present, given_some, given_nonEmpty]

theorem toJson_eq (status : Status) : status.toJson = .obj (given status.entries) := by
  rw [toJson, toFields_eq]

/-- No field is written that is not read, and none is written twice. -/
theorem keys_toFields (status : Status) : (status.toFields.map Prod.fst).Sublist fieldNames := by
  rw [toFields_eq]
  exact keys_given status.entries

@[simp] theorem isPlain_toJson (status : Status) : status.toJson.IsPlain := by
  rw [toJson_eq, isPlain_given]
  simp [entries]

theorem restores_toJson (status : Status) (legible : ∀ t ∈ status.timestamps, t.IsLegible) :
    Restores ofJson? status.toJson status := by
  have conditions : ∀ condition ∈ status.conditions,
      Restores Condition.ofJson? condition.toJson condition := fun condition listed =>
    condition.restores_toJson fun t mem =>
      legible t (List.mem_append_left _ (List.mem_flatMap.mpr ⟨condition, listed, mem⟩))
  have last : ∀ t ∈ status.lastReconciled, Restores instant? (ofInstant t) t := fun t mem =>
    restores_instant (legible t (List.mem_append_right _ (Option.mem_toList.mpr mem)))
  rw [toJson_eq]
  refine restores_given (by simp [entries]) fun r holds => ?_
  rw [r.text_of_map (holds "instanceId" (by decide)),
    r.text_of_map (holds "providerId" (by decide)),
    r.text_of_map (holds "failureDomain" (by decide)),
    r.text_of_map (holds "hostname" (by decide)),
    r.text_of_map (holds "machineState" (by decide)),
    r.text_of_map (holds "powerState" (by decide)),
    r.texts_of_nonEmpty (holds "addresses" (by decide)),
    r.defaulted_eq (holds "running" (by decide)) (restores_bool status.running),
    r.defaulted_eq (holds "operational" (by decide)) (restores_bool status.operational),
    r.defaulted_eq (holds "knownState" (by decide)) (restores_bool status.knownState),
    r.defaulted_eq (holds "ready" (by decide)) (restores_bool status.ready),
    r.defaulted_eq (holds "phase" (by decide)) (status.phase.restores_toJson),
    r.list_of_nonEmpty (holds "conditions" (by decide)) conditions,
    r.text_of_map (holds "error" (by decide)),
    r.optional_of_map (holds "lastReconciled" (by decide)) fun t mem => ⟨nofun, last t mem⟩]
  rfl

end Status

end MachineProvisioning.Resource
