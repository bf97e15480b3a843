import MachineProvisioning.Json.Document
import MachineProvisioning.Json.Record
import MachineProvisioning.Resource.Model
import MachineProvisioning.Time.Rfc3339

/-! # The declared machine as JSON

An encoder leaves out fields that are absent or, where they may be missing, empty; a decoder reads
back what the encoder writes.
-/

namespace MachineProvisioning.Resource

open Json

def instant? : Json → Option Instant
  | .str s => Instant.ofText? s
  | _ => none

def ofInstant (t : Instant) : Json := .str t.toText

namespace Mode

def names : List (String × Mode) := [("bare-metal", .bareMetal), ("virtualized", .virtualized)]

def ofJson? : Json → Option Mode := oneOf? names

def toJson (mode : Mode) : Json := .str mode.name

end Mode

namespace Phase

/-- The names of the phases, of which each may start with a small letter. -/
def names : List (String × Phase) :=
  [("Pending", .pending), ("pending", .pending), ("Allocated", .allocated),
    ("allocated", .allocated), ("Commissioning", .commissioning),
    ("commissioning", .commissioning), ("Deploying", .deploying), ("deploying", .deploying),
    ("Deployed", .deployed), ("deployed", .deployed), ("Releasing", .releasing),
    ("releasing", .releasing), ("Failed", .failed), ("failed", .failed)]

def ofJson? : Json → Option Phase := oneOf? names

def toJson (phase : Phase) : Json := .str phase.name

end Phase

namespace StaticIpSpec

/-- Address, gateway and subnet are required. -/
def ofJson? (j : Json) : Option StaticIpSpec := do
  let r ← Record.open? ["address", "gateway", "subnet", "dnsServers", "interface"] j
  some {
    address := ← r.required "address" text?
    gateway := ← r.required "gateway" text?
    subnet := ← r.required "subnet" text?
    dnsServers := ← r.defaulted "dnsServers" [] (list? text?)
    interface := ← r.optional "interface" text? }

def toJson (spec : StaticIpSpec) : Json :=
  .obj ([("address", .str spec.address), ("gateway", .str spec.gateway),
      ("subnet", .str spec.subnet)] ++
    nonEmpty "dnsServers" .str spec.dnsServers ++ present "interface" .str spec.interface)

end StaticIpSpec

namespace BridgeSpec

/-- The name is required; the forward delay is 15 seconds unless given. -/
def ofJson? (j : Json) : Option BridgeSpec := do
  let r ← Record.open? ["name", "stp", "forwardDelay"] j
  some {
    name := ← r.required "name" text?
    stp := ← r.defaulted "stp" false bool?
    forwardDelay := ← r.defaulted "forwardDelay" 15 word32? }

def toJson (spec : BridgeSpec) : Json :=
  .obj [("name", .str spec.name), ("stp", .bool spec.stp),
    ("forwardDelay", ofWord32 spec.forwardDelay)]

end BridgeSpec

namespace VirtualizedSpec

/-- No field is required. -/
def ofJson? (j : Json) : Option VirtualizedSpec := do
  let r ← Record.open? ["storageGib", "networks", "vmHost"] j
  some {
    storageGib := ← r.optional "storageGib" word32?
    networks := ← r.defaulted "networks" [] (list? text?)
    vmHost := ← r.optional "vmHost" text? }

def toJson (spec : VirtualizedSpec) : Json :=
  .obj (present "storageGib" ofWord32 spec.storageGib ++ nonEmpty "networks" .str spec.networks ++
    present "vmHost" .str spec.vmHost)

end VirtualizedSpec

namespace Spec

/-- The fields of a spec, in the order in which an array lists them. -/
def fieldNames : List String :=
  ["minCpu", "minMemoryMib", "image", "failureDomain", "resourcePool", "tags", "provisioningMode",
    "hostname", "userData", "staticIp", "bridge", "virtualized"]

/-- Cores and memory are required. -/
def ofJson? (j : Json) : Option Spec := do
  let r ← Record.open? fieldNames j
  some {
    minCpu := ← r.required "minCpu" word32?
    minMemoryMib := ← r.required "minMemoryMib" word64?
    image := ← r.optional "image" text?
    failureDomain := ← r.optional "failureDomain" text?
    resourcePool := ← r.optional "resourcePool" text?
    tags := ← r.defaulted "tags" [] (list? text?)
    mode := ← r.defaulted "provisioningMode" .bareMetal Mode.ofJson?
    hostname := ← r.optional "hostname" text?
    userData := ← r.optional "userData" text?
    staticIp := ← r.optional "staticIp" StaticIpSpec.ofJson?
    bridge := ← r.optional "bridge" BridgeSpec.ofJson?
    virtualized := ← r.optional "virtualized" VirtualizedSpec.ofJson? }

def toJson (spec : Spec) : Json :=
  .obj ([("minCpu", ofWord32 spec.minCpu), ("minMemoryMib", ofWord64 spec.minMemoryMib)] ++
    present "image" .str spec.image ++ present "failureDomain" .str spec.failureDomain ++
    present "resourcePool" .str spec.resourcePool ++ nonEmpty "tags" .str spec.tags ++
    [("provisioningMode", spec.mode.toJson)] ++ present "hostname" .str spec.hostname ++
    present "userData" .str spec.userData ++ present "staticIp" StaticIpSpec.toJson spec.staticIp ++
    present "bridge" BridgeSpec.toJson spec.bridge ++
    present "virtualized" VirtualizedSpec.toJson spec.virtualized)

end Spec

namespace Condition

/-- The type and the status are required. -/
def ofJson? (j : Json) : Option Condition := do
  let r ← Record.open? ["type", "status", "reason", "message", "lastTransitionTime"] j
  some {
    kind := ← r.required "type" text?
    status := ← r.required "status" text?
    reason := ← r.optional "reason" text?
    message := ← r.optional "message" text?
    lastTransitionTime := ← r.optional "lastTransitionTime" instant? }

def toJson (condition : Condition) : Json :=
  .obj ([("type", .str condition.kind), ("status", .str condition.status)] ++
    present "reason" .str condition.reason ++ present "message" .str condition.message ++
    present "lastTransitionTime" ofInstant condition.lastTransitionTime)

end Condition

namespace Status

/-- The fields of a status, in the order in which an array lists them. -/
def fieldNames : List String :=
  ["instanceId", "providerId", "failureDomain", "hostname", "machineState", "powerState",
    "addresses", "running", "operational", "knownState", "ready", "phase", "conditions", "error",
    "lastReconciled"]

/-- No field is required. -/
def ofJson? (j : Json) : Option Status := do
  let r ← Record.open? fieldNames j
  some {
    instanceId := ← r.optional "instanceId" text?
    providerId := ← r.optional "providerId" text?
    failureDomain := ← r.optional "failureDomain" text?
    hostname := ← r.optional "hostname" text?
    machineState := ← r.optional "machineState" text?
    powerState := ← r.optional "powerState" text?
    addresses := ← r.defaulted "addresses" [] (list? text?)
    running := ← r.defaulted "running" false bool?
    operational := ← r.defaulted "operational" false bool?
    knownState := ← r.defaulted "knownState" false bool?
    ready := ← r.defaulted "ready" false bool?
    phase := ← r.defaulted "phase" .pending Phase.ofJson?
    conditions := ← r.defaulted "conditions" [] (list? Condition.ofJson?)
    error := ← r.optional "error" text?
    lastReconciled := ← r.optional "lastReconciled" instant? }

/-- The fields that an encoded status has. -/
def toFields (status : Status) : List (String × Json) :=
  present "instanceId" .str status.instanceId ++ present "providerId" .str status.providerId ++
    present "failureDomain" .str status.failureDomain ++ present "hostname" .str status.hostname ++
    present "machineState" .str status.machineState ++ present "powerState" .str status.powerState ++
    nonEmpty "addresses" .str status.addresses ++
    [("running", .bool status.running), ("operational", .bool status.operational),
      ("knownState", .bool status.knownState), ("ready", .bool status.ready),
      ("phase", status.phase.toJson)] ++
    nonEmpty "conditions" Condition.toJson status.conditions ++ present "error" .str status.error ++
    present "lastReconciled" ofInstant status.lastReconciled

def toJson (status : Status) : Json := .obj status.toFields

end Status

-- Metadata is a loose record, whose timestamps are written to the second.

/-- A timestamp to the second. -/
def ofSecond (t : Instant) : Json := .str t.toSecondText

/-- An integer that fits a signed 64-bit word. -/
def signed64? : Json → Option Int
  | .int n => if -Int.pow 2 63 ≤ n ∧ n < Int.pow 2 63 then some n else none
  | _ => none

/-- An owner reference, of which texts that are missing are empty. -/
def OwnerReference.ofJson? (j : Json) : Option OwnerReference := do
  let r ← LooseRecord.open? j
  some {
    apiVersion := (← r.last "apiVersion" text?).getD ""
    blockOwnerDeletion := ← r.last "blockOwnerDeletion" bool?
    controller := ← r.last "controller" bool?
    kind := (← r.last "kind" text?).getD ""
    name := (← r.last "name" text?).getD ""
    uid := (← r.last "uid" text?).getD "" }

def OwnerReference.toJson (owner : OwnerReference) : Json :=
  .obj ([("apiVersion", .str owner.apiVersion)] ++
    present "blockOwnerDeletion" .bool owner.blockOwnerDeletion ++
    present "controller" .bool owner.controller ++
    [("kind", .str owner.kind), ("name", .str owner.name), ("uid", .str owner.uid)])

/-- The fields may be of any form. -/
def ManagedFields.ofJson? (j : Json) : Option ManagedFields := do
  let r ← LooseRecord.open? j
  some {
    apiVersion := ← r.last "apiVersion" text?
    fieldsType := ← r.last "fieldsType" text?
    fieldsV1 := ← r.last "fieldsV1" document?
    manager := ← r.last "manager" text?
    operation := ← r.last "operation" text?
    subresource := ← r.last "subresource" text?
    time := ← r.last "time" instant? }

def ManagedFields.toJson (entry : ManagedFields) : Json :=
  .obj (present "apiVersion" .str entry.apiVersion ++ present "fieldsType" .str entry.fieldsType ++
    present "fieldsV1" id entry.fieldsV1 ++ present "manager" .str entry.manager ++
    present "operation" .str entry.operation ++ present "subresource" .str entry.subresource ++
    present "time" ofSecond entry.time)

namespace Metadata

/-- No field is required. -/
def ofJson? (j : Json) : Option Metadata := do
  let r ← LooseRecord.open? j
  some {
    annotations := ← r.last "annotations" (table? text?)
    creationTimestamp := ← r.last "creationTimestamp" instant?
    deletionGracePeriodSeconds := ← r.last "deletionGracePeriodSeconds" signed64?
    deletionTimestamp := ← r.last "deletionTimestamp" instant?
    finalizers := ← r.last "finalizers" (list? text?)
    generateName := ← r.last "generateName" text?
    generation := ← r.last "generation" signed64?
    labels := ← r.last "labels" (table? text?)
    managedFields := ← r.last "managedFields" (list? ManagedFields.ofJson?)
    name := ← r.last "name" text?
    namespace_ := ← r.last "namespace" text?
    ownerReferences := ← r.last "ownerReferences" (list? OwnerReference.ofJson?)
    resourceVersion := ← r.last "resourceVersion" text?
    selfLink := ← r.last "selfLink" text?
    uid := ← r.last "uid" text? }

def ofTable (t : Table String String) : Json :=
  .obj (t.entries.map fun (key, value) => (key, .str value))

def toJson (m : Metadata) : Json :=
  .obj (present "annotations" ofTable m.annotations ++
    present "creationTimestamp" ofSecond m.creationTimestamp ++
    present "deletionGracePeriodSeconds" .int m.deletionGracePeriodSeconds ++
    present "deletionTimestamp" ofSecond m.deletionTimestamp ++
    present "finalizers" texts m.finalizers ++ present "generateName" .str m.generateName ++
    present "generation" .int m.generation ++ present "labels" ofTable m.labels ++
    present "managedFields" (fun entries => .arr (entries.map ManagedFields.toJson))
      m.managedFields ++
    present "name" .str m.name ++ present "namespace" .str m.namespace_ ++
    present "ownerReferences" (fun owners => .arr (owners.map OwnerReference.toJson))
      m.ownerReferences ++
    present "resourceVersion" .str m.resourceVersion ++ present "selfLink" .str m.selfLink ++
    present "uid" .str m.uid)

end Metadata

namespace Object

def toJson (object : Object) : Json :=
  .obj ([("apiVersion", .str (group ++ "/" ++ version)), ("kind", .str kind),
      ("metadata", object.metadata.toJson), ("spec", object.spec.toJson)] ++
    present "status" Status.toJson object.status)

/-- An object that stands inside this many arrays and objects. Metadata and spec are required, and
    whatever the value says of its version and kind, it is read as a declared machine. -/
def ofJsonWithin? (levels : Nat) (j : Json) : Option Object := do
  let r ← Record.open? ["metadata", "spec", "status"] j
  let object : Object := {
    metadata := ← r.required "metadata" Metadata.ofJson?
    spec := ← r.required "spec" Spec.ofJson?
    status := ← r.nullable "status" Status.ofJson? }
  if levels + object.toJson.depth ≤ maxDepth then some object else none

def ofJson? : Json → Option Object := ofJsonWithin? 0

/-- The metadata of a list, of which only the form counts. -/
def listMetadata? (j : Json) : Option Unit := do
  let r ← LooseRecord.open? j
  let _ ← r.last "continue" text?
  let _ ← r.last "remainingItemCount" signed64?
  let _ ← r.last "resourceVersion" text?
  let _ ← r.last "selfLink" text?
  some ()

/-- The declared machines of a list, which is an object. Its metadata may be missing, null items are
    no items, and its other fields may be documents of any form. -/
def listOfJson? : Json → Option (List Object)
  | .obj fields => do
      let known := ["metadata", "items"]
      let r ← Record.open? known (.obj fields)
      let _ ← r.defaulted "metadata" () listMetadata?
      let others := fields.filter fun field => !known.contains field.1
      let _ ← document? (.obj others)
      if maxDepth < fieldsDepth others + 1 then none
      match ← r.get? "items" with
      | .null => some []
      | items => list? (ofJsonWithin? 2) items
  | _ => none

end Object

end MachineProvisioning.Resource
