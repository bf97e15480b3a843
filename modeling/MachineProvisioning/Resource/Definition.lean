import MachineProvisioning.Resource.Codec

/-! # The definition of the resource

How the cluster is told about declared machines: names, scope, columns, and the shapes of spec and
status. A field is required in a shape when its decoder requires it.
-/

namespace MachineProvisioning.Resource

/-- The shape of a value. -/
inductive Shape where
  | string
  | integer
  | boolean
  | array (items : Shape)
  | object (fields : List (String × Bool × Shape))

namespace Shape

/-- A field that has to be there. -/
def required (name : String) (shape : Shape) : String × Bool × Shape := (name, true, shape)

/-- A field that may be missing. -/
def optional (name : String) (shape : Shape) : String × Bool × Shape := (name, false, shape)

def texts : Shape := .array .string

mutual
def toJson : Shape → Json
  | .string => .obj [("type", .str "string")]
  | .integer => .obj [("type", .str "integer")]
  | .boolean => .obj [("type", .str "boolean")]
  | .array items => .obj [("type", .str "array"), ("items", items.toJson)]
  | .object fields =>
      let names := (fields.filter (·.2.1)).map (·.1)
      .obj ([("type", .str "object"), ("properties", .obj (fieldsToJson fields))] ++
        Json.nonEmpty "required" .str (names.mergeSort (· ≤ ·)))

def fieldsToJson : List (String × Bool × Shape) → List (String × Json)
  | [] => []
  | (name, _, shape) :: rest => (name, shape.toJson) :: fieldsToJson rest
end

end Shape

open Shape (required optional texts)

def StaticIpSpec.shape : Shape :=
  .object [required "address" .string, required "gateway" .string, required "subnet" .string,
    optional "dnsServers" texts, optional "interface" .string]

def BridgeSpec.shape : Shape :=
  .object [required "name" .string, optional "stp" .boolean, optional "forwardDelay" .integer]

def VirtualizedSpec.shape : Shape :=
  .object [optional "storageGib" .integer, optional "networks" texts, optional "vmHost" .string]

def Spec.shape : Shape :=
  .object [required "minCpu" .integer, required "minMemoryMib" .integer, optional "image" .string,
    optional "failureDomain" .string, optional "resourcePool" .string, optional "tags" texts,
    optional "provisioningMode" .string, optional "hostname" .string, optional "userData" .string,
    optional "staticIp" StaticIpSpec.shape, optional "bridge" BridgeSpec.shape,
    optional "virtualized" VirtualizedSpec.shape]

def Condition.shape : Shape :=
  .object [required "type" .string, required "status" .string, optional "reason" .string,
    optional "message" .string, optional "lastTransitionTime" .string]

def Status.shape : Shape :=
  .object [optional "instanceId" .string, optional "providerId" .string,
    optional "failureDomain" .string, optional "hostname" .string, optional "machineState" .string,
    optional "powerState" .string, optional "addresses" texts, optional "running" .boolean,
    optional "operational" .boolean, optional "knownState" .boolean, optional "ready" .boolean,
    optional "phase" .string, optional "conditions" (.array Condition.shape),
    optional "error" .string, optional "lastReconciled" .string]

/-- A column in listings. -/
structure Column where
  name : String
  kind : String
  path : String
  deriving Repr, DecidableEq

/-- What the cluster is told about a resource. -/
structure Definition where
  group : String
  version : String
  kind : String
  plural : String
  singular : String
  shortNames : List String
  scope : String
  served : Bool
  storage : Bool
  columns : List Column
  /-- The status is written apart from the rest. -/
  hasStatus : Bool
  spec : Shape
  status : Shape

def Definition.name (d : Definition) : String := d.plural ++ "." ++ d.group

def Column.toJson (column : Column) : Json :=
  .obj [("name", .str column.name), ("type", .str column.kind), ("jsonPath", .str column.path)]

def Definition.toJson (d : Definition) : Json :=
  .obj [("name", .str d.name), ("group", .str d.group), ("scope", .str d.scope),
    ("plural", .str d.plural), ("singular", .str d.singular), ("kind", .str d.kind),
    ("short_names", Json.texts d.shortNames), ("version", .str d.version),
    ("served", .bool d.served), ("storage", .bool d.storage),
    ("columns", .arr (d.columns.map Column.toJson)),
    ("has_status_subresource", .bool d.hasStatus), ("spec", d.spec.toJson),
    ("status", d.status.toJson)]

/-- The definition of declared machines. -/
def definition : Definition :=
  { group, version, kind, plural
    singular := "maasmachine"
    shortNames := ["mm"]
    scope := "Namespaced"
    served := true
    storage := true
    columns :=
      [⟨"Phase", "string", ".status.phase"⟩, ⟨"Instance", "string", ".status.instanceId"⟩,
        ⟨"State", "string", ".status.machineState"⟩, ⟨"Ready", "boolean", ".status.ready"⟩]
    hasStatus := true
    spec := Spec.shape
    status := Status.shape }

end MachineProvisioning.Resource
