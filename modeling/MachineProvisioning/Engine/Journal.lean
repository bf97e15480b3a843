import MachineProvisioning.Engine.Reconcile
import MachineProvisioning.Maas.Operation
import MachineProvisioning.Resource.Codec

/-! # Passes as documents

What a pass has seen, recorded, called and decided, for journals.
-/

namespace MachineProvisioning

open Json

def Lifecycle.Instance.toJson (seen : Lifecycle.Instance) : Json :=
  .obj [("system_id", .str seen.systemId), ("hostname", .str seen.hostname),
    ("state", .str seen.state.toText), ("power", .str seen.power.toText),
    ("addresses", texts seen.addresses), ("zone", ofOption .str seen.zone),
    ("vm_host", ofOption .str seen.vmHost)]

def Store.Checkpoint.toJson (checkpoint : Store.Checkpoint) : Json :=
  .obj [("instance_id", .str checkpoint.instanceId), ("provider_id", .str checkpoint.providerId),
    ("failure_domain", ofOption .str checkpoint.failureDomain),
    ("hostname", ofOption .str checkpoint.hostname)]

namespace Store.Call

/-- The arguments of a call, in order. -/
def arguments : Store.Call → List Json
  | .load key => [.str key.toText]
  | .recordInstance key checkpoint => [.str key.toText, checkpoint.toJson]
  | .clearInstance key => [.str key.toText]
  | .annotate key name value => [.str key.toText, .str name, .str value]
  | .publishStatus key status => [.str key.toText, status.toJson]
  | .listStaticIps namespace_ => [.str namespace_]

def toJson (call : Store.Call) : Json := .arr (.str call.name :: call.arguments)

def valueToJson : (call : Store.Call) → call.Value → Json
  | .load _, saved =>
      .obj [("checkpoint", ofOption Store.Checkpoint.toJson saved.checkpoint),
        ("annotations",
          .obj (saved.annotations.entries.map fun (name, value) => (name, .str value))),
        ("status", ofOption Resource.Status.toJson saved.status)]
  | .recordInstance _ _, _ => .null
  | .clearInstance _, _ => .null
  | .annotate _ _ _, _ => .null
  | .publishStatus _ _, _ => .null
  | .listStaticIps _, declared =>
      .arr (declared.map fun (name, address) => texts [name, address])

end Store.Call

namespace Engine

/-- A request as a document, if it is a call. -/
def Effect.toJson? : Effect → Option Json
  | .maas call => some call.toJson
  | .store call => some call.toJson
  | .clock | .count _ => none

def Action.toJson : Action → Json
  | .requeue seconds => .obj [("action", .str "requeue"), ("seconds", .int seconds)]
  | .awaitChange => .obj [("action", .str "await_change")]

end Engine

end MachineProvisioning
