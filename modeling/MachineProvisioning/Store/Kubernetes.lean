import MachineProvisioning.Json.Reader
import MachineProvisioning.Net.Http
import MachineProvisioning.Resource.Codec
import MachineProvisioning.Store.Call
import MachineProvisioning.Store.Conflict
import MachineProvisioning.Text.Quoted

/-! # The store in Kubernetes

What is recorded of a machine stands in its object: the checkpoint and the published fields in its
status, annotations in its metadata. The checkpoint and annotations are written against the version
that was read just before, and again when another writer was faster; a published status is merged
without the identifiers that make up the checkpoint.
-/

namespace MachineProvisioning.Store.Kubernetes

open Http (Response)
open Net (RequestTarget)
open Resource (Key Status Object)

/-- A request to the API server. -/
structure Request where
  method : String
  target : RequestTarget
  body : Http.Body := .empty

/-- A program over requests to the API server, which are always answered. -/
abbrev Exchange : Type → Type := Program Request fun _ => Response

/-- The declared machines of a namespace, or of all. -/
def collectionPath (namespace_ : Option String) : String :=
  let scope := match namespace_ with
    | some name => "/namespaces/" ++ name
    | none => ""
  "/apis/" ++ Resource.group ++ "/" ++ Resource.version ++ scope ++ "/" ++ Resource.plural

def objectPath (key : Key) : String :=
  collectionPath (some key.namespace_) ++ "/" ++ key.name

def statusPath (key : Key) : String := objectPath key ++ "/status"

/-- The target that a text names. Names are not escaped, so that some of them make no target and
    others end the path. -/
def targetOf (text : String) : Except KubeError RequestTarget :=
  (RequestTarget.ofText text).mapError .unaddressable

/-- Where the machines of a namespace, or of all, are listed. No options follow the question mark. -/
def listTarget (namespace_ : Option String) : Except KubeError RequestTarget :=
  targetOf (collectionPath namespace_ ++ "?")

/-- Where a machine is read. -/
def readTarget (key : Key) : Except KubeError RequestTarget :=
  if key.name.isEmpty then .error .unnamed else targetOf (objectPath key)

/-- Where a machine, or its status, is changed. No options follow the question mark. -/
def changeTarget (key : Key) (path : String) : Except KubeError RequestTarget :=
  if key.name.isEmpty then .error .unnamed else targetOf (path ++ "?")

/-- The refusal that a body describes, or else one that quotes the body. -/
def refusalOf (status : Nat) (body : String) : KubeError :=
  let described : Option KubeError := do
    let j ← Json.read? body
    let r ← Json.Record.open? ["status", "message", "reason", "code"] j
    some (.refused (← r.required "status" Json.text?) (← r.defaulted "message" "" Json.text?)
      (← r.defaulted "reason" "" Json.text?) (← r.required "code" Json.word16?))
  described.getD
    (.refused (Text.decimal status) (Text.quoted body) "Failed to parse error data"
      (UInt16.ofNat status))

/-- What an answer stands for. -/
def decode {α : Type} (ofJson? : Json → Option α) (response : Response) : Except KubeError α :=
  if Http.isErrorStatus response.status then .error (refusalOf response.status response.body)
  else
    match (Json.read? response.body).bind ofJson? with
    | some value => .ok value
    | none => .error .undecodable

/-- Send a request, if it has a target, and read its answer. -/
def exchange {α : Type} (ofJson? : Json → Option α) (method : String)
    (target : Except KubeError RequestTarget) (body : Http.Body) : Exchange (Except KubeError α) :=
  match target with
  | .error error => pure (.error error)
  | .ok target => decode ofJson? <$> Program.request { method, target, body }

def fetch (key : Key) : Exchange (Except KubeError Object) :=
  exchange Object.ofJson? "GET" (readTarget key) .empty

/-- Merge a document into an object at this path. -/
def merge (key : Key) (path : String) (patch : Json) : Exchange (Except KubeError Object) :=
  exchange Object.ofJson? "PATCH" (changeTarget key path)
    (.json "application/merge-patch+json" patch)

/-- How often a conflicting write is tried. -/
def attempts : Nat := 5

/-- Read the object and merge a patch that is made for its version. -/
def patchOnce (key : Key) (path : String) (patch : Json → Json) :
    Exchange (Except KubeError Object) := do
  match ← fetch key with
  | .error error => pure (.error error)
  | .ok live =>
      merge key path (patch (Json.ofOption .str live.metadata.resourceVersion))

/-- Read and merge until no other writer comes between. -/
def guardedPatch (key : Key) (path : String) (patch : Json → Json) :
    Exchange (Except KubeError Object) :=
  retryOnConflict attempts (patchOnce key path patch)

/-- A patch of the status against a version. -/
def statusPatch (status : List (String × Json)) (version : Json) : Json :=
  .obj [("metadata", .obj [("resourceVersion", version)]), ("status", .obj status)]

/-- The fields that record a checkpoint. -/
def checkpointFields (checkpoint : Checkpoint) : List (String × Json) :=
  [("instanceId", .str checkpoint.instanceId), ("providerId", .str checkpoint.providerId),
    ("failureDomain", Json.ofOption .str checkpoint.failureDomain),
    ("hostname", Json.ofOption .str checkpoint.hostname)]

/-- The fields that clear a checkpoint. -/
def clearedFields : List (String × Json) := [("instanceId", .null), ("providerId", .null)]

/-- A patch of one annotation against a version. -/
def annotationPatch (name value : String) (version : Json) : Json :=
  .obj [("metadata",
    .obj [("resourceVersion", version), ("annotations", .obj [(name, .str value)])])]

/-- The fields that publish a status: without the identifiers, and with the error and the addresses
    even when there are none. -/
def publishedFields (status : Status) : List (String × Json) :=
  let kept := status.toFields.filter fun (name, _) =>
    !(["instanceId", "providerId", "error", "addresses"].contains name)
  kept ++ [("error", Json.ofOption .str status.error), ("addresses", Json.texts status.addresses)]

/-- The checkpoint that a status records, if it names an instance. -/
def checkpointOf (status : Status) : Option Checkpoint :=
  status.instanceId.map fun id =>
    { instanceId := id
      providerId := status.providerId.getD (Store.providerId status.failureDomain id)
      failureDomain := status.failureDomain
      hostname := status.hostname }

/-- What is recorded in an object. -/
def savedIn (object : Object) : Saved :=
  { checkpoint := object.status.bind checkpointOf
    annotations := object.metadata.annotations.getD .empty
    status := object.status }

/-- The static address that an object declares, with its name. -/
def staticIpOf (object : Object) : Option (String × String) :=
  object.spec.staticIp.map fun declared => (object.metadata.name.getD "", declared.address)

/-- The error in the context of a call. -/
def inContext {α : Type} (context : String) : Except KubeError α → Except Failure α
  | .ok value => .ok value
  | .error error => .error (.persistence (context ++ ": " ++ error.message))

/-- What was loaded. An object that is gone has nothing recorded. -/
def loaded (key : Key) : Except KubeError Object → Except Failure Saved
  | .ok object => .ok (savedIn object)
  | .error error =>
      if error.isNotFound then .ok {}
      else .error (.persistence ("load " ++ key.toText ++ ": " ++ error.message))

def perform : (call : Store.Call) → Exchange call.Reply
  | .load key => loaded key <$> fetch key
  | .recordInstance key checkpoint =>
      (fun r => inContext ("status of " ++ key.toText) (r.map fun _ => ())) <$>
        guardedPatch key (statusPath key) (statusPatch (checkpointFields checkpoint))
  | .clearInstance key =>
      (fun r => inContext ("status of " ++ key.toText) (r.map fun _ => ())) <$>
        guardedPatch key (statusPath key) (statusPatch clearedFields)
  | .annotate key name value =>
      (fun r => inContext ("annotate " ++ key.toText) (r.map fun _ => ())) <$>
        guardedPatch key (objectPath key) (annotationPatch name value)
  | .publishStatus key status =>
      (fun r => inContext ("publish status of " ++ key.toText) (r.map fun _ => ())) <$>
        merge key (statusPath key) (.obj [("status", .obj (publishedFields status))])
  | .listStaticIps namespace_ =>
      (fun r => inContext "list MaasMachines" (r.map fun objects => objects.filterMap staticIpOf)) <$>
        exchange Object.listOfJson? "GET" (listTarget (some namespace_)) .empty

end MachineProvisioning.Store.Kubernetes
