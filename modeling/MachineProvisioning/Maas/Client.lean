import MachineProvisioning.Json.Document
import MachineProvisioning.Json.Reader
import MachineProvisioning.Maas.ApiKey
import MachineProvisioning.Maas.Call
import MachineProvisioning.Maas.Codec
import MachineProvisioning.Maas.Diagnosis
import MachineProvisioning.Net.Http
import MachineProvisioning.Text.Base64

/-! # The MAAS API over HTTP

Every operation is one request or a few: reads are GET requests, changes are forms. Identifiers are
percent-encoded, so that each stands in one segment of a path. A refused request is diagnosed by its
status and body.
-/

namespace MachineProvisioning.Maas

open Json Text
open Http (Request Response Exchange)

/-- The API below the base URL. -/
def apiPrefix : String := "/api/2.0"

def machinePath (systemId : String) : String := "/machines/" ++ percentEncode systemId ++ "/"

def interfacesPath (systemId : String) : String :=
  "/nodes/" ++ percentEncode systemId ++ "/interfaces/"

def interfacePath (systemId : String) (interfaceId : UInt64) : String :=
  interfacesPath systemId ++ decimal interfaceId.toNat ++ "/"

def vmHostPath (id : UInt64) : String := "/vm-hosts/" ++ decimal id.toNat ++ "/"

def tagPath (name : String) : String := "/tags/" ++ percentEncode name ++ "/"

/-- A path with the name of the operation to perform there. -/
def operation (path name : String) : String := path ++ "?op=" ++ name

/-- A path with a query, which goes on with one that is there already. -/
def withQuery (target : String) (filters : List (String × String)) : String :=
  if filters.isEmpty then target
  else target ++ (if target.toList.contains '?' then "&" else "?") ++ queryString filters

structure Client where
  baseUrl : String
  key : ApiKey

namespace Client

/-- The URL without slashes at its end. -/
def trimSlashes (url : String) : String :=
  String.ofList (url.toList.reverse.dropWhile (· = '/')).reverse

def new (url key : String) : Except Error Client :=
  (ApiKey.ofText key).map fun key => ⟨trimSlashes url, key⟩

/-- A description that keeps the key to itself. -/
def describe (client : Client) : String :=
  "MaasClient \x7b http: HttpClient \x7b base_url: " ++ quoted client.baseUrl ++ ", .. \x7d \x7d"

/-- The URL of a path. A URL stands for itself. -/
def urlOf (baseUrl path : String) : String :=
  if (dropLead "http".toList path.toList).isSome then path else baseUrl ++ apiPrefix ++ path

/-- An exchange that may end with an error. -/
abbrev Conversation : Type → Type := ExceptT Error Exchange

/-- Send a request; the body of a success. A key that fits no header is a failed transport. -/
def exchange (client : Client) (context : String) (request : Request) : Conversation String := do
  if !client.key.isSendable then throw .transport
  match ← ExceptT.lift (Http.send request) with
  | none => throw .transport
  | some response =>
      if response.isSuccess then pure response.body
      else throw (Diagnosis.classify response.status response.body context)

/-- The error for a body that is not what the operation returns. -/
def undecodable (context body : String) : Error :=
  .api (context ++ ": error decoding response body: <decoder> - Response (first 500 chars): " ++
    String.ofList (body.toList.take 500))

def decode {α : Type} (context body : String) (ofJson? : Json → Option α) : Except Error α :=
  match (Json.read? body).bind ofJson? with
  | some value => .ok value
  | none => .error (undecodable context body)

def get {α : Type} (client : Client) (path : String) (filters : List (String × String))
    (ofJson? : Json → Option α) : Conversation α := do
  let context := "GET " ++ path
  let body ← client.exchange context
    { method := "GET", target := withQuery (urlOf client.baseUrl path) filters }
  MonadExcept.ofExcept (decode context body ofJson?)

/-- Send a form, and leave the answer unread. -/
def submit (client : Client) (method path : String) (form : List (String × String)) :
    Conversation String :=
  client.exchange (method ++ " " ++ path)
    { method, target := urlOf client.baseUrl path, body := .form form }

def submitFor {α : Type} (client : Client) (method path : String) (form : List (String × String))
    (ofJson? : Json → Option α) : Conversation α := do
  let body ← client.submit method path form
  MonadExcept.ofExcept (decode (method ++ " " ++ path) body ofJson?)

/-- A field of a form, unless it is absent. -/
def field (name : String) : Option String → List (String × String)
  | none => []
  | some value => [(name, value)]

/-- A field that stands in a form when it is true. -/
def flag (name : String) (value : Bool) : List (String × String) :=
  if value then [(name, "true")] else []

def allocateForm (params : AllocateParams) : List (String × String) :=
  field "system_id" params.systemId ++
    field "cpu_count" (params.cpuCount.map fun n => decimal n.toNat) ++
    field "mem" (params.memory.map fun n => decimal n.toNat) ++ field "zone" params.zone ++
    field "pool" params.pool ++ params.tags.map fun tag => ("tags", tag)

def deployForm (params : DeployParams) : List (String × String) :=
  field "distro_series" params.distroSeries ++ field "user_data" (params.userData.map base64)

def composeForm (params : ComposeParams) : List (String × String) :=
  [("cores", decimal params.cores.toNat), ("memory", decimal params.memory.toNat),
    ("hostname", params.hostname)] ++ field "storage" params.storage ++
    field "zone" (params.zone.map fun n => decimal n.toNat) ++
    field "pool" (params.pool.map fun n => decimal n.toNat) ++ field "interfaces" params.interfaces

def linkForm (params : LinkParams) : List (String × String) :=
  [("mode", params.mode.param), ("subnet", params.subnet)] ++
    field "ip_address" params.ipAddress ++ flag "default_gateway" params.defaultGateway

def bridgeForm (parent : UInt64) (params : BridgeParams) : List (String × String) :=
  [("name", params.name), ("parent", decimal parent.toNat),
    ("bridge_stp", if params.stp then "true" else "false"),
    ("bridge_fd", decimal params.forwardDelay.toNat)]

/-- Any well-formed document that is not nested too deeply. -/
def anyDocument? (j : Json) : Option Unit :=
  if j.depth ≤ maxDepth then (document? j).map fun _ => () else none

/-- Check the key with a request that changes nothing. -/
def validateCredentials (client : Client) : Conversation Unit :=
  client.get "/users/?op=whoami" [] anyDocument?

def getMachine (client : Client) (systemId : String) : Conversation Machine :=
  client.get (machinePath systemId) [] Machine.ofJson?

def listMachines (client : Client) (filters : List (String × String)) :
    Conversation (List Machine) :=
  client.get "/machines/" filters (list? Machine.ofJson?)

def getVmHost (client : Client) (id : UInt64) : Conversation VmHost :=
  client.get (vmHostPath id) [] VmHost.ofJson?

/-- The number of the boot interface of a machine. -/
def bootInterfaceId (client : Client) (systemId : String) : Conversation UInt64 := do
  match (← client.getMachine systemId).bootInterface with
  | some iface => pure iface.id
  | none => throw (.invalidState ("machine " ++ systemId ++ " has no boot interface"))

def linkSubnet (client : Client) (systemId : String) (interfaceId : UInt64)
    (params : LinkParams) : Conversation Interface :=
  client.submitFor "POST" (operation (interfacePath systemId interfaceId) "link_subnet")
    (linkForm params) Interface.ofJson?

def getTag (client : Client) (name : String) : Conversation Tag :=
  client.get (tagPath name) [] Tag.ofJson?

/-- Create a tag unless it is there. When another client was faster, its tag counts. -/
def createTag (client : Client) (name : String) : Conversation Tag := do
  match ← ExceptT.lift (client.getTag name).run with
  | .ok tag => pure tag
  | .error error =>
      if !error.isNotFound then throw error
      match ← ExceptT.lift (client.submitFor "POST" "/tags/" [("name", name)] Tag.ofJson?).run with
      | .ok tag => pure tag
      | .error refused =>
          match ← ExceptT.lift (client.getTag name).run with
          | .ok tag => pure tag
          | .error _ => throw refused

def perform (client : Client) : (call : Call) → Conversation call.Value
  | .allocate params =>
      client.submitFor "POST" (operation "/machines/" "allocate") (allocateForm params)
        Machine.ofJson?
  | .getMachine systemId => client.getMachine systemId
  | .listMachines filters => client.listMachines filters
  | .release systemId force =>
      discard (client.submit "POST" (operation (machinePath systemId) "release")
        (flag "force" force))
  | .setSwapSize systemId bytes =>
      client.submitFor "PUT" (machinePath systemId) [("swap_size", decimal bytes.toNat)]
        Machine.ofJson?
  | .setHostname systemId hostname =>
      client.submitFor "PUT" (machinePath systemId) [("hostname", hostname)] Machine.ofJson?
  | .deploy systemId params =>
      client.submitFor "POST" (operation (machinePath systemId) "deploy") (deployForm params)
        Machine.ofJson?
  | .powerOn systemId =>
      client.submitFor "POST" (operation (machinePath systemId) "power_on") [] Machine.ofJson?
  | .listVmHosts => client.get "/vm-hosts/" [] (list? VmHost.ofJson?)
  | .getVmHost id => client.getVmHost id
  | .compose hostId params =>
      client.submitFor "POST" (operation (vmHostPath hostId) "compose") (composeForm params)
        ComposedVm.ofJson?
  | .listHostVms hostId => do
      let host ← client.getVmHost hostId
      client.listMachines [("pod", host.name)]
  | .listInterfaces systemId =>
      client.get (interfacesPath systemId) [] (list? Interface.ofJson?)
  | .getInterface systemId interfaceId =>
      client.get (interfacePath systemId interfaceId) [] Interface.ofJson?
  | .linkSubnet systemId interfaceId params => client.linkSubnet systemId interfaceId params
  | .unlinkSubnet systemId interfaceId linkId =>
      client.submitFor "POST" (operation (interfacePath systemId interfaceId) "unlink_subnet")
        [("id", decimal linkId.toNat)] Interface.ofJson?
  | .bindBootInterface systemId params => do
      client.linkSubnet systemId (← client.bootInterfaceId systemId) params
  | .createBridge systemId params => do
      let parent ← client.bootInterfaceId systemId
      client.submitFor "POST" (operation (interfacesPath systemId) "create_bridge")
        (bridgeForm parent params) Interface.ofJson?
  | .getIpAddress ip => do
      let allocations ← client.get "/ipaddresses/" [("ip", ip), ("all", "true")]
        (list? IpAllocation.ofJson?)
      pure (allocations.find? (·.ip == ip))
  | .releaseIpAddress ip force =>
      discard (client.submit "POST" (operation "/ipaddresses/" "release")
        (("ip", ip) :: flag "force" force))
  | .createTag name => client.createTag name
  | .assignTag name systemId =>
      discard (client.submit "POST" (operation (tagPath name) "update_nodes")
        [("add", systemId)])

end Client

end MachineProvisioning.Maas
