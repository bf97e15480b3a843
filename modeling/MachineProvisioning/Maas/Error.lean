/-! # How MAAS refuses

MAAS reports most failures as free text. The errors here are what the rest of the library decides on.
-/

namespace MachineProvisioning.Maas

/-- What a VM host lacks for a composition. -/
inductive HostResource where
  | profile
  | project
  | storage
  deriving Repr, DecidableEq

def HostResource.name : HostResource → String
  | .profile => "profile"
  | .project => "project"
  | .storage => "storage"

inductive Error where
  /-- The request was not sent or not answered. -/
  | transport
  /-- A failure without a more specific meaning. -/
  | api (message : String)
  /-- The API key is malformed or revoked. -/
  | authentication (message : String)
  | notFound (message : String)
  | invalidRequest (message : String)
  /-- Another node has the hostname. -/
  | hostnameInUse (message : String)
  /-- The VM host cannot attach the networks. -/
  | networkMismatch (message : String)
  /-- Nothing has the capacity asked for. -/
  | insufficientResources (message : String)
  /-- The operation drove a machine into the broken state. MAAS may name the machine and its VM
      host. -/
  | brokenMachine (systemId hostId : Option String) (message : String)
  /-- The lifecycle state does not allow the operation. -/
  | invalidState (message : String)
  | hostResource (resource : HostResource) (message : String)
  deriving Repr, DecidableEq

namespace Error

def message : Error → String
  | .transport => "HTTP error"
  | .api text => "MAAS API error: " ++ text
  | .authentication text => "Authentication failed: " ++ text
  | .notFound text => "Not found: " ++ text
  | .invalidRequest text => "Invalid request: " ++ text
  | .hostnameInUse text => "Hostname already in use: " ++ text
  | .networkMismatch text => "Requested networks not available on VM host: " ++ text
  | .insufficientResources text => "Insufficient resources: " ++ text
  | .brokenMachine systemId _ text =>
      "Machine " ++ systemId.getD "<unnamed>" ++ " is broken: " ++ text
  | .invalidState text => "Invalid machine state: " ++ text
  | .hostResource resource text => "VM host " ++ resource.name ++ " error: " ++ text

def isNotFound : Error → Bool
  | .notFound _ => true
  | _ => false

end Error

end MachineProvisioning.Maas
