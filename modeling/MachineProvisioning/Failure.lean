import MachineProvisioning.Maas.Error
import MachineProvisioning.Net.RequestTarget
import MachineProvisioning.Table

/-! # Failures

What can go wrong in a pass over a declared machine, how it reads, whether another try can help, and
whether the instance is gone afterwards. An error may be caused by another one, and a cause may be
hidden inside errors of unknown type: `AnyError.isRetryable` looks through those.
-/

namespace MachineProvisioning

inductive ProvisioningKind where
  /-- No VM host or machine can be chosen now. -/
  | hostUnavailable
  /-- The host or pool has no capacity left. -/
  | insufficientResources
  | vmCreationFailed
  /-- A deployment was rejected or has failed. -/
  | vmDeploymentFailed
  /-- Wiring or address binding failed. -/
  | networkConfiguration
  | profileNotFound
  | projectNotFound
  | storageConfiguration
  deriving Repr, DecidableEq

namespace ProvisioningKind

def name : ProvisioningKind → String
  | .hostUnavailable => "HostUnavailable"
  | .insufficientResources => "InsufficientResources"
  | .vmCreationFailed => "VMCreationFailed"
  | .vmDeploymentFailed => "VMDeploymentFailed"
  | .networkConfiguration => "NetworkConfiguration"
  | .profileNotFound => "ProfileNotFound"
  | .projectNotFound => "ProjectNotFound"
  | .storageConfiguration => "StorageConfiguration"

/-- Whether another try can help. -/
def isRetryable : ProvisioningKind → Bool
  | .hostUnavailable | .insufficientResources | .vmCreationFailed | .vmDeploymentFailed
  | .networkConfiguration => true
  | .profileNotFound | .projectNotFound | .storageConfiguration => false

end ProvisioningKind

/-- Why a declared static address is refused. -/
inductive StaticIpFault where
  | invalidAddress (text : String)
  | invalidGateway (text : String)
  | invalidSubnet (text : String)
  | nonContiguousMask (mask : String)
  | notInSubnet (address subnet : String)
  | reservedRange (address : String)
  | gatewayNotInSubnet (gateway subnet : String)
  | invalidDnsServer (text : String)
  | conflict (address owner : String)
  deriving Repr, DecidableEq

namespace StaticIpFault

def message : StaticIpFault → String
  | .invalidAddress text => "invalid IP address: " ++ text
  | .invalidGateway text => "invalid gateway: " ++ text
  | .invalidSubnet text => "invalid subnet: " ++ text
  | .nonContiguousMask mask => "subnet mask " ++ mask ++ " is not contiguous"
  | .notInSubnet address subnet => "address " ++ address ++ " is not inside subnet " ++ subnet
  | .reservedRange address => "address " ++ address ++ " is in a reserved range"
  | .gatewayNotInSubnet gateway subnet =>
      "gateway " ++ gateway ++ " is not inside subnet " ++ subnet
  | .invalidDnsServer text => "invalid DNS server: " ++ text
  | .conflict address owner => "static IP " ++ address ++ " is already declared by " ++ owner

end StaticIpFault

/-- A failed exchange with the Kubernetes API. -/
inductive KubeError where
  /-- The API server refused, with its own status, message, reason and code. -/
  | refused (status message reason : String) (code : UInt16)
  /-- The body of the answer is not what was asked for. -/
  | undecodable
  /-- An object without a name was asked for. -/
  | unnamed
  /-- The names of the object make no target of a request. -/
  | unaddressable (fault : Net.RequestTarget.Fault)
  deriving Repr, DecidableEq

namespace KubeError

def message : KubeError → String
  | .refused _ text reason _ => "ApiError: " ++ text ++ ": " ++ reason
  | .undecodable => "Error deserializing response"
  | .unnamed =>
      "Failed to build request: failed to validate request: A non-empty name is required"
  | .unaddressable fault =>
      "Failed to build request: failed to build request: " ++ fault.message

/-- The texts of what the error wraps, from the nearest to the last. -/
def chain : KubeError → List String
  | .refused _ text reason _ => [text ++ ": " ++ reason]
  | .undecodable => []
  | .unnamed => ["failed to validate request: A non-empty name is required"]
  | .unaddressable fault => ["failed to build request: " ++ fault.message, fault.message]

/-- Another writer was faster. -/
def isConflict : KubeError → Bool
  | .refused _ _ _ code => code == 409
  | _ => false

def isNotFound : KubeError → Bool
  | .refused _ _ _ code => code == 404
  | _ => false

end KubeError

mutual

inductive ProvisioningFailure where
  /-- The category, what was tried, the VM host or machine it concerns, its cause, and details by
      name. -/
  | mk (kind : ProvisioningKind) (message : String) (host : Option String)
      (cause : Option AnyError) (details : Table String String)

inductive Failure where
  | provisioning (failure : ProvisioningFailure)
  | staticIp (fault : StaticIpFault)
  /-- MAAS is still working on the instance. -/
  | stillProvisioning (systemId reason : String)
  /-- The instance was broken and has been released. -/
  | brokenInstance (systemId : String)
  | instanceGone (systemId : String)
  /-- The declaration cannot be satisfied. -/
  | configuration (text : String)
  | backend (context : String) (error : Maas.Error)
  /-- The recorded state could not be read or written. -/
  | persistence (text : String)
  | kubernetes (error : KubeError)
  | settings (text : String)
  | watch (text : String)

/-- An error of any type. -/
inductive AnyError where
  | failure (failure : Failure)
  | provisioning (failure : ProvisioningFailure)
  | maas (error : Maas.Error)
  /-- A MAAS error that stands for a failed exchange or an unreadable answer. -/
  | maasCausedBy (error : Maas.Error) (cause : AnyError)
  | staticIp (fault : StaticIpFault)
  | kubernetes (error : KubeError)
  /-- An error of unknown type, perhaps caused by another one. -/
  | foreign (text : String) (cause : Option AnyError)

end

namespace ProvisioningFailure

/-- The detail that marks a failure after which the instance was released. -/
def releasedDetail : String := "released"

def kind : ProvisioningFailure → ProvisioningKind
  | .mk kind _ _ _ _ => kind

def action : ProvisioningFailure → String
  | .mk _ action _ _ _ => action

def host : ProvisioningFailure → Option String
  | .mk _ _ host _ _ => host

def cause : ProvisioningFailure → Option AnyError
  | .mk _ _ _ cause _ => cause

def details : ProvisioningFailure → Table String String
  | .mk _ _ _ _ details => details

/-- A failure of this category without host, cause and details. -/
def new (kind : ProvisioningKind) (action : String) : ProvisioningFailure :=
  .mk kind action none none .empty

def atHost (host : String) : ProvisioningFailure → ProvisioningFailure
  | .mk kind action _ cause details => .mk kind action (some host) cause details

def causedBy (cause : AnyError) : ProvisioningFailure → ProvisioningFailure
  | .mk kind action host _ details => .mk kind action host (some cause) details

def withDetail (name value : String) : ProvisioningFailure → ProvisioningFailure
  | .mk kind action host cause details => .mk kind action host cause (details.insert name value)

def isRetryable (failure : ProvisioningFailure) : Bool := failure.kind.isRetryable

def released (failure : ProvisioningFailure) : Bool := failure.details.contains releasedDetail

end ProvisioningFailure

mutual

def ProvisioningFailure.message : ProvisioningFailure → String
  | .mk kind action host cause _ =>
      kind.name ++ ": " ++ action ++
        (match host with
        | none => ""
        | some host => " (host " ++ host ++ ")") ++
        (match cause with
        | none => ""
        | some cause => ": " ++ cause.message)

def Failure.message : Failure → String
  | .provisioning failure => failure.message
  | .staticIp fault => "static IP validation failed: " ++ fault.message
  | .stillProvisioning systemId reason =>
      "machine " ++ systemId ++ " still provisioning: " ++ reason
  | .brokenInstance systemId => "instance " ++ systemId ++ " was broken and has been released"
  | .instanceGone systemId => "instance " ++ systemId ++ " no longer exists in MAAS"
  | .configuration text => "configuration error: " ++ text
  | .backend context error => "MAAS error during " ++ context ++ ": " ++ error.message
  | .persistence text => "state persistence failed: " ++ text
  | .kubernetes error => "Kubernetes error: " ++ error.message
  | .settings text => "Invalid configuration: " ++ text
  | .watch text => "Resource watch failed: " ++ text

def AnyError.message : AnyError → String
  | .failure failure => failure.message
  | .provisioning failure => failure.message
  | .maas error => error.message
  | .maasCausedBy error _ => error.message
  | .staticIp fault => fault.message
  | .kubernetes error => error.message
  | .foreign text _ => text

end

namespace Failure

instance : Coe ProvisioningFailure Failure := ⟨.provisioning⟩

/-- Whether another try can help. MAAS errors are worth another try unless the key or the request
    is wrong. -/
def isRetryable : Failure → Bool
  | .provisioning failure => failure.isRetryable
  | .staticIp _ | .configuration _ | .settings _ | .watch _ => false
  | .stillProvisioning _ _ | .brokenInstance _ | .instanceGone _ | .persistence _
  | .kubernetes _ => true
  | .backend _ (.authentication _) => false
  | .backend _ (.invalidRequest _) => false
  | .backend _ _ => true

/-- The pass ended with the instance released or gone. -/
def released : Failure → Bool
  | .brokenInstance _ | .instanceGone _ => true
  | .provisioning failure => failure.released
  | _ => false

def reason : Failure → String
  | .provisioning _ => "ProvisioningFailed"
  | .staticIp _ => "InvalidStaticIP"
  | .stillProvisioning _ _ => "StillProvisioning"
  | .brokenInstance _ => "BrokenInstance"
  | .instanceGone _ => "InstanceGone"
  | .configuration _ | .settings _ => "ConfigurationError"
  | .backend _ _ => "BackendError"
  | .persistence _ | .kubernetes _ => "PersistenceError"
  | .watch _ => "WatchError"

/-- The error that a failure hides. A provisioning failure stands for itself, so what it hides is
    its own cause. -/
def cause : Failure → Option AnyError
  | .provisioning failure => failure.cause
  | .staticIp fault => some (.staticIp fault)
  | .backend _ error => some (.maas error)
  | .kubernetes error => some (.kubernetes error)
  | _ => none

end Failure

mutual

def ProvisioningFailure.chain : ProvisioningFailure → List String
  | .mk _ _ _ none _ => []
  | .mk _ _ _ (some cause) _ => cause.message :: cause.chain

/-- The texts of the causes of a failure, from the nearest to the last. -/
def Failure.chain : Failure → List String
  | .provisioning failure => failure.chain
  | .staticIp fault => [fault.message]
  | .backend _ error => [error.message]
  | .kubernetes error => error.message :: error.chain
  | _ => []

def AnyError.chain : AnyError → List String
  | .failure failure => failure.chain
  | .provisioning failure => failure.chain
  | .kubernetes error => error.chain
  | .maasCausedBy _ cause => cause.message :: cause.chain
  | .foreign _ (some cause) => cause.message :: cause.chain
  | _ => []

end

/-- The first failure along the causes decides whether another try can help; errors of unknown type,
    refused addresses and bare MAAS or Kubernetes errors never do by themselves. -/
def AnyError.isRetryable : AnyError → Bool
  | .failure inner => inner.isRetryable
  | .provisioning inner => inner.isRetryable
  | .maasCausedBy _ cause => cause.isRetryable
  | .foreign _ (some cause) => cause.isRetryable
  | .foreign _ none | .maas _ | .staticIp _ | .kubernetes _ => false

end MachineProvisioning
