import MachineProvisioning.Resource.Model
import MachineProvisioning.Text.Ascii
import MachineProvisioning.Text.Blank

/-! # Lifecycle states

MAAS names the state of a machine in words. A state is recognised up to blanks around it and the
case of its letters; a word that names no known state is kept as it is.
-/

namespace MachineProvisioning.Lifecycle

open Resource (Phase)

inductive State where
  | new
  | commissioning
  | failedCommissioning
  | testing
  | failedTesting
  | ready
  | allocated
  | deploying
  | deployed
  | failedDeployment
  | releasing
  | failedReleasing
  | diskErasing
  | failedDiskErasing
  | broken
  | missing
  | retired
  | rescueMode
  | enteringRescueMode
  | exitingRescueMode
  | failedEnteringRescueMode
  | failedExitingRescueMode
  /-- A state that is not known here. -/
  | unknown (words : String)
  deriving Repr, DecidableEq

namespace State

/-- The known states by their words in lower case. -/
def byWords : List (String × State) :=
  [("new", .new), ("commissioning", .commissioning),
    ("failed commissioning", .failedCommissioning), ("testing", .testing),
    ("failed testing", .failedTesting), ("ready", .ready), ("allocated", .allocated),
    ("deploying", .deploying), ("deployed", .deployed), ("failed deployment", .failedDeployment),
    ("releasing", .releasing), ("failed releasing", .failedReleasing),
    ("disk erasing", .diskErasing), ("failed disk erasing", .failedDiskErasing),
    ("broken", .broken), ("missing", .missing), ("retired", .retired),
    ("rescue mode", .rescueMode), ("entering rescue mode", .enteringRescueMode),
    ("exiting rescue mode", .exitingRescueMode),
    ("failed to enter rescue mode", .failedEnteringRescueMode),
    ("failed to exit rescue mode", .failedExitingRescueMode)]

def ofText (words : String) : State :=
  (Table.lookup (Text.lowerAscii (Text.trim words)) byWords).getD (.unknown words)

def toText : State → String
  | .new => "New"
  | .commissioning => "Commissioning"
  | .failedCommissioning => "Failed commissioning"
  | .testing => "Testing"
  | .failedTesting => "Failed testing"
  | .ready => "Ready"
  | .allocated => "Allocated"
  | .deploying => "Deploying"
  | .deployed => "Deployed"
  | .failedDeployment => "Failed deployment"
  | .releasing => "Releasing"
  | .failedReleasing => "Failed releasing"
  | .diskErasing => "Disk erasing"
  | .failedDiskErasing => "Failed disk erasing"
  | .broken => "Broken"
  | .missing => "Missing"
  | .retired => "Retired"
  | .rescueMode => "Rescue mode"
  | .enteringRescueMode => "Entering rescue mode"
  | .exitingRescueMode => "Exiting rescue mode"
  | .failedEnteringRescueMode => "Failed to enter rescue mode"
  | .failedExitingRescueMode => "Failed to exit rescue mode"
  | .unknown words => words

/-- A steady state in which the machine runs. -/
def isRunning : State → Bool
  | .deployed | .rescueMode => true
  | _ => false

/-- Running, or on the way there in a healthy life. -/
def isOperational : State → Bool
  | .deployed | .rescueMode | .new | .commissioning | .testing | .ready | .allocated | .deploying
  | .enteringRescueMode | .exitingRescueMode => true
  | _ => false

def isKnown : State → Bool
  | .unknown _ => false
  | _ => true

/-- MAAS accepts edits of interfaces. -/
def allowsNetworkEdits : State → Bool
  | .new | .ready | .allocated | .broken => true
  | _ => false

/-- MAAS is still examining the machine. -/
def isCommissioning : State → Bool
  | .commissioning | .testing => true
  | _ => false

/-- An operation of MAAS on the machine has failed. -/
def isFailed : State → Bool
  | .failedCommissioning | .failedTesting | .failedDeployment | .failedReleasing
  | .failedDiskErasing | .failedEnteringRescueMode | .failedExitingRescueMode => true
  | _ => false

/-- How far provisioning has come in this state. -/
def phase : State → Phase
  | .new | .commissioning | .testing => .commissioning
  | .ready | .allocated => .allocated
  | .deploying => .deploying
  | .deployed => .deployed
  | .releasing | .diskErasing => .releasing
  | .broken | .missing | .retired | .failedCommissioning | .failedTesting | .failedDeployment
  | .failedReleasing | .failedDiskErasing | .failedEnteringRescueMode
  | .failedExitingRescueMode => .failed
  | .rescueMode | .enteringRescueMode | .exitingRescueMode | .unknown _ => .pending

end State

inductive Power where
  | on
  | off
  | error
  | unknown
  deriving Repr, DecidableEq

namespace Power

def ofText (words : String) : Power :=
  match Text.lowerAscii (Text.trim words) with
  | "on" => .on
  | "off" => .off
  | "error" => .error
  | _ => .unknown

def toText : Power → String
  | .on => "on"
  | .off => "off"
  | .error => "error"
  | .unknown => "unknown"

end Power

end MachineProvisioning.Lifecycle
