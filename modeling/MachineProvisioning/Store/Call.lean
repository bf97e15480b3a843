import MachineProvisioning.Failure
import MachineProvisioning.Resource.Model

/-! # What is recorded

The checkpoint of a declared machine names the instance that backs it, and is all that says there is
one. Beside it stand annotations and the status published last. A store call reads or writes these
for one machine, or lists the static addresses that the machines of a namespace declare.
-/

namespace MachineProvisioning.Store

open Resource (Key Status)

/-- The identifier of an instance for other controllers. -/
def providerId (zone : Option String) (systemId : String) : String :=
  "maas:///" ++ zone.getD "default" ++ "/" ++ systemId

structure Checkpoint where
  instanceId : String
  providerId : String
  failureDomain : Option String
  hostname : Option String
  deriving Repr, DecidableEq

def Checkpoint.new (instanceId : String) (zone hostname : Option String) : Checkpoint :=
  ⟨instanceId, Store.providerId zone instanceId, zone, hostname⟩

/-- What a pass starts from. -/
structure Saved where
  checkpoint : Option Checkpoint := none
  annotations : Table String String := .empty
  status : Option Status := none
  deriving Repr, DecidableEq

/-- A read or write of what is recorded. -/
inductive Call where
  | load (key : Key)
  | recordInstance (key : Key) (checkpoint : Checkpoint)
  | clearInstance (key : Key)
  | annotate (key : Key) (name value : String)
  /-- Publish what was seen. The checkpoint is not touched. -/
  | publishStatus (key : Key) (status : Status)
  /-- Names and declared static addresses of the machines of a namespace. -/
  | listStaticIps (namespace_ : String)
  deriving Repr, DecidableEq

namespace Call

def name : Call → String
  | .load _ => "load"
  | .recordInstance _ _ => "record_instance"
  | .clearInstance _ => "clear_instance"
  | .annotate _ _ _ => "set_annotation"
  | .publishStatus _ _ => "publish_status"
  | .listStaticIps _ => "list_static_ips"

@[reducible] def Value : Call → Type
  | .load _ => Saved
  | .recordInstance _ _ | .clearInstance _ | .annotate _ _ _ | .publishStatus _ _ => Unit
  | .listStaticIps _ => List (String × String)

abbrev Reply (call : Call) : Type := Except Failure call.Value

end Call

end MachineProvisioning.Store
