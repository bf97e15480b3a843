import MachineProvisioning.Json.Printer
import MachineProvisioning.Program
import MachineProvisioning.Text.Percent

/-! # HTTP exchanges

A request names a method and a target and may carry a form or a JSON document; an exchange is a
program over requests.
-/

namespace MachineProvisioning.Http

inductive Body where
  | empty
  | form (fields : List (String × String))
  | json (contentType : String) (value : Json)

namespace Body

def contentType? : Body → Option String
  | .empty => none
  | .form _ => some "application/x-www-form-urlencoded"
  | .json contentType _ => some contentType

def text : Body → String
  | .empty => ""
  | .form fields => Text.formBody fields
  | .json _ value => value.compact

end Body

structure Request where
  method : String
  /-- A URL, or a path with a query. -/
  target : String
  body : Body := .empty

structure Response where
  status : Nat
  body : String
  deriving Repr, DecidableEq

def Response.isSuccess (r : Response) : Bool := 200 ≤ r.status && r.status < 300

/-- A status that blames the client or the server. -/
def isErrorStatus (status : Nat) : Bool := 400 ≤ status && status < 600

/-- A program over requests, each of which is answered unless the transport fails. -/
abbrev Exchange : Type → Type := Program Request fun _ => Option Response

def send (request : Request) : Exchange (Option Response) := Program.request request

end MachineProvisioning.Http
