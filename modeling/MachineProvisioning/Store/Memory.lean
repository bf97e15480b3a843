import MachineProvisioning.Store.Call

/-! # The store in memory

A store that keeps what is recorded by key. The next record can be lost, and the listing of declared
addresses can be out of order for good.
-/

namespace MachineProvisioning

namespace Resource

/-- Keys are ordered by namespace, then by name. -/
instance : LT Key :=
  ⟨fun a b => a.namespace_ < b.namespace_ ∨ a.namespace_ = b.namespace_ ∧ a.name < b.name⟩

instance (a b : Key) : Decidable (a < b) :=
  inferInstanceAs
    (Decidable (a.namespace_ < b.namespace_ ∨ a.namespace_ = b.namespace_ ∧ a.name < b.name))

end Resource

namespace Store

open Resource (Key)

/-- What is kept of one machine. -/
structure Memory.Entry where
  saved : Saved := {}
  /-- The static address that it declares. -/
  staticIp : Option String := none
  deriving Repr, DecidableEq

/-- A store in memory. -/
structure Memory where
  entries : Table Key Memory.Entry := .empty
  /-- The next record is lost. -/
  losesNextRecord : Bool := false
  /-- Declared addresses cannot be listed. -/
  listingFails : Bool := false
  /-- How often a status was published. -/
  statusWrites : Nat := 0
  deriving Repr, DecidableEq

namespace Memory

def entry (memory : Memory) (key : Key) : Entry := (memory.entries.get? key).getD {}

def modify (memory : Memory) (key : Key) (f : Entry → Entry) : Memory :=
  { memory with entries := memory.entries.insert key (f (memory.entry key)) }

/-- The store with what is recorded of a machine changed. -/
def modifySaved (memory : Memory) (key : Key) (f : Saved → Saved) : Memory :=
  memory.modify key fun e => { e with saved := f e.saved }

def checkpoint? (memory : Memory) (key : Key) : Option Checkpoint :=
  (memory.entry key).saved.checkpoint

def declareStaticIp (memory : Memory) (key : Key) (address : String) : Memory :=
  memory.modify key fun e => { e with staticIp := some address }

/-- The names and addresses declared in a namespace, by name. -/
def declaredIn (memory : Memory) (namespace_ : String) : List (String × String) :=
  memory.entries.entries.filterMap fun (key, e) =>
    if key.namespace_ = namespace_ then e.staticIp.map fun address => (key.name, address) else none

def answer (memory : Memory) : (call : Call) → call.Reply × Memory
  | .load key => (.ok (memory.entry key).saved, memory)
  | .recordInstance key checkpoint =>
      if memory.losesNextRecord then
        (.error (.persistence ("status of " ++ key.toText ++ ": conflict")),
          { memory with losesNextRecord := false })
      else
        (.ok (), memory.modifySaved key fun s => { s with checkpoint := some checkpoint })
  | .clearInstance key => (.ok (), memory.modifySaved key fun s => { s with checkpoint := none })
  | .annotate key name value =>
      (.ok (), memory.modifySaved key fun s =>
        { s with annotations := s.annotations.insert name value })
  | .publishStatus key status =>
      let published := memory.modifySaved key fun s => { s with status := some status }
      (.ok (), { published with statusWrites := memory.statusWrites + 1 })
  | .listStaticIps namespace_ =>
      if memory.listingFails then
        (.error (.persistence "list MaasMachines: unavailable"), memory)
      else (.ok (memory.declaredIn namespace_), memory)

end Memory

end Store

end MachineProvisioning
