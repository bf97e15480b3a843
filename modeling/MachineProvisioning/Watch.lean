import MachineProvisioning.Store.Kubernetes
import MachineProvisioning.World

/-! # Watching declared machines

The watcher lists the declared machines, keeps a watch open and makes a pass over each machine that
changes. A finalizer holds a machine back from deletion until its instance is released: a pass over a
machine without it adds it and nothing else. Passes are delayed, so that the status that a pass
publishes does not bring the next one.
-/

namespace MachineProvisioning.Watch

open Engine (Action Effect Options)
open Resource (Key Metadata Object)
open Store (Kubernetes.listTarget Kubernetes.changeTarget Kubernetes.objectPath)

/-- Holds a machine back from deletion until its instance is released. -/
def finalizer : String := "dcops.microscaler.io/maas-machine-finalizer"

inductive Event where
  | list (path : String)
  | watch (path : String)
  | patch (path contentType : String) (body : Json)
  | call (effect : Effect)

def patchStep (op path : String) (value : Option Json) : Json :=
  .obj ([("op", .str op), ("path", .str path)] ++ Json.present "value" id value)

/-- The patch that adds the finalizer, unless the finalizers have changed. -/
def adding (finalizers : List String) : Json :=
  let path := "/metadata/finalizers"
  if finalizers.isEmpty then
    .arr [patchStep "test" path (some .null),
      patchStep "add" path (some (.arr [.str finalizer]))]
  else
    .arr [patchStep "test" path (some (Json.texts finalizers)),
      patchStep "add" (path ++ "/-") (some (.str finalizer))]

/-- The patch that removes the finalizer from its place, unless it has moved. -/
def removing (index : Nat) : Json :=
  let path := "/metadata/finalizers/" ++ Text.decimal index
  .arr [patchStep "test" path (some (.str finalizer)), patchStep "remove" path none]

/-- The world with what has happened, the newest event first. -/
structure Session where
  world : World
  events : List Event

/-- Seconds to the next pass after the object could not be patched. -/
def patchRequeue : Nat := 60

namespace Session

/-- Move the calls of a pass to the events. -/
def collect (session : Session) : Session :=
  { world := { session.world with log := [] }
    events := session.world.log.map .call ++ session.events }

/-- Patch the object, if a request can name it; whether it worked. -/
def patch (session : Session) (metadata : Metadata) (accepted : Bool) (body : Json) :
    Bool × Session :=
  let key : Key := ⟨metadata.key.namespace_, metadata.name.getD ""⟩
  match Kubernetes.changeTarget key (Kubernetes.objectPath key) with
  | .error _ => (false, session)
  | .ok target =>
      (accepted,
        { session with
          events := .patch target.path "application/json-patch+json" body :: session.events })

def conclude (session : Session) (key : Key) : Except Failure Action → Action × Session
  | .ok action => (action, session)
  | .error failure =>
      let (action, world) := session.world.afterFailure key failure
      (action, { session with world })

/-- One pass over the object: add the finalizer, reconcile, or clean up and remove the finalizer. -/
def pass (session : Session) (options : Options) (object : Object) (accepted : Bool) :
    Action × Session :=
  let metadata := object.metadata
  let key := metadata.key
  let finalizers := metadata.finalizers.getD []
  match finalizers.idxOf? finalizer, metadata.deletionTimestamp with
  | none, some _ => (.awaitChange, session)
  | none, none =>
      let (patched, session) := session.patch metadata accepted (adding finalizers)
      (if patched then .awaitChange else .requeue patchRequeue, session)
  | some _, none =>
      let (result, world) := session.world.reconcile options key object.spec
      conclude (collect { session with world }) key result
  | some index, some _ =>
      if metadata.name.isNone then (.requeue patchRequeue, session)
      else
        match session.world.cleanup key with
        | (.ok action, world) =>
            let (patched, session) :=
              (collect { session with world }).patch metadata accepted (removing index)
            (if patched then action else .requeue patchRequeue, session)
        | (.error failure, world) =>
            conclude (collect { session with world }) key (.error failure)

/-- Seconds for which the passes over a machine are held back. -/
def debounce : Nat := 5

/-- Make the passes that fall before the end, the first one at this time. -/
def passesFrom (session : Session) (options : Options) (object : Object) (accepted : Bool)
    (time ending : Nat) : Session :=
  if time < ending then
    match session.pass options object accepted with
    | (.awaitChange, session) => session
    | (.requeue seconds, session) =>
        session.passesFrom options object accepted (time + seconds + debounce) ending
  else session
termination_by ending - time
decreasing_by simp only [debounce]; omega

end Session

/-- Watch one object, of one namespace or all, for some seconds. A namespace that no request can
    name shows no objects. -/
def run (world : World) (options : Options) (namespace_ : Option String) (object : Object)
    (accepted : Bool) (seconds : Nat) : List Event :=
  match Kubernetes.listTarget namespace_ with
  | .error _ => []
  | .ok target =>
      let session : Session := ⟨world, [.watch target.path, .list target.path]⟩
      (session.passesFrom options object accepted Session.debounce seconds).events.reverse

end MachineProvisioning.Watch
