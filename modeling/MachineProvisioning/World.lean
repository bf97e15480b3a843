import MachineProvisioning.Engine.Reconcile
import MachineProvisioning.Region.Answer
import MachineProvisioning.Store.Memory
import MachineProvisioning.Telemetry.Metrics

/-! # A world to run passes in

A region and a store in memory answer the requests of passes. Every call is logged, and calls can be
made to fail before they reach the region or the store.
-/

namespace MachineProvisioning

open Resource (Key Spec)
open Engine (Effect Options Pass Action Retries)

/-- What the next calls of each name meet: an error, or nothing. -/
abbrev Faults (ε : Type) : Type := Table String (List (Option ε))

namespace Faults

variable {ε : Type}

/-- After what is planned already, let calls of this name pass `skip` times and fail once. -/
def plan (faults : Faults ε) (name : String) (skip : Nat) (error : ε) : Faults ε :=
  faults.insert name ((faults.get? name).getD [] ++ List.replicate skip none ++ [some error])

/-- What the next call of this name meets, and what is planned after it. -/
def next (faults : Faults ε) (name : String) : Option ε × Faults ε :=
  match faults.get? name with
  | some (met :: rest) => (met, faults.insert name rest)
  | _ => (none, faults)

end Faults

/-- Everything that a pass can reach. -/
structure World where
  region : Region := .empty
  memory : Store.Memory := {}
  metrics : Telemetry.Metrics := {}
  maasFaults : Faults Maas.Error := .empty
  storeFaults : Faults Failure := .empty
  /-- The calls made, the newest first. -/
  log : List Effect := []
  clock : Instant
  /-- The failures in a row of each resource. -/
  retries : Retries := .empty

namespace World

def answerMaas (world : World) (call : Maas.Call) : call.Reply × World :=
  let (met, faults) := world.maasFaults.next call.name
  let world := { world with maasFaults := faults, log := .maas call :: world.log }
  match met with
  | some error => (.error error, world)
  | none =>
      let (reply, region) := world.region.answer call
      (reply, { world with region })

def answerStore (world : World) (call : Store.Call) : call.Reply × World :=
  let (met, faults) := world.storeFaults.next call.name
  let world := { world with storeFaults := faults, log := .store call :: world.log }
  match met with
  | some fault => (.error fault, world)
  | none =>
      let (reply, memory) := world.memory.answer call
      (reply, { world with memory })

def answer : (effect : Effect) → World → effect.Answer × World
  | .maas call, world => world.answerMaas call
  | .store call, world => world.answerStore call
  | .clock, world => (world.clock, world)
  | .count event, world => ((), { world with metrics := world.metrics.record event })

def run {α : Type} (world : World) (program : Engine.Procedure α) : α × World :=
  program.run answer world

def pass {α : Type} (world : World) (program : Pass α) : Except Failure α × World :=
  world.run (ExceptT.run program)

/-- Reconcile a declared machine. A success ends its failures in a row. -/
def reconcile (world : World) (options : Options) (key : Key) (spec : Spec) :
    Except Failure Action × World :=
  match world.pass (Engine.reconcile options key spec) with
  | (.ok action, world) => (.ok action, { world with retries := world.retries.reset key })
  | (.error failure, world) => (.error failure, world)

/-- Clean up after a declared machine, whose failures in a row are forgotten. -/
def cleanup (world : World) (key : Key) : Except Failure Action × World :=
  match world.pass (Engine.cleanup key) with
  | (.ok action, world) => (.ok action, { world with retries := world.retries.forget key })
  | (.error failure, world) => (.error failure, world)

def afterFailure (world : World) (key : Key) (failure : Failure) : Action × World :=
  let (action, retries) := world.retries.afterFailure key failure
  (action, { world with retries })

end World

end MachineProvisioning
