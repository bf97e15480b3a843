import MachineProvisioning.Lifecycle.Status
import MachineProvisioning.Maas.Call
import MachineProvisioning.Placement.Order
import MachineProvisioning.Program
import MachineProvisioning.Store.Call

/-! # What a pass does to the world

A pass calls MAAS and the store, reads the clock and counts events. It is a program over these
effects, so that its order of calls is part of its value.
-/

namespace MachineProvisioning.Engine

open Resource (Mode)

/-- How a pass ended, as it is counted. -/
inductive Outcome where
  | success
  /-- MAAS is still working. -/
  | requeue
  | retryable
  | terminal
  deriving Repr, DecidableEq

def Outcome.name : Outcome → String
  | .success => "success"
  | .requeue => "requeue"
  | .retryable => "retryable"
  | .terminal => "terminal"

inductive Event where
  | reconciled (outcome : Outcome)
  /-- A new instance was allocated or composed. -/
  | allocated (mode : Mode)
  | forcedRelease
  deriving Repr, DecidableEq

inductive Effect where
  | maas (call : Maas.Call)
  | store (call : Store.Call)
  | clock
  | count (event : Event)
  deriving Repr, DecidableEq

@[reducible] def Effect.Answer : Effect → Type
  | .maas call => call.Reply
  | .store call => call.Reply
  | .clock => Instant
  | .count _ => Unit

/-- A program over the effects of a pass. -/
abbrev Procedure : Type → Type := Program Effect Effect.Answer

/-- A program that may end with a failure. -/
abbrev Pass : Type → Type := ExceptT Failure Procedure

namespace Procedure

def maas (call : Maas.Call) : Procedure call.Reply := Program.request (Effect.maas call)

def store (call : Store.Call) : Procedure call.Reply := Program.request (Effect.store call)

def now : Procedure Instant := Program.request Effect.clock

def count (event : Event) : Procedure Unit := Program.request (Effect.count event)

end Procedure

namespace Pass

/-- Call MAAS and go on with whatever it answers. -/
def tryMaas (call : Maas.Call) : Pass call.Reply := ExceptT.lift (Procedure.maas call)

/-- Call MAAS, where an error fails the pass in this context. -/
def maas (context : String) (call : Maas.Call) : Pass call.Value := do
  match ← tryMaas call with
  | .ok value => pure value
  | .error error => throw (.backend context error)

/-- Call the store, where a failure fails the pass. -/
def store (call : Store.Call) : Pass call.Value := ExceptT.mk (Procedure.store call)

def tryStore (call : Store.Call) : Pass call.Reply := ExceptT.lift (Procedure.store call)

/-- Read the clock as the derivation of a status does. -/
def clock : Pass Lifecycle.ClockReadings := do
  let transition ← ExceptT.lift Procedure.now
  let pass ← ExceptT.lift Procedure.now
  pure ⟨transition, pass⟩

def count (event : Event) : Pass Unit := ExceptT.lift (Procedure.count event)

end Pass

structure Options where
  placement : Placement.Policy := {}
  /-- Deployed when a declaration names no image. -/
  defaultDistroSeries : String := "jammy"
  deriving Repr, DecidableEq

end MachineProvisioning.Engine
