import MachineProvisioning.Engine.Effect
import MachineProvisioning.Table

/-! # Metrics

Counters of passes, new instances and forced releases, the durations of passes, and whether the
watcher runs.
-/

namespace MachineProvisioning.Telemetry

/-- Observations in buckets by upper bounds. -/
structure Histogram where
  /-- Increasing upper bounds, each with the number of observations in its own bucket. -/
  buckets : List (Float × Nat)
  sum : Float
  count : Nat

namespace Histogram

/-- No observation yet. -/
def ofBounds (bounds : List Float) : Histogram :=
  ⟨bounds.map (·, 0), 0, 0⟩

/-- The buckets with one more observation, in the first bucket whose bound it does not exceed. -/
def place (value : Float) : List (Float × Nat) → List (Float × Nat)
  | [] => []
  | (bound, n) :: rest =>
      if value ≤ bound then (bound, n + 1) :: rest else (bound, n) :: place value rest

def observe (h : Histogram) (value : Float) : Histogram :=
  ⟨place value h.buckets, h.sum + value, h.count + 1⟩

/-- The bounds with the numbers of observations up to them, after `seen` smaller ones. -/
def cumulate (seen : Nat) : List (Float × Nat) → List (Float × Nat)
  | [] => []
  | (bound, n) :: rest => (bound, seen + n) :: cumulate (seen + n) rest

end Histogram

/-- What is measured. -/
structure Metrics where
  /-- Passes by result. -/
  reconciliations : Table String Nat := .empty
  /-- New instances by mode. -/
  allocations : Table String Nat := .empty
  forcedReleases : Nat := 0
  /-- Durations of passes in seconds. -/
  durations : Histogram := .ofBounds [0.05, 0.1, 0.25, 0.5, 1, 2.5, 5, 10, 30, 60]
  /-- The watcher runs. -/
  ready : Bool := false

namespace Metrics

/-- A table with one more of a label. -/
def increment (counts : Table String Nat) (label : String) : Table String Nat :=
  counts.insert label ((counts.get? label).getD 0 + 1)

def countReconciliation (m : Metrics) (result : String) : Metrics :=
  { m with reconciliations := increment m.reconciliations result }

def countAllocation (m : Metrics) (mode : String) : Metrics :=
  { m with allocations := increment m.allocations mode }

def countForcedRelease (m : Metrics) : Metrics :=
  { m with forcedReleases := m.forcedReleases + 1 }

def observe (m : Metrics) (seconds : Float) : Metrics :=
  { m with durations := m.durations.observe seconds }

def record (m : Metrics) : Engine.Event → Metrics
  | .reconciled outcome => m.countReconciliation outcome.name
  | .allocated mode => m.countAllocation mode.name
  | .forcedRelease => m.countForcedRelease

end Metrics

end MachineProvisioning.Telemetry
