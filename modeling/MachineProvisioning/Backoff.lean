/-! # Backoff

Retried work waits for a Fibonacci number of minutes, up to a limit: each delay is the sum of the two
before it. A success starts the sequence again.
-/

namespace MachineProvisioning

/-- A position in a limited Fibonacci sequence of minutes. -/
structure Backoff where
  first : Nat
  previous : Nat
  current : Nat
  limit : Nat
  deriving Repr, DecidableEq

namespace Backoff

/-- The start of the sequence with this first delay and limit. -/
def start (first limit : Nat) : Backoff := ⟨first, 0, first, limit⟩

/-- The current delay in seconds. -/
def delay (b : Backoff) : Nat := b.current * 60

/-- The next position. Only sums are limited, so a first delay above the limit is kept once. -/
def advance (b : Backoff) : Backoff :=
  { b with previous := b.current, current := min (b.previous + b.current) b.limit }

def reset (b : Backoff) : Backoff := start b.first b.limit

end Backoff

/-- The failures in a row of one declared machine. -/
structure RetryState where
  backoff : Backoff
  failures : Nat
  deriving Repr, DecidableEq

namespace RetryState

/-- No failure yet: delays start at one minute and end at ten. -/
def fresh : RetryState := ⟨.start 1 10, 0⟩

/-- One more failure, and the seconds to wait after it. -/
def fail (state : RetryState) : Nat × RetryState :=
  (state.backoff.delay, ⟨state.backoff.advance, state.failures + 1⟩)

def reset (state : RetryState) : RetryState := ⟨state.backoff.reset, 0⟩

end RetryState

end MachineProvisioning
