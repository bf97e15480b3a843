import MachineProvisioning.Failure
import MachineProvisioning.Program

/-! # Conflicting writes

A write that met another writer is tried again, with a fresh read, a limited number of times.
-/

namespace MachineProvisioning.Store

variable {Op : Type} {Answer : Op → Type} {α : Type}

/-- The result is a conflict with another writer. -/
def isConflict : Except KubeError α → Bool
  | .error error => error.isConflict
  | .ok _ => false

/-- Make an attempt, and up to `more` further ones while they end in a conflict. -/
def attemptAgain (attempt : Program Op Answer (Except KubeError α)) :
    (more : Nat) → Program Op Answer (Except KubeError α)
  | 0 => attempt
  | more + 1 => do
      let result ← attempt
      if isConflict result then attemptAgain attempt more else pure result

/-- Make up to `attempts` attempts, at least one, while they end in a conflict. -/
def retryOnConflict (attempts : Nat) (attempt : Program Op Answer (Except KubeError α)) :
    Program Op Answer (Except KubeError α) :=
  attemptAgain attempt (attempts - 1)

end MachineProvisioning.Store
