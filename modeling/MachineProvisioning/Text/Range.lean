/-! # Ranges of code points

Tables of character properties are lists of closed ranges in increasing order.
-/

namespace MachineProvisioning.Text

/-- Membership in a list of closed ranges that increase and do not overlap. -/
def inRanges : List (Nat × Nat) → Nat → Bool
  | [], _ => false
  | (low, high) :: rest, n => if n < low then false else n ≤ high || inRanges rest n

end MachineProvisioning.Text
