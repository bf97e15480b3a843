import MachineProvisioning.Text.Ascii
import MachineProvisioning.Text.Blank

/-! # Relaxing placement

A composition asks for a zone and a pool. When no host has both, the constraints are relaxed tier by
tier, in an order that the settings name.
-/

namespace MachineProvisioning.Placement

/-- Which constraint goes first. -/
inductive Relaxation where
  /-- Neither goes. -/
  | strict
  | poolThenZone
  | zoneThenPool
  deriving Repr, DecidableEq

namespace Relaxation

/-- The order that a text names, up to blanks around it and the case of its letters; otherwise what
    is wrong with it. -/
def ofText (text : String) : Except String Relaxation :=
  match Text.lowerAscii (Text.trim text) with
  | "strict" => .ok .strict
  | "pool-then-zone" => .ok .poolThenZone
  | "zone-then-pool" => .ok .zoneThenPool
  | other =>
      .error ("unknown relaxation order '" ++ other ++
        "' (expected strict, pool-then-zone or zone-then-pool)")

def name : Relaxation → String
  | .strict => "strict"
  | .poolThenZone => "pool-then-zone"
  | .zoneThenPool => "zone-then-pool"

/-- The order when the settings name none. -/
def default : Relaxation := .poolThenZone

instance : Inhabited Relaxation := ⟨default⟩

end Relaxation

/-- A constraint on hosts, where an absent part allows anything. -/
structure Tier where
  zone : Option String
  pool : Option String
  deriving Repr, DecidableEq

/-- The list without elements that equal their neighbour before them. -/
def dedup {α : Type} [DecidableEq α] : List α → List α
  | [] => []
  | [a] => [a]
  | a :: b :: rest => if a = b then dedup (b :: rest) else a :: dedup (b :: rest)

/-- The tiers to try, the narrowest first. -/
def tiers (order : Relaxation) (zone pool : Option String) : List Tier :=
  dedup (⟨zone, pool⟩ :: match order with
    | .strict => []
    | .poolThenZone => [⟨zone, none⟩, ⟨none, none⟩]
    | .zoneThenPool => [⟨none, pool⟩, ⟨none, none⟩])

/-- How hosts are chosen. -/
structure Policy where
  relaxation : Relaxation := .default
  /-- Tags that keep a host from being chosen. -/
  maintenanceTags : List String := ["maintenance", "no-schedule"]
  deriving Repr, DecidableEq

end MachineProvisioning.Placement
