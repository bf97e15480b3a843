import MachineProvisioning.Engine.Effect
import MachineProvisioning.Text.Numeral

/-! # Choosing a VM host

Hosts are considered tier by tier. Within a tier a host whose machine is deployed and powered wins
over one that MAAS knows no machine of, and that one over a host whose machine is in any other
state; of equals the first one wins. Hosts under maintenance, or with a machine that cannot be read,
are never chosen. Each host is assessed at most once.
-/

namespace MachineProvisioning.Placement

open Engine (Procedure Pass)
open Maas (VmHost)

/-- What speaks for a host. -/
inductive Assessment where
  /-- Its machine is deployed and powered. -/
  | healthy
  /-- MAAS knows no machine of it. -/
  | outOfBand
  /-- Its machine is in some other state. -/
  | degraded
  /-- It is under maintenance, or its machine cannot be read. -/
  | excluded
  deriving Repr, DecidableEq

/-- The preference among assessments, the least first; excluded hosts have none. -/
def Assessment.rank : Assessment → Option Nat
  | .healthy => some 0
  | .outOfBand => some 1
  | .degraded => some 2
  | .excluded => none

def Tier.admits (tier : Tier) (host : VmHost) : Bool :=
  (match tier.zone with
    | none => true
    | some zone => host.zone.map (·.name) == some zone) &&
  (match tier.pool with
    | none => true
    | some pool => host.pool.map (·.name) == some pool)

/-- One of the tags takes the host out of placement. -/
def Policy.excludes (policy : Policy) (tags : List String) : Bool :=
  tags.any policy.maintenanceTags.contains

/-- What the answer to a look at its machine says about a host. -/
def assessMachine (policy : Policy) : Except Maas.Error Maas.Machine → Assessment
  | .ok machine =>
      if policy.excludes machine.tagNames then .excluded
      else if Lifecycle.State.ofText machine.statusName = .deployed ∧
          Lifecycle.Power.ofText machine.powerState = .on then .healthy
      else .degraded
  | .error (.notFound _) => .outOfBand
  | .error _ => .excluded

/-- Assess a host, with a look at its machine where MAAS knows one. -/
def assess (policy : Policy) (host : VmHost) : Procedure Assessment := do
  if policy.excludes host.tags then pure .excluded
  else
    match host.backingMachine? with
    | none => pure .outOfBand
    | some systemId => return assessMachine policy (← Procedure.maas (.getMachine systemId))

/-- Assessments by the number of the host. -/
abbrev Assessed := Table UInt64 Assessment

/-- The hosts with their assessments, made now where there is none yet. -/
def assessAll (policy : Policy) : List VmHost → Assessed →
    Procedure (List (VmHost × Assessment) × Assessed)
  | [], known => pure ([], known)
  | host :: rest, known => do
      let (assessment, known) ← match known.get? host.id with
        | some assessment => pure (assessment, known)
        | none => do
            let assessment ← assess policy host
            pure (assessment, known.insert host.id assessment)
      let (others, known) ← assessAll policy rest known
      pure ((host, assessment) :: others, known)

/-- The first host with the least rank, no worse than `best`, with its rank. -/
def bestOf (best : Option (Nat × VmHost)) : List (VmHost × Assessment) → Option (Nat × VmHost)
  | [] => best
  | (host, assessment) :: rest =>
      match assessment.rank with
      | none => bestOf best rest
      | some rank =>
          match best with
          | none => bestOf (some (rank, host)) rest
          | some (least, _) => bestOf (if rank < least then some (rank, host) else best) rest

/-- The best host of the first tier that has one. -/
def selectFrom (policy : Policy) (hosts : List VmHost) : List Tier → Assessed →
    Procedure (Option VmHost)
  | [], _ => pure none
  | tier :: tiers, known => do
      let (assessed, known) ← assessAll policy (hosts.filter tier.admits) known
      match bestOf none assessed with
      | some (_, host) => pure (some host)
      | none => selectFrom policy hosts tiers known

/-- Nothing can be chosen. -/
def noHost (order : Relaxation) (considered : Nat) (zone pool : Option String) :
    ProvisioningFailure :=
  ProvisioningFailure.new .hostUnavailable
      ("no eligible VM host in zone " ++ zone.getD "<any>" ++ " pool " ++ pool.getD "<any>" ++ " (" ++
        Text.decimal considered ++ " hosts considered, relaxation " ++ order.name ++ ")")
    |>.withDetail "zone" (zone.getD "")
    |>.withDetail "pool" (pool.getD "")

/-- Choose a host for a zone and a pool, relaxed in this order. -/
def select (policy : Policy) (order : Relaxation) (hosts : List VmHost)
    (zone pool : Option String) : Procedure (Except ProvisioningFailure VmHost) := do
  match ← selectFrom policy hosts (tiers order zone pool) .empty with
  | some host => pure (.ok host)
  | none => pure (.error (noHost order hosts.length zone pool))

end MachineProvisioning.Placement
