import Mathlib.Data.List.Nodup
import MachineProvisioning.Placement.Selection
import MachineProvisioning.Proofs.Engine.Passes

/-! # The best host

The choice of a host is compared with its description: of the eligible hosts in the first tier that
has any, the first one that none is preferred to. A host is looked at once at most, and what was seen
then is remembered; so a choice is determined by one reading of all machines. The invariant is that
exactly the hosts looked at so far are remembered, each with what the reading says about it.
-/

namespace MachineProvisioning.Placement

open Engine (Procedure Transcript)
open Maas (VmHost)
open Program (Trace)

/-- What MAAS says about the machine under each host. -/
abbrev Reading : Type := VmHost → Except Maas.Error Maas.Machine

/-- MAAS shows a machine that no tag takes out of placement, or knows no machine. -/
inductive Admissible (policy : Policy) : Except Maas.Error Maas.Machine → Prop where
  | shown {machine : Maas.Machine} (untagged : ∀ tag ∈ machine.tagNames, tag ∉ policy.maintenanceTags) :
      Admissible policy (.ok machine)
  | unknown (detail : String) : Admissible policy (.error (.notFound detail))

/-- No tag takes the host or its machine out of placement, and its machine can be read if MAAS knows
    it. -/
structure Eligible (policy : Policy) (reading : Reading) (host : VmHost) : Prop where
  untagged : ∀ tag ∈ host.tags, tag ∉ policy.maintenanceTags
  admissible : host.backingMachine?.isSome → Admissible policy (reading host)

/-- A machine that is deployed and powered comes first, no machine second, any other machine last. -/
def preference (reading : Reading) (host : VmHost) : Nat :=
  match host.backingMachine?, reading host with
  | some _, .ok machine =>
      if Lifecycle.State.ofText machine.statusName = .deployed ∧
        Lifecycle.Power.ofText machine.powerState = .on then 0 else 2
  | _, _ => 1

/-- An eligible host that precedes the others of its rank, while none has a better one. -/
def IsBest (policy : Policy) (reading : Reading) (candidates : List VmHost) (host : VmHost) : Prop :=
  ∃ before after, candidates = before ++ host :: after ∧ Eligible policy reading host ∧
    (∀ other ∈ before, Eligible policy reading other →
      preference reading host < preference reading other) ∧
    ∀ other ∈ after, Eligible policy reading other →
      preference reading host ≤ preference reading other

/-- No host that the tier admits is eligible. -/
def Barren (policy : Policy) (reading : Reading) (hosts : List VmHost) (tier : Tier) : Prop :=
  ∀ host ∈ hosts, tier.admits host → ¬ Eligible policy reading host

/-- The assessment that an answer about its machine gives a host. -/
def verdict (policy : Policy) (host : VmHost) (answer : Except Maas.Error Maas.Machine) : Assessment :=
  if policy.excludes host.tags then .excluded
  else if host.backingMachine?.isNone then .outOfBand else assessMachine policy answer

/-- The look at the machine of a host, where there is one. -/
def look (policy : Policy) (host : VmHost) (answer : Except Maas.Error Maas.Machine) : Transcript :=
  match policy.excludes host.tags, host.backingMachine? with
  | false, some systemId => [⟨.maas (.getMachine systemId), answer⟩]
  | _, _ => []

theorem trace_assess_iff {policy : Policy} {host : VmHost} {exchanges : Transcript}
    {assessment : Assessment} : Trace (assess policy host) exchanges assessment ↔
      ∃ answer, exchanges = look policy host answer ∧ assessment = verdict policy host answer := by
  unfold assess look verdict
  cases policy.excludes host.tags with
  | true =>
      constructor
      · rintro ⟨⟩
        exact ⟨.error (.notFound ""), rfl, rfl⟩
      · rintro ⟨answer, rfl, rfl⟩
        exact .done _
  | false =>
      cases host.backingMachine? with
      | none =>
          constructor
          · rintro ⟨⟩
            exact ⟨.error (.notFound ""), rfl, rfl⟩
          · rintro ⟨answer, rfl, rfl⟩
            exact .done _
      | some systemId =>
          constructor
          · intro trace
            cases trace with
            | ask answer rest =>
                cases rest
                exact ⟨answer, rfl, rfl⟩
          · rintro ⟨answer, rfl, rfl⟩
            have asked : Trace (Procedure.maas (.getMachine systemId))
                [⟨.maas (.getMachine systemId), answer⟩] answer := Program.trace_request _
            exact asked.bind (.done _)

theorem not_excludes_iff {policy : Policy} {tags : List String} :
    policy.excludes tags = false ↔ ∀ tag ∈ tags, tag ∉ policy.maintenanceTags := by
  simp [Policy.excludes]

theorem assessMachine_of_untagged {policy : Policy} {machine : Maas.Machine}
    (untagged : ∀ tag ∈ machine.tagNames, tag ∉ policy.maintenanceTags) :
    assessMachine policy (.ok machine) =
      if Lifecycle.State.ofText machine.statusName = .deployed ∧
        Lifecycle.Power.ofText machine.powerState = .on then .healthy else .degraded :=
  if_neg (Bool.eq_false_iff.mp (not_excludes_iff.mpr untagged))

/-- Some machine, or none, ranks a host exactly when the host may be chosen with it. -/
theorem rank_assessMachine_isSome_iff {policy : Policy} {answer : Except Maas.Error Maas.Machine} :
    (assessMachine policy answer).rank.isSome ↔ Admissible policy answer := by
  constructor
  · intro ranked
    cases answer with
    | ok machine =>
        refine .shown (not_excludes_iff.mp ?_)
        cases tagged : policy.excludes machine.tagNames with
        | false => rfl
        | true => simp [assessMachine, tagged, Assessment.rank] at ranked
    | error error =>
        cases error with
        | notFound detail => exact .unknown detail
        | _ => cases ranked
  · intro admissible
    cases admissible with
    | shown untagged =>
        rw [assessMachine_of_untagged untagged]
        split <;> rfl
    | unknown detail => rfl

/-- A host is ranked exactly when it is eligible, -/
theorem rank_verdict_isSome_iff {policy : Policy} {reading : Reading} {host : VmHost} :
    (verdict policy host (reading host)).rank.isSome ↔ Eligible policy reading host := by
  unfold verdict
  cases tagged : policy.excludes host.tags with
  | true =>
      refine iff_of_false nofun fun eligible => ?_
      rw [not_excludes_iff.mpr eligible.untagged] at tagged
      cases tagged
  | false =>
      have untagged := not_excludes_iff.mp tagged
      cases machine : host.backingMachine? with
      | none => exact iff_of_true rfl ⟨untagged, fun known => by simp [machine] at known⟩
      | some systemId =>
          refine rank_assessMachine_isSome_iff.trans ⟨fun admissible => ⟨untagged, fun _ => admissible⟩, ?_⟩
          exact fun eligible => eligible.admissible (by simp [machine])

/-- and its rank is then what it is preferred by. -/
theorem rank_verdict_eq {policy : Policy} {reading : Reading} {host : VmHost}
    (eligible : Eligible policy reading host) :
    (verdict policy host (reading host)).rank = some (preference reading host) := by
  obtain ⟨untagged, admissible⟩ := eligible
  unfold verdict preference
  rw [not_excludes_iff.mpr untagged]
  cases machine : host.backingMachine? with
  | none => rfl
  | some systemId =>
      have admissible := admissible (by simp [machine])
      generalize reading host = answer at admissible ⊢
      cases admissible with
      | shown untagged =>
          simp only [Bool.false_eq_true, if_false, Option.isNone_some, assessMachine_of_untagged untagged]
          split <;> rfl
      | unknown detail => rfl

variable {policy : Policy} {reading : Reading} {hosts candidates : List VmHost}

/-- The hosts with what the reading says about each. -/
def judged (policy : Policy) (reading : Reading) (hosts : List VmHost) : List (VmHost × Assessment) :=
  hosts.map fun host => (host, verdict policy host (reading host))

theorem IsBest.cons {host first : VmHost} (best : IsBest policy reading candidates host)
    (worse : Eligible policy reading first → preference reading host < preference reading first) :
    IsBest policy reading (first :: candidates) host := by
  obtain ⟨before, after, rfl, eligible, earlier, later⟩ := best
  refine ⟨first :: before, after, rfl, eligible, fun other mem => ?_, later⟩
  cases mem with
  | head => exact worse
  | tail _ mem => exact earlier other mem

/-- Either the best so far stays, since nothing that follows is better, or the best that follows is
    better than it. -/
theorem bestOf_judged {best : Option (Nat × VmHost)} {rank : Nat} {host : VmHost}
    (chosen : bestOf best (judged policy reading candidates) = some (rank, host)) :
    (best = some (rank, host) ∧
        ∀ other ∈ candidates, Eligible policy reading other → rank ≤ preference reading other) ∨
      (rank = preference reading host ∧ IsBest policy reading candidates host ∧
        ∀ least former, best = some (least, former) → rank < least) := by
  induction candidates generalizing best with
  | nil => exact .inl ⟨chosen, nofun⟩
  | cons first rest ih =>
      rw [judged, List.map_cons, bestOf] at chosen
      by_cases eligible : Eligible policy reading first
      · rw [rank_verdict_eq eligible] at chosen
        -- The first host takes over when it is better than the best so far.
        have takesOver (less : ∀ least former, best = some (least, former) →
            preference reading first < least)
            (taken : bestOf (some (preference reading first, first)) (judged policy reading rest) =
              some (rank, host)) :
            rank = preference reading host ∧ IsBest policy reading (first :: rest) host ∧
              ∀ least former, best = some (least, former) → rank < least := by
          obtain ⟨same, later⟩ | ⟨rfl, isBest, better⟩ := ih taken
          · cases same
            exact ⟨rfl, ⟨[], rest, rfl, eligible, nofun, later⟩, less⟩
          · have better := better _ _ rfl
            refine ⟨rfl, isBest.cons fun _ => better, fun least former same => ?_⟩
            exact Nat.lt_trans better (less least former same)
        cases best with
        | none => exact .inr (takesOver nofun chosen)
        | some former =>
            obtain ⟨least, former⟩ := former
            dsimp only at chosen
            split at chosen
            · next less =>
                refine .inr (takesOver (fun least' former' same => ?_) chosen)
                cases same
                exact less
            · next notLess =>
                have atLeast := Nat.not_lt.mp notLess
                obtain ⟨same, later⟩ | ⟨rfl, isBest, better⟩ := ih chosen
                · cases same
                  refine .inl ⟨rfl, fun other mem => ?_⟩
                  cases mem with
                  | head => exact fun _ => atLeast
                  | tail _ mem => exact later other mem
                · have better := better _ _ rfl
                  refine .inr ⟨rfl, isBest.cons fun _ => Nat.lt_of_lt_of_le better atLeast, ?_⟩
                  intro least' former' same
                  cases same
                  exact better
      · have unranked : (verdict policy first (reading first)).rank = none :=
          Option.not_isSome_iff_eq_none.mp (mt rank_verdict_isSome_iff.mp eligible)
        rw [unranked] at chosen
        obtain ⟨same, later⟩ | ⟨rfl, isBest, better⟩ := ih chosen
        · refine .inl ⟨same, fun other mem => ?_⟩
          cases mem with
          | head => exact fun h => absurd h eligible
          | tail _ mem => exact later other mem
        · exact .inr ⟨rfl, isBest.cons fun h => absurd h eligible, better⟩

theorem bestOf_judged_eq_none {best : Option (Nat × VmHost)}
    (none : bestOf best (judged policy reading candidates) = none) :
    best = .none ∧ ∀ other ∈ candidates, ¬ Eligible policy reading other := by
  induction candidates generalizing best with
  | nil => exact ⟨none, nofun⟩
  | cons first rest ih =>
      rw [judged, List.map_cons, bestOf] at none
      by_cases eligible : Eligible policy reading first
      · rw [rank_verdict_eq eligible] at none
        cases best with
        | none => cases (ih none).1
        | some former =>
            dsimp only at none
            split at none <;> cases (ih none).1
      · have unranked : (verdict policy first (reading first)).rank = .none :=
          Option.not_isSome_iff_eq_none.mp (mt rank_verdict_isSome_iff.mp eligible)
        rw [unranked] at none
        obtain ⟨same, others⟩ := ih none
        refine ⟨same, fun other mem => ?_⟩
        cases mem with
        | head => exact eligible
        | tail _ mem => exact others other mem

/-! ## Looking at each host once -/

/-- The looks at the machines of these hosts, in order. -/
def looksAt (policy : Policy) (reading : Reading) (hosts : List VmHost) : Transcript :=
  hosts.flatMap fun host => look policy host (reading host)

/-- Exactly the hosts that were seen are known, each with what the reading says about it. -/
def Knows (policy : Policy) (reading : Reading) (hosts : List VmHost) (seen : VmHost → Bool)
    (known : Assessed) : Prop :=
  ∀ host ∈ hosts, known.get? host.id =
    if seen host then some (verdict policy host (reading host)) else none

variable {seen : VmHost → Bool} {known known' : Assessed} {exchanges : Transcript}

theorem Knows.congr {seen' : VmHost → Bool} (knows : Knows policy reading hosts seen known)
    (same : ∀ host ∈ hosts, seen' host = seen host) : Knows policy reading hosts seen' known :=
  fun host mem => by rw [same host mem, knows host mem]

/-- A host that is seen now is known from now on, and about the others nothing changes. -/
theorem Knows.insert (knows : Knows policy reading hosts seen known)
    (distinct : (hosts.map (·.id)).Nodup) {host : VmHost} (mem : host ∈ hosts)
    (answer : Except Maas.Error Maas.Machine) :
    Knows policy (Function.update reading host answer) hosts (fun other => seen other || other = host)
      (known.insert host.id (verdict policy host answer)) := by
  intro other mem'
  rw [Table.get?_insert]
  by_cases same : other = host
  · subst same
    simp
  · have apart : host.id ≠ other.id := fun sameId =>
      same (List.inj_on_of_nodup_map distinct mem mem' sameId).symm
    simp [apart, same, knows other mem']

theorem assessAll_of_known {host : VmHost} {assessment : Assessment}
    (found : known.get? host.id = some assessment) (rest : List VmHost) :
    assessAll policy (host :: rest) known = (do
      let (others, known) ← assessAll policy rest known
      pure ((host, assessment) :: others, known)) := by
  rw [assessAll, found]
  rfl

theorem assessAll_of_unknown {host : VmHost} (missing : known.get? host.id = none)
    (rest : List VmHost) :
    assessAll policy (host :: rest) known = (do
      let assessment ← assess policy host
      let (others, known) ← assessAll policy rest (known.insert host.id assessment)
      pure ((host, assessment) :: others, known)) := by
  rw [assessAll, missing]
  rfl

theorem filter_unseen {host : VmHost} {rest : List VmHost} (fresh : host ∉ rest) :
    rest.filter (fun other => !(seen other || other = host)) = rest.filter (!seen ·) := by
  refine List.filter_congr fun other mem => ?_
  have apart : other ≠ host := fun same => fresh (same ▸ mem)
  simp [apart]

/-- Whatever the answers are, they complete a reading of the hosts that were seen before. -/
theorem trace_assessAll (distinct : (hosts.map (·.id)).Nodup) (nodup : candidates.Nodup)
    (among : ∀ host ∈ candidates, host ∈ hosts) (knows : Knows policy reading hosts seen known)
    {assessed : List (VmHost × Assessment)}
    (trace : Trace (assessAll policy candidates known) exchanges (assessed, known')) :
    ∃ reading', (∀ host, seen host → reading' host = reading host) ∧
      exchanges = looksAt policy reading' (candidates.filter (!seen ·)) ∧
      assessed = judged policy reading' candidates ∧
      Knows policy reading' hosts (fun host => seen host || host ∈ candidates) known' := by
  induction candidates generalizing reading seen known exchanges assessed with
  | nil =>
      cases trace
      exact ⟨reading, fun _ _ => rfl, rfl, rfl, knows.congr (by simp)⟩
  | cons host rest ih =>
      obtain ⟨fresh, nodup⟩ := List.nodup_cons.mp nodup
      have mem := among host (.head rest)
      have among : ∀ other ∈ rest, other ∈ hosts := fun other mem => among other (.tail _ mem)
      have lookup := knows host mem
      cases already : seen host with
      | true =>
          rw [already] at lookup
          rw [assessAll_of_known lookup] at trace
          obtain ⟨_, _, ⟨assessed', known''⟩, rfl, others, done⟩ := trace.of_bind
          cases done
          obtain ⟨reading', agrees, rfl, rfl, knows⟩ := ih nodup among knows others
          refine ⟨reading', agrees, ?_, ?_, knows.congr fun other _ => ?_⟩
          · simp [already]
          · simp [judged, agrees host already]
          · by_cases same : other = host <;> simp [same, already]
      | false =>
          rw [already] at lookup
          rw [assessAll_of_unknown lookup] at trace
          obtain ⟨_, _, assessment, rfl, first, trace⟩ := trace.of_bind
          obtain ⟨_, _, ⟨assessed', known''⟩, rfl, others, done⟩ := trace.of_bind
          cases done
          obtain ⟨answer, rfl, rfl⟩ := trace_assess_iff.mp first
          obtain ⟨reading', agrees, rfl, rfl, knows⟩ :=
            ih nodup among (knows.insert distinct mem answer) others
          have here : reading' host = answer := by
            rw [agrees host (by simp), Function.update_self]
          refine ⟨reading', fun other before => ?_, ?_, ?_, knows.congr fun other _ => ?_⟩
          · have apart : other ≠ host := by
              rintro rfl
              simp [already] at before
            rw [agrees other (by simp [before]), Function.update_of_ne apart]
          · rw [filter_unseen fresh]
            simp [looksAt, already, here]
          · simp [judged, here]
          · by_cases same : other = host <;> simp [same]

/-- Whatever a reading says, the answers can be those. -/
theorem assessAll_traced (distinct : (hosts.map (·.id)).Nodup) (nodup : candidates.Nodup)
    (among : ∀ host ∈ candidates, host ∈ hosts) (knows : Knows policy reading hosts seen known) :
    ∃ known', Trace (assessAll policy candidates known)
        (looksAt policy reading (candidates.filter (!seen ·))) (judged policy reading candidates, known') ∧
      Knows policy reading hosts (fun host => seen host || host ∈ candidates) known' := by
  induction candidates generalizing seen known with
  | nil => exact ⟨known, .done _, knows.congr (by simp)⟩
  | cons host rest ih =>
      obtain ⟨fresh, nodup⟩ := List.nodup_cons.mp nodup
      have mem := among host (.head rest)
      have among : ∀ other ∈ rest, other ∈ hosts := fun other mem => among other (.tail _ mem)
      have lookup := knows host mem
      cases already : seen host with
      | true =>
          rw [already] at lookup
          obtain ⟨known', trace, knows⟩ := ih nodup among knows
          refine ⟨known', ?_, knows.congr fun other _ => ?_⟩
          · rw [assessAll_of_known lookup, List.filter_cons_of_neg (by simp [already]),
              ← List.append_nil (looksAt ..)]
            exact trace.bind (.done _)
          · by_cases same : other = host <;> simp [same, already]
      | false =>
          rw [already] at lookup
          have knows := knows.insert distinct mem (reading host)
          rw [Function.update_eq_self] at knows
          obtain ⟨known', trace, knows⟩ := ih nodup among knows
          rw [filter_unseen fresh] at trace
          refine ⟨known', ?_, knows.congr fun other _ => ?_⟩
          · rw [assessAll_of_unknown lookup, List.filter_cons_of_pos (by simp [already]),
              ← List.append_nil (looksAt ..), looksAt, List.flatMap_cons, List.append_assoc]
            exact (trace_assess_iff.mpr ⟨reading host, rfl, rfl⟩).bind (trace.bind (.done _))
          · by_cases same : other = host <;> simp [same]

/-! ## Tier by tier -/

instance {host : VmHost} : Decidable (Eligible policy reading host) :=
  decidable_of_iff _ rank_verdict_isSome_iff

instance {tier : Tier} : Decidable (Barren policy reading hosts tier) :=
  inferInstanceAs (Decidable (∀ host ∈ hosts, tier.admits host → ¬ Eligible policy reading host))

/-- The looks at machines, tier by tier at hosts that no tier before admits, up to the first tier with
    an eligible host. -/
def looks (policy : Policy) (reading : Reading) (hosts : List VmHost) : List Tier → List Tier → Transcript
  | _, [] => []
  | passed, tier :: rest =>
      looksAt policy reading
          ((hosts.filter tier.admits).filter fun host => !passed.any (·.admits host)) ++
        if Barren policy reading hosts tier then looks policy reading hosts (tier :: passed) rest else []

/-- The host is the best one of the first tier that has an eligible host. -/
def IsChoice (policy : Policy) (reading : Reading) (hosts : List VmHost) (tiers : List Tier)
    (host : VmHost) : Prop :=
  ∃ passed tier rest, tiers = passed ++ tier :: rest ∧
    (∀ former ∈ passed, Barren policy reading hosts former) ∧
    IsBest policy reading (hosts.filter tier.admits) host

variable {tier : Tier} {passed remaining : List Tier} {choice : Option VmHost}

theorem Eligible.congr {reading' : Reading} {host : VmHost} (eligible : Eligible policy reading host)
    (same : reading' host = reading host) : Eligible policy reading' host :=
  ⟨eligible.untagged, fun known => same ▸ eligible.admissible known⟩

theorem admits_iff {host : VmHost} : tier.admits host ↔
    (∀ name, tier.zone = some name → host.zone.map (·.name) = some name) ∧
      ∀ name, tier.pool = some name → host.pool.map (·.name) = some name := by
  obtain ⟨zone, pool⟩ := tier
  cases zone <;> cases pool <;> simp [Tier.admits]

theorem IsBest.mem {host : VmHost} (best : IsBest policy reading candidates host) :
    host ∈ candidates := by
  obtain ⟨before, after, rfl, -⟩ := best
  simp

theorem not_barren_of_best {host : VmHost}
    (best : IsBest policy reading (hosts.filter tier.admits) host) :
    ¬ Barren policy reading hosts tier := by
  obtain ⟨mem, admitted⟩ := List.mem_filter.mp best.mem
  obtain ⟨before, after, -, eligible, -⟩ := best
  exact fun barren => barren host mem admitted eligible

theorem barren_of_bestOf {best : Option (Nat × VmHost)}
    (none : bestOf best (judged policy reading (hosts.filter tier.admits)) = none) :
    Barren policy reading hosts tier :=
  fun host mem admitted => (bestOf_judged_eq_none none).2 host (List.mem_filter.mpr ⟨mem, admitted⟩)

theorem isBest_of_bestOf {rank : Nat} {host : VmHost}
    (chosen : bestOf none (judged policy reading candidates) = some (rank, host)) :
    IsBest policy reading candidates host := by
  obtain ⟨nothing, -⟩ | ⟨-, best, -⟩ := bestOf_judged chosen
  · cases nothing
  · exact best

/-- What is chosen of these tiers: a host, unless no tier has an eligible one. -/
def Chooses (policy : Policy) (reading : Reading) (hosts : List VmHost) (tiers : List Tier) :
    Option VmHost → Prop
  | some host => IsChoice policy reading hosts tiers host
  | none => ∀ tier ∈ tiers, Barren policy reading hosts tier

theorem Chooses.cons (chooses : Chooses policy reading hosts remaining choice)
    (barren : Barren policy reading hosts tier) :
    Chooses policy reading hosts (tier :: remaining) choice := by
  cases choice with
  | none => exact List.forall_mem_cons.mpr ⟨barren, chooses⟩
  | some host =>
      obtain ⟨former, last, after, rfl, earlier, best⟩ := chooses
      exact ⟨tier :: former, last, after, rfl, List.forall_mem_cons.mpr ⟨barren, earlier⟩, best⟩

theorem Knows.advance (knows : Knows policy reading hosts
      (fun host => passed.any (·.admits host) || host ∈ hosts.filter tier.admits) known) :
    Knows policy reading hosts (fun host => (tier :: passed).any (·.admits host)) known :=
  knows.congr fun host mem => by simp [mem, Bool.or_comm]

/-- What is chosen, with the reading that the answers make up. -/
theorem trace_selectFrom (distinct : (hosts.map (·.id)).Nodup)
    (knows : Knows policy reading hosts (fun host => passed.any (·.admits host)) known)
    (trace : Trace (selectFrom policy hosts remaining known) exchanges choice) :
    ∃ reading', (∀ host, passed.any (·.admits host) → reading' host = reading host) ∧
      exchanges = looks policy reading' hosts passed remaining ∧
      Chooses policy reading' hosts remaining choice := by
  induction remaining generalizing reading passed known exchanges with
  | nil =>
      cases trace
      exact ⟨reading, fun _ _ => rfl, rfl, nofun⟩
  | cons tier rest ih =>
      unfold selectFrom at trace
      obtain ⟨_, _, ⟨assessed, known₁⟩, rfl, looked, trace⟩ := trace.of_bind
      obtain ⟨reading₁, agrees, rfl, rfl, knows⟩ := trace_assessAll distinct
        (distinct.of_map.filter _) (fun host mem => List.mem_of_mem_filter mem) knows looked
      dsimp only at trace
      cases found : bestOf none (judged policy reading₁ (hosts.filter tier.admits)) with
      | some best =>
          obtain ⟨rank, host⟩ := best
          rw [found] at trace
          cases trace
          have best := isBest_of_bestOf found
          refine ⟨reading₁, agrees, ?_, [], tier, rest, rfl, nofun, best⟩
          rw [looks, if_neg (not_barren_of_best best)]
      | none =>
          rw [found] at trace
          obtain ⟨reading', agrees', rfl, chooses⟩ := ih knows.advance trace
          have same {host : VmHost} (admitted : tier.admits host) : reading' host = reading₁ host :=
            agrees' host (by simp [admitted])
          have here : Barren policy reading' hosts tier := fun host mem admitted eligible =>
            barren_of_bestOf found host mem admitted (eligible.congr (same admitted).symm)
          refine ⟨reading', fun host before => ?_, ?_, chooses.cons here⟩
          · rw [agrees' host (by simp only [List.any_cons, before, Bool.or_true]), agrees host before]
          · rw [looks, if_pos here]
            congr 1
            refine List.flatMap_congr fun host mem => ?_
            rw [same (List.of_mem_filter (List.mem_of_mem_filter mem))]

/-- What is chosen when the answers are those of a reading. -/
theorem selectFrom_traced (distinct : (hosts.map (·.id)).Nodup)
    (knows : Knows policy reading hosts (fun host => passed.any (·.admits host)) known) :
    ∃ choice, Trace (selectFrom policy hosts remaining known)
        (looks policy reading hosts passed remaining) choice ∧
      Chooses policy reading hosts remaining choice := by
  induction remaining generalizing passed known with
  | nil => exact ⟨none, .done _, nofun⟩
  | cons tier rest ih =>
      obtain ⟨known', looked, knows⟩ := assessAll_traced distinct
        (distinct.of_map.filter tier.admits) (fun host mem => List.mem_of_mem_filter mem) knows
      unfold selectFrom looks
      cases found : bestOf none (judged policy reading (hosts.filter tier.admits)) with
      | some best =>
          obtain ⟨rank, host⟩ := best
          have best := isBest_of_bestOf found
          refine ⟨some host, looked.bind ?_, [], tier, rest, rfl, nofun, best⟩
          rw [if_neg (not_barren_of_best best)]
          dsimp only
          rw [found]
          exact .done _
      | none =>
          have barren := barren_of_bestOf found
          obtain ⟨choice, trace, chooses⟩ := ih knows.advance
          refine ⟨choice, looked.bind ?_, chooses.cons barren⟩
          rw [if_pos barren]
          dsimp only
          rw [found]
          exact trace

/-! ## The choice -/

/-- The result that a reading calls for. When no tier has an eligible host, none is available. Otherwise
    the best host of the first tier that has one is chosen, and it is in the zone and the pool asked for
    when neither may go. -/
structure IsResult (policy : Policy) (order : Relaxation) (hosts : List VmHost)
    (zone pool : Option String) (reading : Reading) (result : Except ProvisioningFailure VmHost) :
    Prop where
  unavailable : (∀ tier ∈ tiers order zone pool, Barren policy reading hosts tier) →
    ∃ failure, result = .error failure ∧ failure.kind = .hostUnavailable
  chosen : (∃ tier ∈ tiers order zone pool, ¬ Barren policy reading hosts tier) →
    ∃ host, result = .ok host ∧ IsChoice policy reading hosts (tiers order zone pool) host
  strict : order = .strict → ∀ host, result = .ok host →
    (∀ name, zone = some name → host.zone.map (·.name) = some name) ∧
      ∀ name, pool = some name → host.pool.map (·.name) = some name

variable {order : Relaxation} {zone pool : Option String}

theorem isResult_none (nothing : Chooses policy reading hosts (tiers order zone pool) none) :
    IsResult policy order hosts zone pool reading
      (.error (noHost order hosts.length zone pool)) where
  unavailable _ := ⟨_, rfl, rfl⟩
  chosen := by
    rintro ⟨tier, mem, fertile⟩
    exact absurd (nothing tier mem) fertile
  strict := nofun

theorem isResult_some {host : VmHost}
    (choice : Chooses policy reading hosts (tiers order zone pool) (some host)) :
    IsResult policy order hosts zone pool reading (.ok host) := by
  have ⟨passed, tier, rest, split, _, best⟩ := choice
  have mem : tier ∈ tiers order zone pool := split ▸ by simp
  constructor
  · exact fun barren => absurd (barren tier mem) (not_barren_of_best best)
  · exact fun _ => ⟨host, rfl, choice⟩
  · rintro rfl _ ⟨⟩
    obtain rfl : tier = ⟨zone, pool⟩ := List.mem_singleton.mp mem
    exact admits_iff.mp (List.of_mem_filter best.mem)

/-- For every reading of the machines under the hosts there is a choice that goes by it, and every choice
    goes by a reading: what it looks at and its result are the ones that the reading calls for. -/
theorem selects_best_host (policy : Policy) (order : Relaxation) (hosts : List VmHost)
    (zone pool : Option String) (distinct : (hosts.map (·.id)).Nodup) :
    (∀ reading, ∃ result, Trace (select policy order hosts zone pool)
        (looks policy reading hosts [] (tiers order zone pool)) result ∧
      IsResult policy order hosts zone pool reading result) ∧
    ∀ exchanges result, Trace (select policy order hosts zone pool) exchanges result →
      ∃ reading, exchanges = looks policy reading hosts [] (tiers order zone pool) ∧
        IsResult policy order hosts zone pool reading result := by
  have knows (reading : Reading) : Knows policy reading hosts (fun host => [].any (Tier.admits · host))
      .empty := fun host _ => rfl
  refine ⟨fun reading => ?_, fun exchanges result trace => ?_⟩
  · obtain ⟨choice, trace, chooses⟩ := selectFrom_traced distinct (knows reading)
    rw [← List.append_nil (looks ..)]
    cases choice with
    | none => exact ⟨_, trace.bind (.done _), isResult_none chooses⟩
    | some host => exact ⟨_, trace.bind (.done _), isResult_some chooses⟩
  · obtain ⟨_, _, choice, rfl, chosen, done⟩ := trace.of_bind
    obtain ⟨reading, -, rfl, chooses⟩ :=
      trace_selectFrom distinct (knows fun _ => .error .transport) chosen
    cases choice with
    | none =>
        cases done
        exact ⟨reading, List.append_nil _, isResult_none chooses⟩
    | some host =>
        cases done
        exact ⟨reading, List.append_nil _, isResult_some chooses⟩

/-- A host in the first zone. -/
def rackHost (id : UInt64) (pool : String) (machine : Option String) (tags : List String) : VmHost where
  id := id
  name := "host-" ++ Text.decimal id.toNat
  kind := "lxd"
  zone := some ⟨1, "z1"⟩
  pool := some ⟨1, pool⟩
  machine := machine
  available := default
  tags := tags

/-- The only host of the pool is under maintenance, the next one has a machine that is not deployed,
    the last one has none. -/
def rack : List VmHost :=
  [rackHost 1 "p1" none ["maintenance"], rackHost 2 "p2" (some "m2") [], rackHost 3 "p2" none []]

/-- The last host of the rack is the best of the second tier. -/
theorem selects_best_host_rack :
    (rack.map (·.id)).Nodup ∧
      ∃ reading, IsChoice {} reading rack (tiers .poolThenZone (some "z1") (some "p1"))
        (rackHost 3 "p2" none []) := by
  have distinct : (rack.map (·.id)).Nodup := by decide
  have asked : Trace (select {} .poolThenZone rack (some "z1") (some "p1"))
      [⟨.maas (.getMachine "m2"), .ok { (default : Maas.Machine) with statusName := "Ready" }⟩]
      (.ok (rackHost 3 "p2" none [])) := .ask _ (.done _)
  obtain ⟨reading, -, result⟩ :=
    (selects_best_host {} .poolThenZone rack (some "z1") (some "p1") distinct).2 _ _ asked
  have fertile : ¬ Barren {} reading rack ⟨some "z1", none⟩ := fun barren =>
    barren (rackHost 3 "p2" none []) (by decide) (by decide) ⟨nofun, nofun⟩
  obtain ⟨host, same, isChoice⟩ := result.chosen ⟨⟨some "z1", none⟩, by decide, fertile⟩
  cases same
  exact ⟨distinct, reading, isChoice⟩

end MachineProvisioning.Placement
