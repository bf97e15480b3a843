import MachineProvisioning.Proofs.Engine.Conclusion
import MachineProvisioning.Proofs.Engine.Silence
import MachineProvisioning.Proofs.World.Repetition

/-! # The transition time

A status is derived by every pass that could load what is recorded, and is published unless it is the
one that is published already. Its only condition keeps its transition time as long as readiness does
not change, so that over the passes of a machine it tells when readiness changed last.
-/

namespace MachineProvisioning.Store.Memory

/-- The status that is published of a machine. -/
def published (memory : Memory) (key : Resource.Key) : Option Resource.Status :=
  (memory.entry key).saved.status

end MachineProvisioning.Store.Memory

namespace MachineProvisioning.Engine

open Program (Exchange)
open Resource (Key Spec Status)
open Lifecycle (Instance ClockReadings)
open Store (Memory Saved)

/-- What is published after a request, when publications do not fail. -/
def publishedAfter (key : Key) (published : Option Status) : Effect → Option Status
  | .store (.publishStatus k status) => if k = key then some status else published
  | _ => published

/-- What is published of a machine, as exchanges read and write it. -/
def publications (key : Key) : Discipline (Option Status) where
  allows _ _ := True
  leads published effect reply after :=
    after = publishedAfter key published effect ∧
      ∀ saved, (⟨effect, reply⟩ : Exchange Effect Effect.Answer) = ⟨.store (.load key), .ok saved⟩ →
        saved.status = published

variable {key : Key} {options : Options} {spec : Spec} {before after : Option Status} {status : Status}
  {clock : ClockReadings} {outcome : Except Failure Instance} {transcript : Transcript}
  {result : Except Failure Action}

theorem publishedAfter_of_silent {effect : Effect} (silent : Silent effect) :
    publishedAfter key before effect = before := by
  unfold publishedAfter
  split
  · exact absurd trivial silent
  · rfl

theorem eq_of_silent (silent : ∀ exchange ∈ transcript, Silent exchange.1)
    (follows : (publications key).Follows before transcript after) : after = before :=
  follows.eq_of_leads_eq fun exchange mem _ leads =>
    leads.1.trans (publishedAfter_of_silent (silent exchange mem))

theorem Publishing.publishes {reply : Except Failure Unit}
    (publishes : Publishing key before status reply transcript)
    (follows : (publications key).Follows before transcript after) : after = some status := by
  cases publishes with
  | unchanged same => exact Eq.trans follows same
  | changed differs reply =>
      obtain ⟨_, ⟨rfl, -⟩, rfl⟩ := follows
      exact if_pos rfl

theorem Publishing.publishes_after_readings {reply : Except Failure Unit}
    (publishes : Publishing key before status reply transcript)
    (follows : (publications key).Follows before (readings clock ++ transcript) after) :
    after = some status := by
  have reads : ∀ exchange ∈ readings clock, Silent exchange.1 := by
    simp [readings, Silent, Effect.IsPublication]
  obtain ⟨_, opens, publishing⟩ := Protocol.follows_append.mp follows
  obtain rfl := eq_of_silent reads opens
  exact publishes.publishes publishing

/-- What a pass concludes with is published after it. -/
theorem Concluding.publishes (concludes : Concluding key before clock outcome result transcript)
    (follows : (publications key).Follows before transcript after) :
    after = some (Lifecycle.conclusion before clock outcome) := by
  cases concludes with
  | seen action publishes =>
      obtain ⟨_, first, ⟨_, ⟨rfl, -⟩, rfl⟩⟩ := Protocol.follows_append.mp follows
      exact publishes.publishes_after_readings first
  | unpublished fails => exact fails.publishes_after_readings follows
  | failed publishes =>
      obtain ⟨_, ⟨rfl, -⟩, rest⟩ := follows
      exact publishes.publishes_after_readings rest

/-- How a reconciliation goes that finds a published status, and what is published after it. -/
inductive Reporting (options : Options) (key : Key) (spec : Spec) (before : Option Status)
    (result : Except Failure Action) : Transcript → Option Status → Prop where
  | unloaded (fault : Failure) :
      Reporting options key spec before result
        [⟨.store (.load key), .error fault⟩, ⟨.count (.reconciled (outcomeOf fault)), ()⟩] before
  | concluded {saved : Saved} {worked concluded : Transcript} {clock : ClockReadings}
      {outcome : Except Failure Instance} (found : saved.status = before)
      (provisions : Program.Trace (provisionFrom options key spec saved).run worked outcome)
      (concludes : Concluding key before clock outcome result concluded) :
      Reporting options key spec before result
        (⟨.store (.load key), .ok saved⟩ :: (worked ++ concluded))
        (some (Lifecycle.conclusion before clock outcome))

theorem reporting_of_trace (trace : Program.Trace (reconcile options key spec).run transcript result)
    (follows : (publications key).Follows before transcript after) :
    Reporting options key spec before result transcript after := by
  cases reconciling_of_trace trace with
  | unloaded fault =>
      obtain rfl := eq_of_silent (by simp [Silent, Effect.IsPublication]) follows
      exact .unloaded fault
  | @concluded saved worked concluded clock outcome _ provisions concludes =>
      obtain ⟨_, ⟨rfl, loaded⟩, goesOn⟩ := follows
      obtain rfl := loaded saved rfl
      have works := (asks_provisionFrom saved).trace provisions
      obtain ⟨_, opens, publishing⟩ := Protocol.follows_append.mp goesOn
      obtain rfl := eq_of_silent (fun exchange mem => (works exchange mem).silent) opens
      obtain rfl := concludes.publishes publishing
      exact .concluded rfl provisions concludes

/-- The time that an exchange tells. -/
def timeTold : Exchange Effect Effect.Answer → Option Instant
  | ⟨.clock, time⟩ => some time
  | _ => none

/-- A status that was derived, with the time of a change. -/
structure Derivation where
  time : Instant
  status : Status
  deriving Repr, DecidableEq

/-- What a pass with these exchanges derives: nothing when it could not load what is recorded, and
    otherwise what follows from the outcome of its work and from the status that it has loaded. -/
def derivation? (options : Options) (key : Key) (spec : Spec) : Transcript → Option Derivation
  | ⟨.store (.load _), .ok saved⟩ :: rest =>
      match (provisionFrom options key spec saved).run.replay rest, rest.filterMap timeTold with
      | some outcome, [transition, pass] =>
          some ⟨transition, Lifecycle.conclusion saved.status ⟨transition, pass⟩ outcome⟩
      | _, _ => none
  | _ => none

theorem timeTold_of_works {exchange : Exchange Effect Effect.Answer} (works : Works exchange.1) :
    timeTold exchange = none := by
  unfold timeTold
  split
  · cases works
  · rfl

theorem times_of_publishing {reply : Except Failure Unit}
    (publishes : Publishing key before status reply transcript) :
    transcript.filterMap timeTold = [] := by
  cases publishes with
  | unchanged same => rfl
  | changed differs reply => rfl

/-- A pass that concludes reads the clock twice. -/
theorem Concluding.times (concludes : Concluding key before clock outcome result transcript) :
    transcript.filterMap timeTold = [clock.transition, clock.pass] := by
  cases concludes with
  | seen action publishes | unpublished publishes | failed publishes =>
      simp [readings, List.filterMap_cons, timeTold, times_of_publishing publishes]

/-- A pass derives a status and publishes it, or it derives nothing and publishes nothing. -/
theorem derives_of_trace (trace : Program.Trace (reconcile options key spec).run transcript result)
    (follows : (publications key).Follows before transcript after) :
    (derivation? options key spec transcript = none ∧ after = before) ∨
      ∃ clock outcome, after = some (Lifecycle.conclusion before clock outcome) ∧
        derivation? options key spec transcript =
          some ⟨clock.transition, Lifecycle.conclusion before clock outcome⟩ := by
  cases reporting_of_trace trace follows with
  | unloaded fault => exact .inl ⟨rfl, rfl⟩
  | @concluded saved worked concluded clock outcome found provisions concludes =>
      subst found
      have works := (asks_provisionFrom saved).trace provisions
      refine .inr ⟨clock, outcome, rfl, ?_⟩
      have replays : (provisionFrom options key spec saved).run.replay (worked ++ concluded) =
          some outcome := Program.replay_eq_some_iff.mpr ⟨worked, concluded, rfl, provisions⟩
      -- Work tells no time, so the only two readings are those of the conclusion.
      have times : (worked ++ concluded).filterMap timeTold = [clock.transition, clock.pass] := by
        have untold : worked.filterMap timeTold = [] :=
          List.filterMap_eq_nil_iff.mpr fun exchange mem => timeTold_of_works (works exchange mem)
        rw [List.filterMap_append, untold, concludes.times, List.nil_append]
      simp [derivation?, replays, times]

/-- The only condition of the status is about readiness, agrees with it and has this transition time. -/
def Marks (status : Status) (time : Instant) : Prop :=
  ∃ condition, status.conditions = [condition] ∧ condition.kind = "Ready" ∧
    condition.status = (if status.ready then "True" else "False") ∧
    condition.lastTransitionTime = some time

variable {time : Instant}

/-- A condition has its transition time kept when readiness is. -/
theorem keptTransitionTime_of_marks (marks : Marks status time) (ready : Bool) :
    Lifecycle.keptTransitionTime (some status) (if ready then "True" else "False") =
      if status.ready = ready then some time else none := by
  obtain ⟨condition, conditions, kind, shown, timed⟩ := marks
  simp only [Lifecycle.keptTransitionTime, Option.bind_eq_bind, Option.bind_some, conditions,
    List.find?_cons, kind, beq_self_eq_true, shown, timed]
  cases status.ready <;> cases ready <;> simp

theorem marks_conclusion :
    Marks (Lifecycle.conclusion before clock outcome)
      ((Lifecycle.keptTransitionTime before
        (if (Lifecycle.conclusion before clock outcome).ready then "True" else "False")).getD
          clock.transition) := by
  obtain ⟨reason, message, conditions⟩ := @Lifecycle.conditions_conclusion before clock outcome
  exact ⟨_, conditions, rfl, rfl, rfl⟩

/-- Readiness has been this since the time of a pass: the statuses derived since then have it, and the
    one before, if there is one, does not. The newest status comes first. -/
def HeldSince (ready : Bool) (time : Instant) (derived : List Derivation) : Prop :=
  ∃ since first older, derived = since ++ first :: older ∧ first.time = time ∧
    (∀ derivation ∈ since ++ [first], derivation.status.ready = ready) ∧
    ∀ derivation ∈ older.head?, derivation.status.ready ≠ ready

variable {derived : List Derivation} {newest : Derivation}

theorem HeldSince.cons (held : HeldSince newest.status.ready time derived) :
    HeldSince newest.status.ready time (newest :: derived) := by
  obtain ⟨since, first, older, rfl, timed, same, changed⟩ := held
  exact ⟨newest :: since, first, older, rfl, timed, List.forall_mem_cons.mpr ⟨rfl, same⟩, changed⟩

theorem heldSince_changed (changed : ∀ derivation ∈ derived.head?,
      derivation.status.ready ≠ newest.status.ready) :
    HeldSince newest.status.ready newest.time (newest :: derived) :=
  ⟨[], newest, derived, rfl, rfl, by simp, changed⟩

/-- What is published is the status that was derived last. Every derived status has one condition,
    which says whether it is ready; the time of the published one is that of the earliest pass since
    which readiness has been the same. -/
structure Dated (published : Option Status) (derived : List Derivation) : Prop where
  newest : published = derived.head?.map (·.status)
  marked : ∀ derivation ∈ derived, ∃ time, Marks derivation.status time
  since : ∀ status, published = some status →
    ∃ time, Marks status time ∧ HeldSince status.ready time derived

/-- A status that is derived keeps the time of the one before it while readiness stays, and is the
    first of its kind otherwise. -/
theorem Dated.conclude (dated : Dated before derived) (clock : ClockReadings)
    (outcome : Except Failure Instance) :
    Dated (some (Lifecycle.conclusion before clock outcome))
      (⟨clock.transition, Lifecycle.conclusion before clock outcome⟩ :: derived) := by
  have marks := @marks_conclusion before clock outcome
  refine ⟨rfl, List.forall_mem_cons.mpr ⟨⟨_, marks⟩, dated.marked⟩, ?_⟩
  rintro status ⟨⟩
  generalize Lifecycle.conclusion before clock outcome = status at marks
  cases before with
  | none =>
      have first : derived.head? = none := Option.map_eq_none_iff.mp dated.newest.symm
      exact ⟨clock.transition, marks,
        @heldSince_changed derived ⟨clock.transition, status⟩ (by simp [first])⟩
  | some earlier =>
      obtain ⟨time, marked, held⟩ := dated.since earlier rfl
      rw [keptTransitionTime_of_marks marked] at marks
      -- The status before is the newest derived one, so a change shows between the two.
      by_cases same : earlier.ready = status.ready
      · rw [if_pos same] at marks
        rw [same] at held
        exact ⟨time, marks, held.cons⟩
      · rw [if_neg same] at marks
        refine ⟨clock.transition, marks, @heldSince_changed derived ⟨clock.transition, status⟩ ?_⟩
        rintro derivation head
        have newest := dated.newest
        rw [Option.mem_def.mp head] at newest
        obtain rfl : earlier = derivation.status := Option.some.inj newest
        exact same

/-- Where an exchange leads a store in memory. Calls can fail too and then change nothing, but
    publications do not. -/
def Remembers (memory : Memory) : (effect : Effect) → effect.Answer → Memory → Prop
  | .store call, reply, next =>
      (reply, next) = memory.answer call ∨
        Silent (.store call) ∧ (∃ fault, reply = .error fault) ∧ next = memory
  | _, _, next => next = memory

/-- A store in memory, with any MAAS and any clock. -/
def remembering : Discipline Memory where
  allows _ _ := True
  leads := Remembers

/-- The statuses that the passes of a machine derive, the newest first, and the memory after them. At
    first nothing is published. Between two passes anything can change but what is published. -/
inductive Course (key : Key) : List Derivation → Memory → Prop where
  | start {memory : Memory} (unpublished : memory.published key = none) : Course key [] memory
  | pass {derived : List Derivation} {earlier memory later : Memory} {options : Options} {spec : Spec}
      {transcript : Transcript} {result : Except Failure Action} (course : Course key derived earlier)
      (kept : memory.published key = earlier.published key)
      (trace : Program.Trace (reconcile options key spec).run transcript result)
      (follows : remembering.Follows memory transcript later) :
      Course key ((derivation? options key spec transcript).toList ++ derived) later

variable {memory later : Memory}

theorem published_answer (memory : Memory) (call : Store.Call) :
    (memory.answer call).2.published key =
      publishedAfter key (memory.published key) (.store call) := by
  cases call with
  | publishStatus k status =>
      exact memory.status_modifySaved k key fun saved => { saved with status := some status }
  | _ => exact memory.status_answer key id

theorem publications_of_remembers {effect : Effect} {reply : effect.Answer}
    (remembers : Remembers memory effect reply later) :
    (publications key).leads (memory.published key) effect reply (later.published key) := by
  cases effect with
  | store call =>
      obtain answers | ⟨silent, ⟨fault, rfl⟩, rfl⟩ := remembers
      · obtain rfl : later = _ := congrArg Prod.snd answers
        obtain rfl : reply = _ := congrArg Prod.fst answers
        refine ⟨published_answer memory call, fun saved same => ?_⟩
        cases call with
        | load k =>
            cases same
            rfl
        | _ => cases same
      · exact ⟨(publishedAfter_of_silent silent).symm, fun saved same => by cases same⟩
  | _ => exact ⟨congrArg (Memory.published · key) remembers, fun saved same => by cases same⟩

theorem publications_of_remembering (follows : remembering.Follows memory transcript later) :
    (publications key).Follows (memory.published key) transcript (later.published key) :=
  follows.view (fun memory => memory.published key) fun _ _ _ _ leads =>
    publications_of_remembers leads

/-- The transition time of what is published is the time of the earliest pass since which every
    status that was derived is as ready. -/
theorem transition_marks_last_change (course : Course key derived memory) :
    Dated (memory.published key) derived := by
  induction course with
  | start unpublished =>
      rw [unpublished]
      exact ⟨rfl, by simp, fun status published => by cases published⟩
  | pass course kept trace follows dated =>
      rw [← kept] at dated
      obtain ⟨nothing, same⟩ | ⟨clock, outcome, published, derives⟩ :=
        derives_of_trace trace (publications_of_remembering follows)
      · rw [nothing, same]
        exact dated
      · rw [derives, published]
        exact dated.conclude clock outcome

/-- A store in memory and a clock that stands still, with a MAAS that shows a deployed machine or
    cannot be reached. -/
def answered (reachable : Bool) (time : Instant) :
    (effect : Effect) → Memory → effect.Answer × Memory
  | .maas (.getMachine _), memory =>
      (if reachable then .ok World.deployedMachine else .error .transport, memory)
  | .maas _, memory => (.error .transport, memory)
  | .store call, memory => memory.answer call
  | .clock, memory => (time, memory)
  | .count _, memory => ((), memory)

def observedKey : Key := ⟨"metal", "worker-0"⟩

/-- What has been derived after another pass, and the memory then. -/
def afterPass (reachable : Bool) (time : Instant) (past : List Derivation × Memory) :
    List Derivation × Memory :=
  let spec : Spec := { minCpu := 1, minMemoryMib := 1 }
  let pass := (reconcile {} observedKey spec).run
  let transcript := pass.exchanges (answered reachable time) past.2
  ((derivation? {} observedKey spec transcript).toList ++ past.1,
    (pass.run (answered reachable time) past.2).2)

theorem course_afterPass {past : List Derivation × Memory} (reachable : Bool) (time : Instant)
    (course : Course observedKey past.1 past.2) :
    Course observedKey (afterPass reachable time past).1 (afterPass reachable time past).2 := by
  refine .pass course rfl (Program.trace_exchanges _ _ _) (Program.follows_exchanges id ?_ _ _)
  intro effect memory
  cases effect with
  | maas call => cases call <;> rfl
  | store call => exact .inl rfl
  | clock => rfl
  | count event => rfl

/-- A recorded machine is seen a minute after MAAS could not be reached, and then MAAS cannot be
    reached again. -/
def flipped : List Derivation × Memory :=
  afterPass false ⟨120, 0⟩ (afterPass true ⟨60, 0⟩ (afterPass false ⟨0, 0⟩
    ([], Store.Memory.modifySaved {} observedKey fun saved =>
      { saved with checkpoint := some (.new "m1" none (some "worker-0")) })))

/-- The machine is ready since the second pass. -/
theorem transition_marks_last_change_flipped :
    Dated (flipped.2.published observedKey) flipped.1 ∧
      flipped.1.map (fun derivation => (derivation.time, derivation.status.ready)) =
        [(⟨120, 0⟩, true), (⟨60, 0⟩, true), (⟨0, 0⟩, false)] ∧
      (flipped.2.published observedKey).map (·.conditions.map (·.lastTransitionTime)) =
        some [some ⟨60, 0⟩] := by
  have course : Course observedKey flipped.1 flipped.2 :=
    course_afterPass false _ (course_afterPass true _ (course_afterPass false _ (.start rfl)))
  exact ⟨transition_marks_last_change course, by decide +kernel, by decide +kernel⟩

end MachineProvisioning.Engine
