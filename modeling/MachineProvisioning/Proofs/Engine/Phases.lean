import MachineProvisioning.Proofs.Engine.Transitions

/-! # Failed phases

The phase of a status is failed after a pass that no other try can help or that has seen a failed
instance. A pass that is worth another try keeps the phase that it finds. So a failed phase goes back
to a pass that has failed for good or has seen the instance fail, but later passes publish it as well.
-/

namespace MachineProvisioning

open Resource (Key Spec Status Phase)
open Lifecycle (Instance ClockReadings)

namespace Lifecycle

variable {previous : Option Status} {clock : ClockReadings}

theorem phase_seen (seen : Instance) :
    (conclusion previous clock (.ok seen)).phase = seen.state.phase := by
  rw [conclusion, observedStatus, stamp_eq]

theorem phase_failure (failure : Failure) :
    (conclusion previous clock (.error failure)).phase =
      phaseAfter failure (previous.getD {}).phase := by
  have kept : (keptAfter failure (previous.getD {})).phase = (previous.getD {}).phase := by
    unfold keptAfter
    split <;> rfl
  rw [conclusion, failureStatus_eq, stamp_eq, ← kept]
  rfl

/-- A failure leads to a failed phase for good, or keeps one. -/
theorem phaseAfter_eq_failed_iff {failure : Failure} {phase : Phase} :
    phaseAfter failure phase = .failed ↔
      failure.released = false ∧ (failure.isRetryable = false ∨ phase = .failed) := by
  cases failure with
  | stillProvisioning systemId reason =>
      simp only [phaseAfter, Failure.released, Failure.isRetryable]
      split
      · next pending => simp [pending]
      · simp
  | _ =>
      simp only [phaseAfter]
      split
      · next released => simp [released]
      · next kept =>
          split
          · next retryable => simp [kept, retryable]
          · next final => simp [kept, final]

end Lifecycle

namespace Engine

open Program (Exchange)
open Store (Memory Saved)

/-- A reconciliation of a machine. -/
structure Round where
  options : Options
  spec : Spec
  transcript : Transcript
  result : Except Failure Action

/-- The status of the machine that an exchange publishes. -/
def statusPublished? (key : Key) : Exchange Effect Effect.Answer → Option Status
  | ⟨.store (.publishStatus k status), _⟩ => if k = key then some status else none
  | _ => none

namespace Round

/-- The statuses that are published of the machine. -/
def statuses (key : Key) (round : Round) : List Status :=
  round.transcript.filterMap (statusPublished? key)

/-- The status that the pass finds and the outcome of its work, unless nothing could be loaded. -/
def work? (key : Key) (round : Round) : Option (Option Status × Except Failure Instance) :=
  match round.transcript with
  | ⟨.store (.load _), .ok saved⟩ :: rest =>
      ((provisionFrom round.options key round.spec saved).run.replay rest).map (saved.status, ·)
  | _ => none

/-- The pass ends in a failure that another try cannot help. -/
def endsTerminally (round : Round) : Bool :=
  match round.result with
  | .error failure => !failure.isRetryable
  | .ok _ => false

/-- The pass has seen the instance in a failed state. -/
def seesFailed (key : Key) (round : Round) : Bool :=
  match round.work? key with
  | some (_, .ok seen) => seen.state.phase = .failed
  | _ => false

/-- The pass finds a failed phase and is worth another try, with the instance neither released nor
    gone. -/
def keepsFailed (key : Key) (round : Round) : Bool :=
  match round.work? key with
  | some (some status, .error failure) =>
      status.phase = .failed && failure.isRetryable && !failure.released
  | _ => false

/-- The round fails by itself and publishes a failed phase. -/
def Fails (key : Key) (round : Round) : Prop :=
  (∃ status ∈ round.statuses key, status.phase = .failed) ∧
    (round.endsTerminally = true ∨ round.seesFailed key = true)

end Round

/-- The rounds of a machine, the newest first, and the memory after them. At first nothing is
    published. Between two rounds anything can change but what is published. -/
inductive Rounds (key : Key) : List Round → Memory → Prop where
  | start {memory : Memory} (unpublished : memory.published key = none) : Rounds key [] memory
  | round {past : List Round} {earlier memory later : Memory} (rounds : Rounds key past earlier)
      (round : Round) (kept : memory.published key = earlier.published key)
      (trace : Program.Trace (reconcile round.options key round.spec).run round.transcript
        round.result)
      (follows : remembering.Follows memory round.transcript later) :
      Rounds key (round :: past) later

variable {key : Key} {before after : Option Status} {status : Status} {clock : ClockReadings}
  {outcome : Except Failure Instance} {transcript : Transcript} {result : Except Failure Action}
  {round : Round} {past : List Round} {memory later : Memory}

theorem statuses_of_silent (silent : ∀ exchange ∈ transcript, Silent exchange.1) :
    transcript.filterMap (statusPublished? key) = [] := by
  refine List.filterMap_eq_nil_iff.mpr fun exchange mem => ?_
  have quiet := silent exchange mem
  unfold statusPublished?
  split
  · exact absurd trivial quiet
  · rfl

theorem Publishing.statuses {reply : Except Failure Unit}
    (publishes : Publishing key before status reply transcript) :
    transcript.filterMap (statusPublished? key) = if before = some status then [] else [status] := by
  cases publishes with
  | unchanged same => simp [same]
  | changed differs reply => simp [statusPublished?, differs]

/-- A pass publishes what it concludes with, unless this is published already. -/
theorem Concluding.statuses (concludes : Concluding key before clock outcome result transcript) :
    transcript.filterMap (statusPublished? key) =
      if before = some (Lifecycle.conclusion before clock outcome) then []
      else [Lifecycle.conclusion before clock outcome] := by
  cases concludes with
  | seen action publishes | unpublished publishes | failed publishes =>
      simp [readings, List.filterMap_cons, statusPublished?, publishes.statuses]

/-- The round finds this status and concludes with this outcome. -/
structure Round.Concludes (round : Round) (key : Key) (before : Option Status)
    (clock : ClockReadings) (outcome : Except Failure Instance) : Prop where
  work : round.work? key = some (before, outcome)
  statuses : round.statuses key =
    if before = some (Lifecycle.conclusion before clock outcome) then []
    else [Lifecycle.conclusion before clock outcome]
  fails : ∀ failure, outcome = .error failure → round.result = .error failure

/-- A round publishes nothing, or it concludes and its conclusion is what is published then. -/
theorem concludes_of_trace
    (trace : Program.Trace (reconcile round.options key round.spec).run round.transcript round.result)
    (follows : (publications key).Follows before round.transcript after) :
    (round.statuses key = [] ∧ after = before) ∨
      ∃ clock outcome, round.Concludes key before clock outcome ∧
        after = some (Lifecycle.conclusion before clock outcome) := by
  obtain ⟨options, spec, transcript, result⟩ := round
  cases reporting_of_trace trace follows with
  | unloaded fault => exact .inl ⟨rfl, rfl⟩
  | @concluded saved worked concluded clock outcome found provisions concludes =>
      subst found
      have works := (asks_provisionFrom saved).trace provisions
      refine .inr ⟨clock, outcome, ⟨?_, ?_, concludes.fails⟩, rfl⟩
      · have replays : (provisionFrom options key spec saved).run.replay (worked ++ concluded) =
            some outcome := Program.replay_eq_some_iff.mpr ⟨worked, concluded, rfl, provisions⟩
        simp [Round.work?, replays]
      · have silent : worked.filterMap (statusPublished? key) = [] :=
          statuses_of_silent fun exchange mem => (works exchange mem).silent
        simp only [Round.statuses, List.filterMap_cons, List.filterMap_append, silent,
          concludes.statuses]
        rfl

/-- A round that concludes with a failed phase has failed by itself, or has kept the phase. -/
theorem Round.Concludes.failed_cases (concludes : round.Concludes key before clock outcome)
    (failed : (Lifecycle.conclusion before clock outcome).phase = .failed) :
    (round.keepsFailed key = false ∧
        (round.endsTerminally = true ∨ round.seesFailed key = true)) ∨
      (round.keepsFailed key = true ∧ round.endsTerminally = false ∧
        round.seesFailed key = false ∧ ∃ status, before = some status ∧ status.phase = .failed) := by
  cases outcome with
  | ok seen =>
      rw [Lifecycle.phase_seen] at failed
      have unkept : round.keepsFailed key = false := by simp [keepsFailed, concludes.work]
      exact .inl ⟨unkept, .inr (by simp [seesFailed, concludes.work, failed])⟩
  | error failure =>
      rw [Lifecycle.phase_failure, Lifecycle.phaseAfter_eq_failed_iff] at failed
      obtain ⟨kept, either⟩ := failed
      have ends : round.endsTerminally = !failure.isRetryable := by
        simp [endsTerminally, concludes.fails failure rfl]
      have unseen : round.seesFailed key = false := by simp [seesFailed, concludes.work]
      cases retryable : failure.isRetryable with
      | false =>
          refine .inl ⟨?_, .inl (by simp [ends, retryable])⟩
          cases before <;> simp [keepsFailed, concludes.work, retryable]
      | true =>
          have found : (before.getD {}).phase = .failed := by simpa [retryable] using either
          cases before with
          | none => cases found
          | some status =>
              refine .inr ⟨?_, by simp [ends, retryable], unseen, status, rfl, found⟩
              have phase : status.phase = .failed := found
              simp [keepsFailed, concludes.work, phase, retryable, kept]

/-- A failed phase that is published goes back to a round that has failed by itself. -/
theorem Rounds.failed_origin (rounds : Rounds key past memory)
    (published : memory.published key = some status) (failed : status.phase = .failed) :
    ∃ origin ∈ past, origin.Fails key := by
  induction rounds generalizing status with
  | start unpublished =>
      rw [unpublished] at published
      cases published
  | @round past earlier memory later rounds round kept trace follows ih =>
      have before {status : Status} (found : memory.published key = some status)
          (failed : status.phase = .failed) : ∃ origin ∈ round :: past, origin.Fails key := by
        obtain ⟨origin, mem, fails⟩ := ih (kept ▸ found) failed
        exact ⟨origin, .tail _ mem, fails⟩
      obtain ⟨-, same⟩ | ⟨clock, outcome, concludes, after⟩ :=
        concludes_of_trace trace (publications_of_remembering follows)
      · exact before (same ▸ published) failed
      · obtain rfl : status = _ := Option.some.inj (published.symm.trans after)
        obtain ⟨-, itself⟩ | ⟨-, -, -, status, found, kept⟩ := concludes.failed_cases failed
        · -- A conclusion that was published already is not published again.
          by_cases same : memory.published key =
              some (Lifecycle.conclusion (memory.published key) clock outcome)
          · exact before same failed
          · exact ⟨round, .head _, ⟨_, by simp [concludes.statuses, same], failed⟩, itself⟩
        · exact before found kept

/-- The rounds before a round are rounds too. -/
theorem Rounds.of_append {newer older : List Round} (rounds : Rounds key (newer ++ round :: older) memory) :
    ∃ earlier memory later, Rounds key older earlier ∧
      memory.published key = earlier.published key ∧
      Program.Trace (reconcile round.options key round.spec).run round.transcript round.result ∧
      remembering.Follows memory round.transcript later := by
  induction newer generalizing memory with
  | nil =>
      cases rounds with
      | round rounds _ kept trace follows => exact ⟨_, _, _, rounds, kept, trace, follows⟩
  | cons newest newer ih =>
      cases rounds with
      | round rounds => exact ih rounds

/-- Among the rounds of a machine, one that publishes a failed phase has ended in a failure that no
    other try can help or has seen the instance fail, unless it has found the phase failed and was worth
    another try. Then an earlier round has published the failed phase for one of the first two reasons. -/
theorem failed_published_iff (rounds : Rounds key past memory) {newer older : List Round}
    (split : past = newer ++ round :: older) (published : status ∈ round.statuses key)
    (failed : status.phase = .failed) :
    (round.endsTerminally = true ∨ round.seesFailed key = true ↔ round.keepsFailed key = false) ∧
      (round.keepsFailed key = true → ∃ origin ∈ older, origin.Fails key) := by
  subst split
  obtain ⟨earlier, memory, later, rounds, kept, trace, follows⟩ := rounds.of_append
  obtain ⟨nothing, -⟩ | ⟨clock, outcome, concludes, -⟩ :=
    concludes_of_trace trace (publications_of_remembering follows)
  · rw [nothing] at published
    cases published
  · have concluded : status = Lifecycle.conclusion (memory.published key) clock outcome := by
      rw [concludes.statuses] at published
      split at published
      · cases published
      · exact List.mem_singleton.mp published
    subst concluded
    obtain ⟨fresh, itself⟩ | ⟨keeps, retries, unseen, status, found, before⟩ :=
      concludes.failed_cases failed
    · exact ⟨iff_of_true itself fresh, by simp [fresh]⟩
    · refine ⟨by simp [keeps, retries, unseen], fun _ => ?_⟩
      exact rounds.failed_origin (kept ▸ found) before

/-- A store in memory and a clock that stands still, with a MAAS that has one answer about machines. -/
def telling (reply : Except Maas.Error Maas.Machine) (time : Instant) :
    (effect : Effect) → Memory → effect.Answer × Memory
  | .maas (.getMachine _), memory => (reply, memory)
  | .maas _, memory => (.error .transport, memory)
  | .store call, memory => memory.answer call
  | .clock, memory => (time, memory)
  | .count _, memory => ((), memory)

/-- The rounds after another one, and the memory then. -/
def nextRound (reply : Except Maas.Error Maas.Machine) (time : Instant)
    (past : List Round × Memory) : List Round × Memory :=
  let spec : Spec := { minCpu := 1, minMemoryMib := 1024, mode := .virtualized }
  let pass := (reconcile {} observedKey spec).run
  let transcript := pass.exchanges (telling reply time) past.2
  let (result, memory) := pass.run (telling reply time) past.2
  (⟨{}, spec, transcript, result⟩ :: past.1, memory)

theorem rounds_nextRound {past : List Round × Memory} (reply : Except Maas.Error Maas.Machine)
    (time : Instant) (rounds : Rounds observedKey past.1 past.2) :
    Rounds observedKey (nextRound reply time past).1 (nextRound reply time past).2 := by
  refine .round rounds _ rfl (Program.trace_exchanges _ _ _) (Program.follows_exchanges id ?_ _ _)
  intro effect memory
  cases effect with
  | maas call => cases call <;> rfl
  | store call => exact .inl rfl
  | clock | count event => rfl

/-- MAAS refuses the key once, and then shows a recorded VM that it is still commissioning. -/
def refusedOnce : List Round × Memory :=
  nextRound (.ok { World.deployedMachine with statusName := "Commissioning", ipAddresses := [] })
    ⟨60, 0⟩ (nextRound (.error (.authentication "key revoked")) ⟨0, 0⟩
      ([], Store.Memory.modifySaved {} observedKey fun saved =>
        { saved with checkpoint := some (.new "m1" none (some "worker-0")) }))

theorem rounds_refusedOnce : Rounds observedKey refusedOnce.1 refusedOnce.2 :=
  rounds_nextRound _ _ (rounds_nextRound _ _ (.start rfl))

/-- The second round keeps a failed phase that the first one has published. -/
theorem failed_published_iff_refused :
    ∃ waiting refused : Round, refusedOnce.1 = [waiting, refused] ∧
      (∃ status ∈ waiting.statuses observedKey, status.phase = .failed) ∧
      waiting.keepsFailed observedKey = true ∧ refused.Fails observedKey := by
  obtain ⟨waiting, refused, rounds⟩ : ∃ waiting refused, refusedOnce.1 = [waiting, refused] :=
    ⟨_, _, rfl⟩
  have found : refusedOnce.1.head?.any (fun round => round.keepsFailed observedKey &&
      (round.statuses observedKey).any (·.phase = .failed)) = true := by decide +kernel
  simp only [rounds, List.head?_cons, Option.any_some, Bool.and_eq_true, List.any_eq_true,
    decide_eq_true_eq] at found
  obtain ⟨keeps, status, published, failed⟩ := found
  have origin := (@failed_published_iff observedKey status waiting _ _ rounds_refusedOnce [] [refused]
    rounds published failed).2 keeps
  obtain ⟨_, mem, fails⟩ := origin
  rw [List.mem_singleton.mp mem] at fails
  exact ⟨waiting, refused, rounds, ⟨status, published, failed⟩, keeps, fails⟩

/-- A machine that is still being provisioned is published as failed, although the pass has not ended
    in a failure for good and has not seen the machine fail. -/
theorem failed_while_provisioning :
    Rounds observedKey refusedOnce.1 refusedOnce.2 ∧
      refusedOnce.1.head?.map (fun round => ((round.statuses observedKey).map fun status =>
        (status.phase, status.conditions.map (·.reason)))) =
          some [(.failed, [some "StillProvisioning"])] ∧
      refusedOnce.1.head?.map (fun round => (round.endsTerminally, round.seesFailed observedKey)) =
        some (false, false) :=
  ⟨rounds_refusedOnce, by decide +kernel, by decide +kernel⟩

end Engine

end MachineProvisioning
