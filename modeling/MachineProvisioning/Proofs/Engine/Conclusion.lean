import MachineProvisioning.Engine.Reconcile
import MachineProvisioning.Proofs.Engine.Passes
import MachineProvisioning.Proofs.Lifecycle.Status

/-! # How a reconciliation goes

A reconciliation loads what is recorded, provisions the machine and concludes with the outcome. The
conclusion reads the clock twice, publishes the status that follows from the outcome unless it is the
one published before, and counts the outcome. The few ways for that to go are listed here, and what
else is known of a reconciliation is read off the list.
-/

namespace MachineProvisioning.Engine

open Resource (Key Spec Status)
open Lifecycle (Instance ClockReadings)
open Store (Saved)

variable {options : Options} {key : Key} {spec : Spec} {previous : Option Status} {status : Status}
  {clock : ClockReadings} {outcome : Except Failure Instance} {transcript : Transcript}
  {result : Except Failure Action}

/-- The exchanges that publish a status over the one before, and whether that fails. -/
inductive Publishing (key : Key) (previous : Option Status) (status : Status) :
    Except Failure Unit → Transcript → Prop where
  | unchanged (same : previous = some status) : Publishing key previous status (.ok ()) []
  | changed (differs : previous ≠ some status) (reply : Except Failure Unit) :
      Publishing key previous status reply [⟨.store (.publishStatus key status), reply⟩]

/-- The exchanges that read the clock. -/
def readings (clock : ClockReadings) : Transcript := [⟨.clock, clock.transition⟩, ⟨.clock, clock.pass⟩]

/-- The exchanges that conclude a pass with an outcome, and how the reconciliation ends with it. -/
inductive Concluding (key : Key) (previous : Option Status) (clock : ClockReadings) :
    Except Failure Instance → Except Failure Action → Transcript → Prop where
  | seen {seen : Instance} {published : Transcript} (action : Action)
      (publishes : Publishing key previous (Lifecycle.conclusion previous clock (.ok seen)) (.ok ())
        published) :
      Concluding key previous clock (.ok seen) (.ok action)
        (readings clock ++ published ++ [⟨.count (.reconciled .success), ()⟩])
  | unpublished {seen : Instance} {published : Transcript} {fault : Failure}
      (fails : Publishing key previous (Lifecycle.conclusion previous clock (.ok seen))
        (.error fault) published) :
      Concluding key previous clock (.ok seen) (.error fault) (readings clock ++ published)
  | failed {failure : Failure} {published : Transcript} {reply : Except Failure Unit}
      (publishes : Publishing key previous (Lifecycle.conclusion previous clock (.error failure))
        reply published) :
      Concluding key previous clock (.error failure) (.error failure)
        (⟨.count (.reconciled (outcomeOf failure)), ()⟩ :: readings clock ++ published)

/-- The exchanges of a reconciliation, and how it ends. -/
inductive Reconciling (options : Options) (key : Key) (spec : Spec) :
    Except Failure Action → Transcript → Prop where
  | unloaded (fault : Failure) :
      Reconciling options key spec (.error fault)
        [⟨.store (.load key), .error fault⟩, ⟨.count (.reconciled (outcomeOf fault)), ()⟩]
  | concluded {saved : Saved} {worked concluded : Transcript} {clock : ClockReadings}
      {outcome : Except Failure Instance} {result : Except Failure Action}
      (provisions : Program.Trace (provisionFrom options key spec saved).run worked outcome)
      (concludes : Concluding key saved.status clock outcome result concluded) :
      Reconciling options key spec result
        (⟨.store (.load key), .ok saved⟩ :: (worked ++ concluded))

/-- What a pass asks for before and after it provisions. -/
def Reports : Effect → Prop
  | .store (.load _) | .store (.publishStatus _ _) | .clock | .count (.reconciled _) => True
  | _ => False

theorem Publishing.reports {reply : Except Failure Unit}
    (publishes : Publishing key previous status reply transcript) :
    ∀ exchange ∈ transcript, Reports exchange.1 := by
  cases publishes with
  | unchanged same => simp
  | changed differs reply => simp [Reports]

theorem Concluding.reports (concludes : Concluding key previous clock outcome result transcript) :
    ∀ exchange ∈ transcript, Reports exchange.1 := by
  have reads : ∀ exchange ∈ readings clock, Reports exchange.1 := by simp [readings, Reports]
  cases concludes with
  | seen action publishes =>
      exact List.forall_mem_append.mpr ⟨List.forall_mem_append.mpr ⟨reads, publishes.reports⟩,
        by simp [Reports]⟩
  | unpublished fails => exact List.forall_mem_append.mpr ⟨reads, fails.reports⟩
  | failed publishes =>
      exact List.forall_mem_cons.mpr ⟨trivial, List.forall_mem_append.mpr ⟨reads, publishes.reports⟩⟩

/-- A reconciliation fails as its pass does. -/
theorem Concluding.fails (concludes : Concluding key previous clock outcome result transcript) :
    ∀ failure, outcome = .error failure → result = .error failure := by
  rintro failure rfl
  cases concludes
  rfl

theorem publishing_of_trace {reply : Except Failure Unit}
    (trace : Program.Trace (publishChange key previous status).run transcript reply) :
    Publishing key previous status reply transcript := by
  unfold publishChange at trace
  split at trace
  · next same =>
      cases trace
      exact .unchanged same
  · next differs =>
      rw [Pass.trace_of_store trace]
      exact .changed differs reply

theorem trace_of_clock_bind {α : Type} {f : ClockReadings → Pass α} {result : Except Failure α}
    (trace : Program.Trace (Pass.clock >>= f).run transcript result) :
    ∃ clock rest, transcript = readings clock ++ rest ∧
      Program.Trace (f clock).run rest result := by
  rw [Pass.clock, bind_assoc] at trace
  obtain ⟨transition, _, rfl, reads⟩ := Pass.trace_of_request_bind trace
  rw [bind_assoc] at reads
  obtain ⟨pass, rest, rfl, goesOn⟩ := Pass.trace_of_request_bind reads
  exact ⟨⟨transition, pass⟩, rest, rfl, goesOn⟩

theorem concluding_of_concludeSeen {seen : Instance}
    (trace : Program.Trace (concludeSeen key previous seen).run transcript result) :
    ∃ clock, Concluding key previous clock (.ok seen) result transcript := by
  obtain ⟨clock, _, rfl, goesOn⟩ := trace_of_clock_bind trace
  refine ⟨clock, ?_⟩
  obtain ⟨fault, rfl, fails⟩ | ⟨⟨⟩, published, _, rfl, publishes, counts⟩ :=
    Pass.trace_of_bind goesOn
  · exact .unpublished (publishing_of_trace fails)
  · obtain ⟨⟨⟩, _, rfl, ends⟩ := Pass.trace_of_request_bind counts
    cases ends
    rw [← List.append_assoc]
    exact .seen _ (publishing_of_trace publishes)

theorem concluding_of_concludeFailed {failure : Failure}
    (trace : Program.Trace (concludeFailed key previous failure : Pass Action).run transcript result) :
    ∃ clock, Concluding key previous clock (.error failure) result transcript := by
  obtain ⟨⟨⟩, _, rfl, reads⟩ := Pass.trace_of_request_bind trace
  obtain ⟨clock, _, rfl, goesOn⟩ := trace_of_clock_bind reads
  refine ⟨clock, ?_⟩
  obtain ⟨_, -, caught⟩ | ⟨⟨⟩, published, _, rfl, caught, ends⟩ := Pass.trace_of_bind goesOn
  · obtain ⟨_, ⟨⟩, -⟩ | ⟨_, _, _, -, -, ⟨⟩⟩ := Pass.trace_of_tryCatch caught
  cases ends
  rw [List.append_nil]
  obtain ⟨_, -, publishes⟩ | ⟨fault, published, _, rfl, publishes, ⟨⟩⟩ :=
    Pass.trace_of_tryCatch caught
  · exact .failed (publishing_of_trace publishes)
  · rw [List.append_nil]
    exact .failed (publishing_of_trace publishes)

theorem reconciling_of_trace
    (trace : Program.Trace (reconcile options key spec).run transcript result) :
    Reconciling options key spec result transcript := by
  obtain ⟨reply, _, rfl, goesOn⟩ := Pass.trace_of_request_bind trace
  cases reply with
  | error fault =>
      obtain ⟨⟨⟩, _, rfl, ends⟩ := Pass.trace_of_request_bind goesOn
      cases ends
      exact .unloaded fault
  | ok saved =>
      obtain ⟨outcome, worked, rest, rfl, provisions, concludes⟩ := Pass.trace_of_lift_bind goesOn
      cases outcome with
      | ok seen =>
          obtain ⟨clock, concludes⟩ := concluding_of_concludeSeen concludes
          exact .concluded provisions concludes
      | error failure =>
          obtain ⟨clock, concludes⟩ := concluding_of_concludeFailed concludes
          exact .concluded provisions concludes

end MachineProvisioning.Engine
