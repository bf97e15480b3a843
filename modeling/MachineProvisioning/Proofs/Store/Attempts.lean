import MachineProvisioning.Proofs.Program.Protocol
import MachineProvisioning.Store.Kubernetes

/-! # Attempts at a guarded write

The exchanges of a guarded write are those of its attempts, of which all but the last end in a
conflict. An attempt reads the object and patches it against the version that was read.
-/

namespace MachineProvisioning.Store

open Program (Trace Exchange)

variable {Op : Type} {Answer : Op → Type} {α : Type}
  {attempt : Program Op Answer (Except KubeError α)} {result : Except KubeError α}

/-- Attempts that end in a conflict, one after another. -/
inductive Conflicts (attempt : Program Op Answer (Except KubeError α)) :
    Nat → List (Exchange Op Answer) → Prop where
  | none : Conflicts attempt 0 []
  | more {n : Nat} {first rest : List (Exchange Op Answer)} {result : Except KubeError α}
      (trace : Trace attempt first result) (conflict : isConflict result = true)
      (others : Conflicts attempt n rest) : Conflicts attempt (n + 1) (first ++ rest)

/-- Every attempt but the last ends in a conflict, and the last one does only when there are no more. -/
theorem conflicts_of_attemptAgain {more : Nat} {exchanges : List (Exchange Op Answer)}
    (trace : Trace (attemptAgain attempt more) exchanges result) :
    ∃ n failed last, exchanges = failed ++ last ∧ Conflicts attempt n failed ∧
      Trace attempt last result ∧ n ≤ more ∧ (isConflict result = true → n = more) := by
  induction more generalizing exchanges with
  | zero => exact ⟨0, [], exchanges, rfl, .none, trace, Nat.le_refl _, fun _ => rfl⟩
  | succ more ih =>
      obtain ⟨first, rest, met, rfl, once, after⟩ := Trace.of_bind trace
      split at after
      · next conflict =>
          obtain ⟨n, failed, last, rfl, conflicts, ended, few, all⟩ := ih after
          refine ⟨n + 1, first ++ failed, last, (List.append_assoc ..).symm,
            .more once conflict conflicts, ended, Nat.succ_le_succ few, ?_⟩
          exact fun conflict => congrArg (· + 1) (all conflict)
      · next done =>
          cases after
          refine ⟨0, [], first, by simp, .none, once, Nat.zero_le _, fun conflict => ?_⟩
          exact absurd conflict done

/-- An attempt that ends in a conflict is followed by another one. -/
theorem trace_attemptAgain_conflict {more : Nat} {first rest : List (Exchange Op Answer)}
    {met : Except KubeError α} (once : Trace attempt first met) (conflict : isConflict met = true)
    (after : Trace (attemptAgain attempt more) rest result) :
    Trace (attemptAgain attempt (more + 1)) (first ++ rest) result := by
  refine once.bind ?_
  rw [if_pos conflict]
  exact after

/-- Any other attempt is the last one. -/
theorem trace_attemptAgain_last {more : Nat} {exchanges : List (Exchange Op Answer)}
    (once : Trace attempt exchanges result) (done : isConflict result = false ∨ more = 0) :
    Trace (attemptAgain attempt more) exchanges result := by
  cases more with
  | zero => exact once
  | succ more =>
      rw [← List.append_nil exchanges]
      refine once.bind ?_
      rw [done.resolve_right (by simp), if_neg Bool.false_ne_true]
      exact .done result

namespace Kubernetes

open Http (Response)
open Net (RequestTarget)
open Resource (Key Object)

/-- A request with its answer. -/
abbrev Answered : Type := Program.Exchange Request fun _ => Response

def readRequest (target : RequestTarget) : Request := { method := "GET", target }

def mergeRequest (target : RequestTarget) (patch : Json) : Request :=
  { method := "PATCH", target, body := .json "application/merge-patch+json" patch }

variable {key : Key} {path : String} {patch : Json → Json} {exchanges : List Answered}

theorem trace_exchange_cases {β : Type} {ofJson? : Json → Option β} {method : String}
    {named : Except KubeError RequestTarget} {body : Http.Body} {result : Except KubeError β}
    (trace : Trace (exchange ofJson? method named body) exchanges result) :
    (∃ error, named = .error error ∧ exchanges = [] ∧ result = .error error) ∨
      ∃ target response, named = .ok target ∧
        exchanges = [⟨{ method, target, body }, response⟩] ∧ result = decode ofJson? response := by
  unfold exchange at trace
  split at trace
  · next error =>
      cases trace
      exact .inl ⟨error, rfl, rfl, rfl⟩
  · next target =>
      obtain ⟨response, once, rfl⟩ := Trace.of_map trace
      cases once with
      | ask response after =>
          cases after
          exact .inr ⟨target, response, rfl, rfl, rfl⟩

/-- What an attempt exchanges and ends with. -/
inductive Attempted (key : Key) (path : String) (patch : Json → Json) :
    List Answered → Except KubeError Object → Prop where
  /-- The object has no target. -/
  | unsent {error : KubeError} (unnamed : readTarget key = .error error) :
      Attempted key path patch [] (.error error)
  | unread {target : RequestTarget} {response : Response} {error : KubeError}
      (readable : readTarget key = .ok target)
      (refused : decode Object.ofJson? response = .error error) :
      Attempted key path patch [⟨readRequest target, response⟩] (.error error)
  /-- What is patched has no target. -/
  | unpatched {target : RequestTarget} {response : Response} {live : Object} {error : KubeError}
      (readable : readTarget key = .ok target) (read : decode Object.ofJson? response = .ok live)
      (unnamed : changeTarget key path = .error error) :
      Attempted key path patch [⟨readRequest target, response⟩] (.error error)
  | patched {target target' : RequestTarget} {response response' : Response} {live : Object}
      (readable : readTarget key = .ok target) (read : decode Object.ofJson? response = .ok live)
      (writable : changeTarget key path = .ok target') :
      Attempted key path patch
        [⟨readRequest target, response⟩,
          ⟨mergeRequest target' (patch (Json.ofOption .str live.metadata.resourceVersion)), response'⟩]
        (decode Object.ofJson? response')

theorem attempted_of_trace {result : Except KubeError Object}
    (trace : Trace (patchOnce key path patch) exchanges result) :
    Attempted key path patch exchanges result := by
  obtain ⟨first, rest, fetched, rfl, read, after⟩ := Trace.of_bind trace
  rcases trace_exchange_cases read with ⟨error, unnamed, rfl, rfl⟩ | ⟨target, response, readable, rfl, rfl⟩
  · cases after
    exact .unsent unnamed
  cases answer : decode Object.ofJson? response with
  | error error =>
      rw [answer] at after
      cases after
      exact .unread readable answer
  | ok live =>
      rw [answer] at after
      rcases trace_exchange_cases after with
        ⟨error, unnamed, rfl, rfl⟩ | ⟨target', response', writable, rfl, rfl⟩
      · exact .unpatched readable answer unnamed
      · exact .patched readable answer writable

/-- In an attempt that ends in a conflict, the object is only read, or the patch met the conflict. -/
theorem Attempted.refused {result : Except KubeError Object}
    (attempted : Attempted key path patch exchanges result) (conflict : isConflict result = true) :
    ∀ exchange ∈ exchanges, exchange.1.method = "GET" ∨
      isConflict (decode Object.ofJson? exchange.2) = true := by
  cases attempted with
  | unsent => simp
  | unread => simp [readRequest]
  | unpatched => simp [readRequest]
  | patched =>
      simp only [List.forall_mem_cons, List.not_mem_nil, false_implies, implies_true, and_true]
      exact ⟨.inl rfl, .inr conflict⟩

theorem trace_exchange {β : Type} (ofJson? : Json → Option β) (method : String) (body : Http.Body)
    {named : Except KubeError RequestTarget} {target : RequestTarget} (found : named = .ok target)
    (response : Response) :
    Trace (exchange ofJson? method named body) [⟨{ method, target, body }, response⟩]
      (decode ofJson? response) := by
  subst found
  exact (@Program.trace_request Request (fun _ => Response) _ response).map (decode ofJson?)

/-- An attempt whose requests are both made. -/
theorem trace_patchOnce {target target' : RequestTarget} {live : Object} {response : Response}
    (readable : readTarget key = .ok target) (writable : changeTarget key path = .ok target')
    (read : decode Object.ofJson? response = .ok live) (response' : Response) :
    Trace (patchOnce key path patch)
      [⟨readRequest target, response⟩,
        ⟨mergeRequest target' (patch (Json.ofOption .str live.metadata.resourceVersion)), response'⟩]
      (decode Object.ofJson? response') := by
  have fetched := trace_exchange Object.ofJson? "GET" .empty readable response
  rw [read] at fetched
  exact fetched.bind (trace_exchange Object.ofJson? "PATCH" _ writable response')

end Kubernetes

end MachineProvisioning.Store
