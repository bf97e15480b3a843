import MachineProvisioning.Proofs.Program.Protocol

/-! # The requests of a run

A state that answers a program meets its requests one by one, each in the state that the answers
before it have led to.
-/

namespace MachineProvisioning

variable {Op : Type} {Answer : Op → Type} {α σ : Type}

/-- A state answers every request itself. Only requests that are `proper` in a state are made in it. -/
def Protocol.attending (answer : (op : Op) → σ → Answer op × σ) (proper : σ → Op → Prop) :
    Protocol Op Answer σ where
  allows := proper
  leads s op reply next := (reply, next) = answer op s

namespace Program

variable {answer : (op : Op) → σ → Answer op × σ}

/-- The requests of a run, each with the state that answers it. -/
def requests (answer : (op : Op) → σ → Answer op × σ) : Program Op Answer α → σ → List (σ × Op)
  | .done _, _ => []
  | .ask op next, s => (s, op) :: (next (answer op s).1).requests answer (answer op s).2

/-- A program that keeps to proper requests makes no others in its run. -/
theorem Keeps.requests {proper : σ → Op → Prop} {post : α → σ → Prop} {p : Program Op Answer α}
    {s : σ} (h : p.Keeps (.attending answer proper) post s) :
    ∀ request ∈ p.requests answer s, proper request.1 request.2 := by
  induction p generalizing s with
  | done a => exact fun request mem => nomatch mem
  | ask op next ih =>
      intro request mem
      cases mem with
      | head => exact h.1
      | tail _ mem => exact ih _ (h.2 _ _ rfl) request mem

/-- What a program that keeps to proper requests ends with in its run. -/
theorem Keeps.attend {proper : σ → Op → Prop} {post : α → σ → Prop} {p : Program Op Answer α} {s : σ}
    (h : p.Keeps (.attending answer proper) post s) : post (p.run answer s).1 (p.run answer s).2 := by
  induction p generalizing s with
  | done a => exact h
  | ask op next ih => exact ih _ (h.2 _ _ rfl)

/-- A program that keeps to proper requests has no others in its exchanges. -/
theorem Keeps.asked {proper : Op → Prop} {post : α → σ → Prop} {p : Program Op Answer α} {s : σ}
    (h : p.Keeps (.attending answer fun _ => proper) post s) :
    ∀ exchange ∈ p.exchanges answer s, proper exchange.1 := by
  induction p generalizing s with
  | done a => exact fun exchange mem => nomatch mem
  | ask op next ih =>
      intro exchange mem
      cases mem with
      | head => exact h.1
      | tail _ mem => exact ih _ (h.2 _ _ rfl) exchange mem

/-- Where a state answers, a program ends as its run does. -/
theorem Keeps.determined {proper : σ → Op → Prop} {post : α → σ → Prop} {p : Program Op Answer α}
    {s : σ} (h : p.Keeps (.attending answer proper) post s) :
    p.Keeps (.attending answer proper) (fun a s' => post a s' ∧ p.run answer s = (a, s')) s := by
  induction p generalizing s with
  | done a => exact ⟨h, rfl⟩
  | ask op next ih =>
      refine ⟨h.1, fun reply s' leads => ?_⟩
      obtain ⟨rfl, rfl⟩ := Prod.mk.inj leads
      exact ih _ (h.2 _ _ rfl)

/-- The exchanges of a run are its requests with the answers that they get. -/
theorem exchanges_eq_map (p : Program Op Answer α) (s : σ) :
    p.exchanges answer s =
      (p.requests answer s).map fun request => ⟨request.2, (answer request.2 request.1).1⟩ := by
  induction p generalizing s with
  | done a => rfl
  | ask op next ih => exact congrArg (_ :: ·) (ih _ _)

/-- After a request a run makes the next one or is over. -/
theorem mem_of_request {p : Program Op Answer α} {s : σ} {request : σ × Op}
    (mem : request ∈ p.requests answer s) :
    (answer request.2 request.1).2 ∈ (p.requests answer s).map Prod.fst ∨
      (answer request.2 request.1).2 = (p.run answer s).2 := by
  induction p generalizing s with
  | done a => cases mem
  | ask op next ih =>
      cases mem with
      | head =>
          cases rest : next (answer op s).1 with
          | done a => exact .inr (congrArg (fun p => (p.run answer (answer op s).2).2) rest).symm
          | ask op' next' =>
              refine .inl (.tail _ (List.mem_map_of_mem (f := Prod.fst) (a := ((answer op s).2, op')) ?_))
              rw [rest]
              exact .head _
      | tail _ mem => exact (ih _ mem).imp_left fun later => .tail _ later

/-- What the answers to the requests of a run preserve holds at each request and at the end. -/
theorem requests_induction (invariant : σ → Prop) {p : Program Op Answer α} {s : σ}
    (start : invariant s)
    (step : ∀ request ∈ p.requests answer s,
      invariant request.1 → invariant (answer request.2 request.1).2) :
    (∀ request ∈ p.requests answer s, invariant request.1) ∧ invariant (p.run answer s).2 := by
  induction p generalizing s with
  | done a => exact ⟨(fun request mem => nomatch mem), start⟩
  | ask op next ih =>
      obtain ⟨rest, last⟩ := ih (answer op s).1 (step (s, op) (.head _) start)
        fun request mem => step request (.tail _ mem)
      refine ⟨fun request mem => ?_, last⟩
      cases mem with
      | head => exact start
      | tail _ mem => exact rest request mem

/-- What every answer preserves holds at each request of a run and at its end. -/
theorem requests_invariant (invariant : σ → Prop)
    (step : ∀ op s, invariant s → invariant (answer op s).2) (p : Program Op Answer α) {s : σ}
    (start : invariant s) :
    (∀ request ∈ p.requests answer s, invariant request.1) ∧ invariant (p.run answer s).2 :=
  requests_induction invariant start fun request _ => step request.2 request.1

end Program

end MachineProvisioning
