import MachineProvisioning.Proofs.Program.Protocol

/-! # Programs that are stopped

A program can be stopped before any of its requests. What it asked until then is a part of one of its
traces. A program that keeps a protocol leaves a state in which it was allowed to go on, or has ended.
Whether exchanges are those of a program that ended is found by replaying them.
-/

namespace MachineProvisioning

variable {Op : Type} {Answer : Op → Type} {α β σ τ : Type}

open Program (Exchange)

namespace Program

/-- The exchanges of a run that may have been stopped. -/
inductive Part : Program Op Answer α → List (Exchange Op Answer) → Prop where
  | stopped (p : Program Op Answer α) : Part p []
  | ask {op : Op} {next : Answer op → Program Op Answer α} {exchanges} (answer : Answer op)
      (rest : Part (next answer) exchanges) : Part (.ask op next) (⟨op, answer⟩ :: exchanges)

theorem Trace.part {p : Program Op Answer α} {exchanges : List (Exchange Op Answer)} {result : α}
    (trace : Trace p exchanges result) : Part p exchanges := by
  induction trace with
  | done a => exact .stopped _
  | ask answer _ ih => exact .ask answer ih

/-- Of two programs, the first one was stopped, or it ended and the second one may have been. -/
theorem Part.of_bind {p : Program Op Answer α} {f : α → Program Op Answer β}
    {exchanges : List (Exchange Op Answer)} (part : Part (p >>= f) exchanges) :
    Part p exchanges ∨ ∃ first rest a, exchanges = first ++ rest ∧ Trace p first a ∧
      Part (f a) rest := by
  -- The exchanges run out within the first program, or reach its end with the others left over.
  induction p generalizing exchanges with
  | done a => exact .inr ⟨[], exchanges, a, rfl, .done a, part⟩
  | ask op next ih =>
      rw [ask_bind] at part
      cases part with
      | stopped => exact .inl (.stopped _)
      | ask answer rest =>
          obtain part | ⟨first, after, a, rfl, trace, part⟩ := ih answer rest
          · exact .inl (.ask answer part)
          · exact .inr ⟨_ :: first, after, a, rfl, .ask answer trace, part⟩

/-- What a program that keeps a protocol leaves when it is stopped. -/
theorem Keeps.stop {P : Protocol Op Answer σ} {post : α → σ → Prop} {p : Program Op Answer α}
    {s s' : σ} {exchanges : List (Exchange Op Answer)} (h : p.Keeps P post s)
    (part : Part p exchanges) (follows : P.Follows s exchanges s') :
    (∃ op, P.allows s' op) ∨ ∃ a, post a s' := by
  induction part generalizing s with
  | stopped p =>
      cases follows
      cases p with
      | done a => exact .inr ⟨a, h⟩
      | ask op next => exact .inl ⟨op, h.1⟩
  | ask answer rest ih =>
      obtain ⟨next, leads, follows⟩ := follows
      exact ih (h.2 answer next leads) follows

/-- Requests that a protocol tolerates keep its invariant until they stop. -/
theorem Asks.stop {P : Protocol Op Answer σ} {kind : Op → Prop} {invariant : σ → Prop}
    {p : Program Op Answer α} {s s' : σ} {exchanges : List (Exchange Op Answer)}
    (asks : p.Asks kind) (tolerates : P.Tolerates invariant kind) (start : invariant s)
    (part : Part p exchanges) (follows : P.Follows s exchanges s') : invariant s' := by
  induction part generalizing s with
  | stopped p =>
      cases follows
      exact start
  | ask answer rest ih =>
      obtain ⟨next, leads, follows⟩ := follows
      exact ih (asks.2 answer) ((tolerates s _ start asks.1).2 answer next leads) follows

/-- What a program ends with when it is answered as it once was. -/
def replay [DecidableEq Op] : Program Op Answer α → List (Exchange Op Answer) → Option α
  | .done a, _ => some a
  | .ask _ _, [] => none
  | .ask op next, ⟨op', answer⟩ :: rest =>
      if same : op' = op then (next (same ▸ answer)).replay rest else none

theorem replay_eq_some_iff [DecidableEq Op] {p : Program Op Answer α}
    {exchanges : List (Exchange Op Answer)} {a : α} :
    p.replay exchanges = some a ↔
      ∃ first rest, exchanges = first ++ rest ∧ Trace p first a := by
  constructor
  · intro replays
    induction p generalizing exchanges with
    | done b =>
        cases replays
        exact ⟨[], exchanges, rfl, .done a⟩
    | ask op next ih =>
        cases exchanges with
        | nil => cases replays
        | cons exchange others =>
            obtain ⟨op', answer⟩ := exchange
            simp only [replay] at replays
            split at replays
            · next same =>
                subst same
                obtain ⟨first, rest, rfl, trace⟩ := ih _ replays
                exact ⟨_ :: first, rest, rfl, .ask answer trace⟩
            · cases replays
  · rintro ⟨first, rest, rfl, trace⟩
    induction trace with
    | done b => rfl
    | ask answer _ ih => simpa [replay] using ih

end Program

namespace Protocol

variable {P : Protocol Op Answer σ} {s s' s'' : σ} {first rest exchanges : List (Exchange Op Answer)}

theorem follows_append :
    P.Follows s (first ++ rest) s'' ↔ ∃ s', P.Follows s first s' ∧ P.Follows s' rest s'' := by
  induction first generalizing s with
  | nil => simp [Follows]
  | cons exchange others ih =>
      simp only [List.cons_append, Follows, ih]
      constructor
      · rintro ⟨next, leads, s', follows, after⟩
        exact ⟨s', ⟨next, leads, follows⟩, after⟩
      · rintro ⟨s', ⟨next, leads, follows⟩, after⟩
        exact ⟨next, leads, s', follows, after⟩

/-- Exchanges that follow a protocol follow another one that sees a part of its states. -/
theorem Follows.view {Q : Protocol Op Answer τ} (view : σ → τ) (follows : P.Follows s exchanges s')
    (step : ∀ exchange ∈ exchanges, ∀ s s', P.leads s exchange.1 exchange.2 s' →
      Q.leads (view s) exchange.1 exchange.2 (view s')) :
    Q.Follows (view s) exchanges (view s') := by
  induction exchanges generalizing s with
  | nil => exact congrArg view follows
  | cons exchange others ih =>
      obtain ⟨next, leads, follows⟩ := follows
      refine ⟨view next, step exchange (.head _) s next leads, ih follows ?_⟩
      exact fun other mem => step other (.tail _ mem)

end Protocol

end MachineProvisioning
