import MachineProvisioning.Engine.Effect
import MachineProvisioning.Proofs.Program.Stopping

/-! # Passes under a protocol

A pass ends with a value or with a failure. `Ensures` says what holds in either case when the pass
keeps a protocol, and `Asks` which requests the pass makes at all. There is one rule for each way to
put passes together.
-/

namespace MachineProvisioning.Engine

open Program (Exchange)

/-- What a pass asked and was answered, in order. -/
abbrev Transcript : Type := List (Exchange Effect Effect.Answer)

/-- A protocol of passes. -/
abbrev Discipline (σ : Type) : Type := Protocol Effect Effect.Answer σ

namespace Pass

variable {σ α β : Type} {P : Discipline σ} {ok ok' : α → σ → Prop} {err err' : Failure → σ → Prop} {s : σ}

/-- What is to hold at the end, by how a pass ends. -/
def either (ok : α → σ → Prop) (err : Failure → σ → Prop) : Except Failure α → σ → Prop
  | .ok a => ok a
  | .error failure => err failure

/-- The pass keeps the protocol, with `ok` at the end or with `err` when it fails. -/
def Ensures (P : Discipline σ) (p : Pass α) (ok : α → σ → Prop) (err : Failure → σ → Prop)
    (s : σ) : Prop :=
  p.run.Keeps P (either ok err) s

theorem ensures_pure {a : α} : Ensures P (pure a) ok err s ↔ ok a s := Iff.rfl

theorem ensures_throw {failure : Failure} :
    Ensures P (throw failure : Pass α) ok err s ↔ err failure s := Iff.rfl

theorem ensures_bind {p : Pass α} {f : α → Pass β} {ok : β → σ → Prop} :
    Ensures P (p >>= f) ok err s ↔ Ensures P p (fun a s' => Ensures P (f a) ok err s') err s := by
  unfold Ensures
  rw [ExceptT.run_bind, Program.keeps_bind]
  constructor
  · intro h
    refine h.mono fun result s' keeps => ?_
    cases result with
    | ok a => exact keeps
    | error failure => exact keeps
  · intro h
    refine h.mono fun result s' keeps => ?_
    cases result with
    | ok a => exact keeps
    | error failure => exact keeps

theorem Ensures.mono {p : Pass α} (h : Ensures P p ok err s) (onOk : ∀ a s', ok a s' → ok' a s')
    (onError : ∀ failure s', err failure s' → err' failure s') : Ensures P p ok' err' s := by
  refine Program.Keeps.mono h fun result s' post => ?_
  cases result with
  | ok a => exact onOk a s' post
  | error failure => exact onError failure s' post

theorem Ensures.permit {Q : Discipline σ} {p : Pass α} (h : Ensures P p ok err s)
    (allows : ∀ s effect, P.allows s effect → Q.allows s effect)
    (leads : ∀ s effect answer s', Q.leads s effect answer s' → P.leads s effect answer s') :
    Ensures Q p ok err s :=
  Program.Keeps.permit (p := p.run) h allows leads

/-- First one pass, then another one from what the first one ensures. -/
theorem Ensures.bind {p : Pass α} {f : α → Pass β} {ok' : β → σ → Prop}
    (first : Ensures P p ok err s) (rest : ∀ a s', ok a s' → Ensures P (f a) ok' err s') :
    Ensures P (p >>= f) ok' err s :=
  ensures_bind.mpr (first.mono rest fun _ _ post => post)

theorem ensures_map {p : Pass α} {f : α → β} {ok : β → σ → Prop} :
    Ensures P (f <$> p) ok err s ↔ Ensures P p (fun a => ok (f a)) err s := by
  rw [map_eq_pure_bind, ensures_bind]
  rfl

theorem ensures_discard {p : Pass α} {ok : Unit → σ → Prop} :
    Ensures P (discard p) ok err s ↔ Ensures P p (fun _ => ok ()) err s := ensures_map

theorem ensures_tryMaas {call : Maas.Call} {ok : call.Reply → σ → Prop} :
    Ensures P (tryMaas call) ok err s ↔
      P.allows s (.maas call) ∧ ∀ reply s', P.leads s (.maas call) reply s' → ok reply s' := Iff.rfl

theorem ensures_maas {context : String} {call : Maas.Call} {ok : call.Value → σ → Prop} :
    Ensures P (maas context call) ok err s ↔
      P.allows s (.maas call) ∧ (∀ value s', P.leads s (.maas call) (.ok value) s' → ok value s') ∧
        ∀ error s', P.leads s (.maas call) (.error error) s' → err (.backend context error) s' := by
  rw [maas, ensures_bind, ensures_tryMaas]
  refine and_congr_right fun _ => ⟨fun h => ⟨fun value s' => h (.ok value) s',
    fun error s' => h (.error error) s'⟩, fun h reply s' leads => ?_⟩
  cases reply with
  | ok value => exact h.1 value s' leads
  | error error => exact h.2 error s' leads

theorem ensures_tryStore {call : Store.Call} {ok : call.Reply → σ → Prop} :
    Ensures P (tryStore call) ok err s ↔
      P.allows s (.store call) ∧ ∀ reply s', P.leads s (.store call) reply s' → ok reply s' := Iff.rfl

theorem ensures_store {call : Store.Call} {ok : call.Value → σ → Prop} :
    Ensures P (store call) ok err s ↔
      P.allows s (.store call) ∧ (∀ value s', P.leads s (.store call) (.ok value) s' → ok value s') ∧
        ∀ failure s', P.leads s (.store call) (.error failure) s' → err failure s' := by
  refine and_congr_right fun _ => ⟨fun h => ⟨fun value s' => h (.ok value) s',
    fun failure s' => h (.error failure) s'⟩, fun h reply s' leads => ?_⟩
  cases reply with
  | ok value => exact h.1 value s' leads
  | error failure => exact h.2 failure s' leads

theorem ensures_count {event : Event} {ok : Unit → σ → Prop} :
    Ensures P (count event) ok err s ↔
      P.allows s (.count event) ∧ ∀ reply s', P.leads s (.count event) reply s' → ok reply s' := Iff.rfl

theorem ensures_now {ok : Instant → σ → Prop} :
    Ensures P (ExceptT.lift Procedure.now) ok err s ↔
      P.allows s .clock ∧ ∀ t s', P.leads s .clock t s' → ok t s' := Iff.rfl

theorem ensures_lift {p : Procedure α} :
    Ensures P (ExceptT.lift p) ok err s ↔ p.Keeps P ok s := by
  unfold Ensures
  rw [ExceptT.run_lift]
  exact Program.keeps_map

/-- A pass within another one, which goes on however the first one ends. -/
theorem ensures_attempt {p : Pass α} {ok : Except Failure α → σ → Prop} :
    Ensures P (ExceptT.lift p.run) ok err s ↔
      Ensures P p (fun a => ok (.ok a)) (fun failure => ok (.error failure)) s := by
  unfold Ensures
  rw [ExceptT.run_lift, Program.keeps_map]
  constructor
  · intro h
    refine h.mono fun result s' post => ?_
    cases result with
    | ok a => exact post
    | error failure => exact post
  · intro h
    refine h.mono fun result s' post => ?_
    cases result with
    | ok a => exact post
    | error failure => exact post

theorem ensures_tryCatch {p : Pass α} {handle : Failure → Pass α} :
    Ensures P (tryCatch p handle) ok err s ↔
      Ensures P p ok (fun failure s' => Ensures P (handle failure) ok err s') s := by
  refine Program.keeps_bind.trans ⟨fun h => ?_, fun h => ?_⟩
  · refine Program.Keeps.mono h fun result s' post => ?_
    cases result with
    | ok a => exact post
    | error failure => exact post
  · refine Program.Keeps.mono h fun result s' post => ?_
    cases result with
    | ok a => exact post
    | error failure => exact post

/-- A pass whose result is left out. -/
theorem keeps_discard {p : Pass α} {kept : σ → Prop} :
    (discard p.run : Procedure Unit).Keeps P (fun _ => kept) s ↔
      Ensures P p (fun _ => kept) (fun _ => kept) s := by
  refine Program.keeps_map.trans ⟨fun h => ?_, fun h => ?_⟩
  · refine Program.Keeps.mono h fun result s' kept => ?_
    cases result with
    | ok a => exact kept
    | error failure => exact kept
  · refine Program.Keeps.mono h fun result s' kept => ?_
    cases result with
    | ok a => exact kept
    | error failure => exact kept

/-- Every request of the pass is of this kind. -/
def Asks (kind : Effect → Prop) (p : Pass α) : Prop := p.run.Asks kind

variable {kind : Effect → Prop}

theorem asks_pure (a : α) : Asks kind (pure a) := trivial

theorem asks_throw (failure : Failure) : Asks kind (throw failure : Pass α) := trivial

theorem Asks.bind {p : Pass α} {f : α → Pass β} (first : Asks kind p)
    (rest : ∀ a, Asks kind (f a)) : Asks kind (p >>= f) := by
  refine Program.Asks.bind first fun result => ?_
  cases result with
  | ok a => exact rest a
  | error failure => exact asks_throw failure

theorem Asks.mono {kind' : Effect → Prop} {p : Pass α} (asks : Asks kind p)
    (wider : ∀ effect, kind effect → kind' effect) : Asks kind' p :=
  Program.Asks.mono asks wider

theorem Asks.map {p : Pass α} (asks : Asks kind p) (f : α → β) : Asks kind (f <$> p) := by
  rw [map_eq_pure_bind]
  exact asks.bind fun a => asks_pure (f a)

theorem Asks.discard {p : Pass α} (h : Asks kind p) : Asks kind (discard p) :=
  h.map fun _ => ()

theorem asks_lift {p : Procedure α} (h : p.Asks kind) : Asks kind (ExceptT.lift p) :=
  Program.Asks.bind h fun _ => Program.asks_done _

theorem asks_tryMaas {call : Maas.Call} (h : kind (.maas call)) : Asks kind (tryMaas call) :=
  Program.Asks.bind (Program.asks_request h) fun _ => Program.asks_done _

theorem asks_tryStore {call : Store.Call} (h : kind (.store call)) : Asks kind (tryStore call) :=
  Program.Asks.bind (Program.asks_request h) fun _ => Program.asks_done _

theorem asks_store {call : Store.Call} (h : kind (.store call)) : Asks kind (store call) :=
  Program.asks_request h

theorem asks_count {event : Event} (h : kind (.count event)) : Asks kind (count event) :=
  Program.Asks.bind (Program.asks_request h) fun _ => Program.asks_done _

theorem Asks.tryCatch {p : Pass α} {handle : Failure → Pass α} (first : Asks kind p)
    (rest : ∀ failure, Asks kind (handle failure)) : Asks kind (tryCatch p handle) := by
  refine Program.Asks.bind first fun result => ?_
  cases result with
  | ok a => exact asks_pure a
  | error failure => exact rest failure

/-- Requests that a protocol tolerates keep its invariant, however the pass ends. -/
theorem Asks.ensures {invariant : σ → Prop} {p : Pass α} (asks : Asks kind p)
    (tolerates : P.Tolerates invariant kind) (start : invariant s) :
    Ensures P p (fun _ => invariant) (fun _ => invariant) s := by
  refine (Program.Asks.keeps asks tolerates start).mono fun result s' kept => ?_
  cases result with
  | ok a => exact kept
  | error failure => exact kept

/-- Every request of the pass is of this kind, and no failure of the pass says that the instance is
    released. -/
structure Spares (kind : Effect → Prop) (p : Pass α) : Prop where
  asks : Asks kind p
  ends : p.run.Ends fun result => ∀ failure, result = .error failure → failure.released = false

theorem spares_pure (a : α) : Spares kind (pure a) := ⟨trivial, nofun⟩

theorem spares_throw {failure : Failure} (kept : failure.released = false) :
    Spares kind (throw failure : Pass α) :=
  ⟨trivial, fun _ same => Except.error.inj same ▸ kept⟩

theorem Spares.bind {p : Pass α} {f : α → Pass β} (first : Spares kind p)
    (rest : ∀ a, Spares kind (f a)) : Spares kind (p >>= f) := by
  refine ⟨first.asks.bind fun a => (rest a).asks, first.ends.bind fun result kept => ?_⟩
  cases result with
  | ok a => exact (rest a).ends
  | error failure => exact fun _ same => Except.error.inj same ▸ kept failure rfl

theorem Spares.mono {kind' : Effect → Prop} {p : Pass α} (spares : Spares kind p)
    (wider : ∀ effect, kind effect → kind' effect) : Spares kind' p :=
  ⟨Program.Asks.mono spares.asks wider, spares.ends⟩

theorem Spares.discard {p : Pass α} (h : Spares kind p) : Spares kind (discard p) :=
  Spares.bind (f := fun _ => pure ()) h fun _ => spares_pure _

theorem spares_tryMaas {call : Maas.Call} (h : kind (.maas call)) : Spares kind (tryMaas call) :=
  ⟨asks_tryMaas h, fun _ => nofun⟩

theorem spares_maas {context : String} {call : Maas.Call} (h : kind (.maas call)) :
    Spares kind (maas context call) := by
  refine (spares_tryMaas h).bind fun reply => ?_
  cases reply with
  | ok value => exact spares_pure value
  | error error => exact spares_throw rfl

theorem spares_tryStore {call : Store.Call} (h : kind (.store call)) : Spares kind (tryStore call) :=
  ⟨asks_tryStore h, fun _ => nofun⟩

/-- Requests that a protocol tolerates keep its invariant, and the instance is not reported released
    when the pass fails. -/
theorem Spares.ensures {invariant : σ → Prop} {p : Pass α} (spares : Spares kind p)
    (tolerates : P.Tolerates invariant kind) (start : invariant s) :
    Ensures P p (fun _ => invariant)
      (fun failure s' => failure.released = false ∧ invariant s') s := by
  refine ((spares.asks.ensures tolerates start).and_ends spares.ends).mono fun result s' kept => ?_
  cases result with
  | ok a => exact kept.2
  | error failure => exact ⟨kept.1 failure rfl, kept.2⟩

/-- The value of a pass is one of those that it can end with at all. -/
theorem Ensures.and_ends {good : α → Prop} {p : Pass α} (h : Ensures P p ok err s)
    (ends : p.run.Ends fun result => ∀ a, result = .ok a → good a) :
    Ensures P p (fun a s' => good a ∧ ok a s') err s := by
  refine (Program.Keeps.and_ends h ends).mono fun result s' kept => ?_
  cases result with
  | ok a => exact ⟨kept.1 a rfl, kept.2⟩
  | error failure => exact kept.2

/-- What a pass that keeps a protocol ends with when its exchanges follow it. -/
theorem Ensures.follow {p : Pass α} {transcript : Transcript} {result : Except Failure α} {s' : σ}
    (h : Ensures P p ok err s) (trace : Program.Trace p.run transcript result)
    (follows : P.Follows s transcript s') : either ok err result s' :=
  Program.Keeps.follow h trace follows

/-- What a pass that keeps a protocol leaves when it is stopped. -/
theorem Ensures.stop {p : Pass α} {transcript : Transcript} {s' : σ} (h : Ensures P p ok err s)
    (part : Program.Part p.run transcript) (follows : P.Follows s transcript s') :
    (∃ effect, P.allows s' effect) ∨ ∃ result, either ok err result s' :=
  Program.Keeps.stop h part follows

theorem Asks.stop {invariant : σ → Prop} {p : Pass α} {transcript : Transcript} {s' : σ}
    (asks : Asks kind p) (tolerates : P.Tolerates invariant kind) (start : invariant s)
    (part : Program.Part p.run transcript) (follows : P.Follows s transcript s') : invariant s' :=
  Program.Asks.stop asks tolerates start part follows

/-- What a pass that keeps a history does in any of its traces. -/
theorem Ensures.trace {allows : Transcript → Effect → Prop}
    {fair : Transcript → Exchange Effect Effect.Answer → Prop} {p : Pass α}
    {ok : α → Transcript → Prop} {err : Failure → Transcript → Prop} {past transcript : Transcript}
    {result : Except Failure α} (h : Ensures (.history allows fair) p ok err past)
    (trace : Program.Trace p.run transcript result)
    (fairly : ∀ before exchange after, transcript = before ++ exchange :: after →
      fair (past ++ before) exchange) :
    either ok err result (past ++ transcript) ∧
      ∀ before exchange after, transcript = before ++ exchange :: after →
        allows (past ++ before) exchange.1 :=
  Program.Keeps.trace h trace fairly

/-- What a pass that keeps a protocol does when a state answers it fairly. -/
theorem Ensures.run {answer : (effect : Effect) → σ → effect.Answer × σ}
    {fair : Exchange Effect Effect.Answer → Prop} {p : Pass α}
    (h : Ensures (.answering answer fair) p ok err s)
    (fairly : ∀ exchange ∈ p.run.exchanges answer s, fair exchange) :
    either ok err (p.run.run answer s).1 (p.run.run answer s).2 :=
  Program.Keeps.run h fairly

theorem Asks.trace {p : Pass α} {transcript : Transcript} {result : Except Failure α}
    (asks : Asks kind p) (trace : Program.Trace p.run transcript result) :
    ∀ exchange ∈ transcript, kind exchange.1 :=
  Program.Asks.trace asks trace

/-- The first of two passes fails, or the second goes on with its value. -/
theorem trace_of_bind {p : Pass α} {f : α → Pass β} {transcript : Transcript}
    {result : Except Failure β} (trace : Program.Trace (p >>= f).run transcript result) :
    (∃ failure, result = .error failure ∧ Program.Trace p.run transcript (.error failure)) ∨
      ∃ a first rest, transcript = first ++ rest ∧ Program.Trace p.run first (.ok a) ∧
        Program.Trace (f a).run rest result := by
  rw [ExceptT.run_bind] at trace
  obtain ⟨first, rest, outcome, rfl, once, after⟩ := Program.Trace.of_bind trace
  cases outcome with
  | ok a => exact .inr ⟨a, first, rest, rfl, once, after⟩
  | error failure =>
      cases after
      rw [List.append_nil]
      exact .inl ⟨failure, rfl, once⟩

/-- A pass keeps its value, or its failure is handled. -/
theorem trace_of_tryCatch {p : Pass α} {handle : Failure → Pass α} {transcript : Transcript}
    {result : Except Failure α}
    (trace : Program.Trace (tryCatch p handle).run transcript result) :
    (∃ a, result = .ok a ∧ Program.Trace p.run transcript (.ok a)) ∨
      ∃ failure first rest, transcript = first ++ rest ∧ Program.Trace p.run first (.error failure) ∧
        Program.Trace (handle failure).run rest result := by
  obtain ⟨first, rest, outcome, rfl, once, after⟩ := Program.Trace.of_bind trace
  cases outcome with
  | ok a =>
      cases after
      rw [List.append_nil]
      exact .inl ⟨a, rfl, once⟩
  | error failure => exact .inr ⟨failure, first, rest, rfl, once, after⟩

theorem trace_of_lift {p : Procedure α} {transcript : Transcript} {result : Except Failure α}
    (trace : Program.Trace (ExceptT.lift p : Pass α).run transcript result) :
    ∃ a, Program.Trace p transcript a ∧ result = .ok a := by
  rw [ExceptT.run_lift] at trace
  exact trace.of_map

/-- A procedure does not fail, so the pass goes on. -/
theorem trace_of_lift_bind {p : Procedure α} {f : α → Pass β} {transcript : Transcript}
    {result : Except Failure β}
    (trace : Program.Trace (ExceptT.lift p >>= f : Pass β).run transcript result) :
    ∃ a first rest, transcript = first ++ rest ∧ Program.Trace p first a ∧
      Program.Trace (f a).run rest result := by
  obtain ⟨_, -, lifted⟩ | ⟨a, first, rest, rfl, lifted, goesOn⟩ := trace_of_bind trace
  · obtain ⟨_, -, ⟨⟩⟩ := trace_of_lift lifted
  · obtain ⟨_, once, ⟨⟩⟩ := trace_of_lift lifted
    exact ⟨a, first, rest, rfl, once, goesOn⟩

theorem trace_of_request_bind {effect : Effect} {f : effect.Answer → Pass β}
    {transcript : Transcript} {result : Except Failure β}
    (trace : Program.Trace (ExceptT.lift (Program.request effect) >>= f : Pass β).run transcript
      result) :
    ∃ answer rest, transcript = ⟨effect, answer⟩ :: rest ∧
      Program.Trace (f answer).run rest result := by
  obtain ⟨answer, first, rest, rfl, once, goesOn⟩ := trace_of_lift_bind trace
  rw [once.of_request]
  exact ⟨answer, rest, rfl, goesOn⟩

theorem trace_of_store {call : Store.Call} {transcript : Transcript}
    {result : Except Failure call.Value} (trace : Program.Trace (store call).run transcript result) :
    transcript = [⟨.store call, result⟩] :=
  Program.Trace.of_request trace

/-- A call of MAAS succeeds, or the pass fails in the context of the call. -/
theorem trace_of_maas {context : String} {call : Maas.Call} {transcript : Transcript}
    {result : Except Failure call.Value}
    (trace : Program.Trace (maas context call).run transcript result) :
    (∃ value, transcript = [⟨.maas call, .ok value⟩] ∧ result = .ok value) ∨
      ∃ error, transcript = [⟨.maas call, .error error⟩] ∧
        result = .error (.backend context error) := by
  obtain ⟨reply, rest, rfl, goesOn⟩ := trace_of_request_bind trace
  cases reply with
  | ok value =>
      cases goesOn
      exact .inl ⟨value, rfl, rfl⟩
  | error error =>
      cases goesOn
      exact .inr ⟨error, rfl, rfl⟩

-- Otherwise goals about a pass are evaluated when a proof only looks for their outermost symbol.
attribute [irreducible] Ensures Asks

end Pass

end MachineProvisioning.Engine
