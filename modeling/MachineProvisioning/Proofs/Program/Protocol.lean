import MachineProvisioning.Program

/-! # Programs under a protocol

A protocol says which requests are allowed in a state and which states an answer can lead to. A
program keeps a protocol when all its requests are allowed whatever the answers are. This holds of
every trace of the program, and of its run when a state answers as the protocol says.
-/

namespace MachineProvisioning

variable {Op : Type} {Answer : Op → Type} {α β σ τ : Type}

/-- A request with its answer. -/
abbrev Program.Exchange (Op : Type) (Answer : Op → Type) : Type := (op : Op) × Answer op

open Program (Exchange)

/-- Which requests are allowed in a state, and where their answers lead. -/
structure Protocol (Op : Type) (Answer : Op → Type) (σ : Type) where
  allows : σ → Op → Prop
  leads : σ → (op : Op) → Answer op → σ → Prop

namespace Protocol

/-- The state is what has been exchanged so far. What is allowed depends on it, and so does which
    answers are `fair`: no others are considered. -/
def history (allows : List (Exchange Op Answer) → Op → Prop)
    (fair : List (Exchange Op Answer) → Exchange Op Answer → Prop) :
    Protocol Op Answer (List (Exchange Op Answer)) where
  allows := allows
  leads past op answer next := fair past ⟨op, answer⟩ ∧ next = past ++ [⟨op, answer⟩]

/-- A state answers every request itself. No answers but `fair` ones are considered. -/
def answering (answer : (op : Op) → σ → Answer op × σ) (fair : Exchange Op Answer → Prop) :
    Protocol Op Answer σ where
  allows _ _ := True
  leads s op reply next := (reply, next) = answer op s ∧ fair ⟨op, reply⟩

/-- Requests of this kind are allowed and keep the invariant. -/
def Tolerates (P : Protocol Op Answer σ) (invariant : σ → Prop) (kind : Op → Prop) : Prop :=
  ∀ s op, invariant s → kind op →
    P.allows s op ∧ ∀ answer s', P.leads s op answer s' → invariant s'

theorem Tolerates.mono {P : Protocol Op Answer σ} {invariant : σ → Prop} {kind kind' : Op → Prop}
    (tolerates : P.Tolerates invariant kind) (narrower : ∀ op, kind' op → kind op) :
    P.Tolerates invariant kind' :=
  fun s op start h => tolerates s op start (narrower op h)

theorem Tolerates.or {P : Protocol Op Answer σ} {left right : σ → Prop} {kind : Op → Prop}
    (first : P.Tolerates left kind) (second : P.Tolerates right kind) :
    P.Tolerates (fun s => left s ∨ right s) kind := by
  intro s op either h
  obtain start | start := either
  · obtain ⟨allowed, keeps⟩ := first s op start h
    exact ⟨allowed, fun answer s' leads => .inl (keeps answer s' leads)⟩
  · obtain ⟨allowed, keeps⟩ := second s op start h
    exact ⟨allowed, fun answer s' leads => .inr (keeps answer s' leads)⟩

/-- These exchanges can lead from one state to another. -/
def Follows (P : Protocol Op Answer σ) : σ → List (Exchange Op Answer) → σ → Prop
  | s, [], s' => s' = s
  | s, exchange :: rest, s'' => ∃ s', P.leads s exchange.1 exchange.2 s' ∧ P.Follows s' rest s''

/-- Exchanges that cannot change the state lead nowhere else. -/
theorem Follows.eq_of_leads_eq {P : Protocol Op Answer σ} {s s'' : σ}
    {exchanges : List (Exchange Op Answer)} (follows : P.Follows s exchanges s'')
    (stays : ∀ exchange ∈ exchanges, ∀ s', P.leads s exchange.1 exchange.2 s' → s' = s) :
    s'' = s := by
  induction exchanges with
  | nil => exact follows
  | cons exchange rest ih =>
      obtain ⟨s', leads, follows⟩ := follows
      obtain rfl := stays exchange (.head rest) s' leads
      exact ih follows fun other mem => stays other (.tail exchange mem)

end Protocol

namespace Program

/-- Every request is allowed, whatever the answers, and the result and the last state satisfy
    `post`. -/
def Keeps (P : Protocol Op Answer σ) : Program Op Answer α → (α → σ → Prop) → σ → Prop
  | .done a, post, s => post a s
  | .ask op next, post, s =>
      P.allows s op ∧ ∀ answer s', P.leads s op answer s' → (next answer).Keeps P post s'

variable {P : Protocol Op Answer σ}

@[simp] theorem keeps_done {post : α → σ → Prop} {a : α} {s : σ} :
    (Program.done a : Program Op Answer α).Keeps P post s ↔ post a s := Iff.rfl

@[simp] theorem keeps_ask {post : α → σ → Prop} {op : Op} {next : Answer op → Program Op Answer α}
    {s : σ} : (Program.ask op next).Keeps P post s ↔
      P.allows s op ∧ ∀ answer s', P.leads s op answer s' → (next answer).Keeps P post s' := Iff.rfl

theorem keeps_bind {post : β → σ → Prop} {p : Program Op Answer α} {f : α → Program Op Answer β}
    {s : σ} : (p >>= f).Keeps P post s ↔ p.Keeps P (fun a s' => (f a).Keeps P post s') s := by
  induction p generalizing s with
  | done a => rfl
  | ask op next ih =>
      simp only [ask_bind, keeps_ask]
      exact and_congr_right fun _ => forall₃_congr fun answer _ _ => ih answer

theorem keeps_map {post : β → σ → Prop} {p : Program Op Answer α} {f : α → β} {s : σ} :
    (f <$> p).Keeps P post s ↔ p.Keeps P (fun a => post (f a)) s := by
  rw [map_eq_pure_bind]
  exact keeps_bind

theorem keeps_request {op : Op} {post : Answer op → σ → Prop} {s : σ} :
    (request op : Program Op Answer (Answer op)).Keeps P post s ↔
      P.allows s op ∧ ∀ answer s', P.leads s op answer s' → post answer s' := Iff.rfl

theorem Keeps.mono {post post' : α → σ → Prop} {p : Program Op Answer α} {s : σ}
    (h : p.Keeps P post s) (weaker : ∀ a s', post a s' → post' a s') : p.Keeps P post' s := by
  induction p generalizing s with
  | done a => exact weaker a s h
  | ask op next ih => exact ⟨h.1, fun answer s' leads => ih answer (h.2 answer s' leads)⟩

/-- A program that keeps a protocol keeps one that allows more and leads nowhere else. -/
theorem Keeps.permit {Q : Protocol Op Answer σ} {post : α → σ → Prop} {p : Program Op Answer α}
    {s : σ} (h : p.Keeps P post s) (allows : ∀ s op, P.allows s op → Q.allows s op)
    (leads : ∀ s op answer s', Q.leads s op answer s' → P.leads s op answer s') :
    p.Keeps Q post s := by
  induction p generalizing s with
  | done a => exact h
  | ask op next ih =>
      exact ⟨allows s op h.1, fun answer s' led => ih answer (h.2 answer s' (leads s op answer s' led))⟩

/-- Every request of the program is of this kind. -/
def Asks (kind : Op → Prop) : Program Op Answer α → Prop
  | .done _ => True
  | .ask op next => kind op ∧ ∀ answer, (next answer).Asks kind

theorem asks_done {kind : Op → Prop} (a : α) : (Program.done a : Program Op Answer α).Asks kind :=
  trivial

theorem asks_request {kind : Op → Prop} {op : Op} (h : kind op) :
    (request op : Program Op Answer (Answer op)).Asks kind := ⟨h, fun _ => trivial⟩

theorem Asks.bind {kind : Op → Prop} {p : Program Op Answer α} {f : α → Program Op Answer β}
    (first : p.Asks kind) (rest : ∀ a, (f a).Asks kind) : (p >>= f).Asks kind := by
  induction p with
  | done a => exact rest a
  | ask op next ih => exact ⟨first.1, fun answer => ih answer (first.2 answer)⟩

theorem Asks.mono {kind kind' : Op → Prop} {p : Program Op Answer α} (asks : p.Asks kind)
    (wider : ∀ op, kind op → kind' op) : p.Asks kind' := by
  induction p with
  | done a => trivial
  | ask op next ih => exact ⟨wider op asks.1, fun answer => ih answer (asks.2 answer)⟩

theorem Asks.map {kind : Op → Prop} {p : Program Op Answer α} (asks : p.Asks kind) (f : α → β) :
    (f <$> p).Asks kind := by
  rw [map_eq_pure_bind]
  exact asks.bind fun a => asks_done (f a)

/-- Requests that a protocol tolerates keep its invariant to the end. -/
theorem Asks.keeps {kind : Op → Prop} {invariant : σ → Prop} {p : Program Op Answer α} {s : σ}
    (asks : p.Asks kind) (tolerates : P.Tolerates invariant kind) (start : invariant s) :
    p.Keeps P (fun _ s' => invariant s') s := by
  induction p generalizing s with
  | done a => exact start
  | ask op next ih =>
      obtain ⟨allowed, keeps⟩ := tolerates s op start asks.1
      exact ⟨allowed, fun answer s' leads => ih answer (asks.2 answer) (keeps answer s' leads)⟩

/-- Every result of the program is one of these. -/
def Ends (outcome : α → Prop) : Program Op Answer α → Prop
  | .done a => outcome a
  | .ask _ next => ∀ answer, (next answer).Ends outcome

theorem Ends.bind {outcome : α → Prop} {outcome' : β → Prop} {p : Program Op Answer α}
    {f : α → Program Op Answer β} (first : p.Ends outcome)
    (rest : ∀ a, outcome a → (f a).Ends outcome') : (p >>= f).Ends outcome' := by
  induction p with
  | done a => exact rest a first
  | ask op next ih => exact fun answer => ih answer (first answer)

theorem ends_anyhow (p : Program Op Answer α) : p.Ends fun _ => True := by
  induction p with
  | done a => trivial
  | ask op next ih => exact ih

theorem Ends.mono {outcome outcome' : α → Prop} {p : Program Op Answer α} (ends : p.Ends outcome)
    (wider : ∀ a, outcome a → outcome' a) : p.Ends outcome' := by
  induction p with
  | done a => exact wider a ends
  | ask op next ih => exact fun answer => ih answer (ends answer)

theorem Keeps.and_ends {outcome : α → Prop} {post : α → σ → Prop} {p : Program Op Answer α} {s : σ}
    (h : p.Keeps P post s) (ends : p.Ends outcome) :
    p.Keeps P (fun a s' => outcome a ∧ post a s') s := by
  induction p generalizing s with
  | done a => exact ⟨ends, h⟩
  | ask op next ih => exact ⟨h.1, fun answer s' leads => ih answer (h.2 answer s' leads) (ends answer)⟩

theorem trace_request {op : Op} (answer : Answer op) :
    Trace (request op : Program Op Answer (Answer op)) [⟨op, answer⟩] answer :=
  .ask answer (.done answer)

theorem Trace.of_request {op : Op} {exchanges : List (Exchange Op Answer)} {answer : Answer op}
    (trace : Trace (request op : Program Op Answer (Answer op)) exchanges answer) :
    exchanges = [⟨op, answer⟩] := by
  cases trace with
  | ask answer rest =>
      cases rest
      rfl

theorem Trace.bind {p : Program Op Answer α} {f : α → Program Op Answer β} {a : α} {b : β}
    {first rest : List (Exchange Op Answer)} (trace : Trace p first a) (after : Trace (f a) rest b) :
    Trace (p >>= f) (first ++ rest) b := by
  induction trace with
  | done a => exact after
  | ask answer _ ih => exact .ask answer (ih after)

theorem Trace.of_bind {p : Program Op Answer α} {f : α → Program Op Answer β} {b : β}
    {exchanges : List (Exchange Op Answer)} (trace : Trace (p >>= f) exchanges b) :
    ∃ first rest a, exchanges = first ++ rest ∧ Trace p first a ∧ Trace (f a) rest b := by
  induction p generalizing exchanges with
  | done a => exact ⟨[], exchanges, a, rfl, .done a, trace⟩
  | ask op next ih =>
      rw [ask_bind] at trace
      cases trace with
      | ask answer after =>
          obtain ⟨first, rest, a, rfl, start, after⟩ := ih answer after
          exact ⟨_ :: first, rest, a, rfl, .ask answer start, after⟩

theorem Trace.map {p : Program Op Answer α} {exchanges : List (Exchange Op Answer)} {a : α}
    (trace : Trace p exchanges a) (f : α → β) : Trace (f <$> p) exchanges (f a) := by
  rw [map_eq_pure_bind, ← List.append_nil exchanges]
  exact trace.bind (.done (f a))

theorem Trace.of_map {p : Program Op Answer α} {f : α → β} {b : β}
    {exchanges : List (Exchange Op Answer)} (trace : Trace (f <$> p) exchanges b) :
    ∃ a, Trace p exchanges a ∧ b = f a := by
  rw [map_eq_pure_bind] at trace
  obtain ⟨first, rest, a, rfl, once, after⟩ := Trace.of_bind trace
  cases after
  exact ⟨a, by simpa using once, rfl⟩

theorem Ends.trace {outcome : α → Prop} {p : Program Op Answer α} (ends : p.Ends outcome)
    {exchanges : List (Exchange Op Answer)} {a : α} (trace : Trace p exchanges a) : outcome a := by
  induction trace with
  | done a => exact ends
  | ask answer _ ih => exact ih (ends answer)

theorem Asks.trace {kind : Op → Prop} {p : Program Op Answer α} (asks : p.Asks kind)
    {exchanges : List (Exchange Op Answer)} {a : α} (trace : Trace p exchanges a) :
    ∀ exchange ∈ exchanges, kind exchange.1 := by
  induction trace with
  | done a => simp
  | ask answer _ ih => exact List.forall_mem_cons.mpr ⟨asks.1, ih (asks.2 answer)⟩

/-- What a program that keeps a protocol ends with when its exchanges follow it. -/
theorem Keeps.follow {post : α → σ → Prop} {p : Program Op Answer α} {s s' : σ}
    {exchanges : List (Exchange Op Answer)} {result : α} (h : p.Keeps P post s)
    (trace : Trace p exchanges result) (follows : P.Follows s exchanges s') : post result s' := by
  induction trace generalizing s with
  | done a =>
      cases follows
      exact h
  | ask answer rest ih =>
      obtain ⟨next, leads, follows⟩ := follows
      exact ih (h.2 answer next leads) follows

/-- What a program that keeps a history asks for in any of its traces, as long as it has been answered
    fairly. -/
theorem Keeps.allowed {allows : List (Exchange Op Answer) → Op → Prop}
    {fair : List (Exchange Op Answer) → Exchange Op Answer → Prop}
    {post : α → List (Exchange Op Answer) → Prop} {p : Program Op Answer α}
    {past exchanges before after : List (Exchange Op Answer)} {exchange : Exchange Op Answer}
    {result : α} (h : p.Keeps (.history allows fair) post past) (trace : Trace p exchanges result)
    (split : exchanges = before ++ exchange :: after)
    (fairly : ∀ first next rest, before = first ++ next :: rest → fair (past ++ first) next) :
    allows (past ++ before) exchange.1 := by
  induction trace generalizing past before with
  | done a => simp at split
  | @ask op next exchanges result answer rest ih =>
      cases before with
      | nil =>
          obtain ⟨rfl, rfl⟩ := List.cons.inj split
          exact (List.append_nil past).symm ▸ h.1
      | cons first before =>
          obtain ⟨rfl, rfl⟩ := List.cons.inj split
          have here : fair past ⟨op, answer⟩ := by simpa using fairly [] ⟨op, answer⟩ before rfl
          have allowed := ih (h.2 answer _ ⟨here, rfl⟩) rfl fun earlier next later split => by
            simpa using fairly (⟨op, answer⟩ :: earlier) next later (by simp [split])
          simpa using allowed

/-- What a program that keeps a history does in any of its traces. -/
theorem Keeps.trace {allows : List (Exchange Op Answer) → Op → Prop}
    {fair : List (Exchange Op Answer) → Exchange Op Answer → Prop}
    {post : α → List (Exchange Op Answer) → Prop} {p : Program Op Answer α}
    {past exchanges : List (Exchange Op Answer)} {result : α}
    (h : p.Keeps (.history allows fair) post past) (trace : Trace p exchanges result)
    (fairly : ∀ before exchange after, exchanges = before ++ exchange :: after →
      fair (past ++ before) exchange) :
    post result (past ++ exchanges) ∧
      ∀ before exchange after, exchanges = before ++ exchange :: after →
        allows (past ++ before) exchange.1 := by
  constructor
  · induction trace generalizing past with
    | done a => simpa using h
    | @ask op next exchanges result answer rest ih =>
        have here : fair past ⟨op, answer⟩ := by simpa using fairly [] ⟨op, answer⟩ exchanges rfl
        have last := ih (h.2 answer _ ⟨here, rfl⟩) fun before exchange after split => by
          simpa using fairly (⟨op, answer⟩ :: before) exchange after (by simp [split])
        simpa using last
  · rintro before exchange after rfl
    refine h.allowed trace rfl fun first next rest split => ?_
    exact fairly first next (rest ++ exchange :: after) (by simp [split])

/-- The exchanges of a run. -/
def exchanges (answer : (op : Op) → σ → Answer op × σ) :
    Program Op Answer α → σ → List (Exchange Op Answer)
  | .done _, _ => []
  | .ask op next, s =>
      ⟨op, (answer op s).1⟩ :: (next (answer op s).1).exchanges answer (answer op s).2

/-- What is made of the result changes none of the exchanges. -/
theorem exchanges_map (answer : (op : Op) → σ → Answer op × σ) (p : Program Op Answer α) (f : α → β)
    (s : σ) : (f <$> p).exchanges answer s = p.exchanges answer s := by
  rw [map_eq_pure_bind]
  induction p generalizing s with
  | done a => rfl
  | ask op next ih => exact congrArg (_ :: ·) (ih _ _)

/-- A run is one of the traces of its program. -/
theorem trace_exchanges (answer : (op : Op) → σ → Answer op × σ) (p : Program Op Answer α) (s : σ) :
    Trace p (p.exchanges answer s) (p.run answer s).1 := by
  induction p generalizing s with
  | done a => exact .done a
  | ask op next ih => exact .ask _ (ih _ _)

/-- The states in which a run makes its requests. -/
def stages (answer : (op : Op) → σ → Answer op × σ) : Program Op Answer α → σ → List σ
  | .done _, _ => []
  | .ask op next, s => s :: (next (answer op s).1).stages answer (answer op s).2

/-- What a program that keeps a protocol does when a state answers it fairly. -/
theorem Keeps.run {answer : (op : Op) → σ → Answer op × σ} {fair : Exchange Op Answer → Prop}
    {post : α → σ → Prop} {p : Program Op Answer α} {s : σ}
    (h : p.Keeps (.answering answer fair) post s)
    (fairly : ∀ exchange ∈ p.exchanges answer s, fair exchange) :
    post (p.run answer s).1 (p.run answer s).2 := by
  induction p generalizing s with
  | done a => exact h
  | ask op next ih =>
      have rest := h.2 _ _ ⟨rfl, fairly _ (.head _)⟩
      exact ih _ rest fun exchange mem => fairly exchange (.tail _ mem)

/-- What every answer of a state satisfies and what every answer preserves, over a run. -/
theorem exchanges_invariant {answer : (op : Op) → σ → Answer op × σ} (invariant : σ → Prop)
    (property : Exchange Op Answer → Prop)
    (step : ∀ op s, invariant s → property ⟨op, (answer op s).1⟩ ∧ invariant (answer op s).2)
    (p : Program Op Answer α) (s : σ) (start : invariant s) :
    (∀ exchange ∈ p.exchanges answer s, property exchange) ∧ invariant (p.run answer s).2 := by
  induction p generalizing s with
  | done a => exact ⟨(fun exchange mem => nomatch mem), start⟩
  | ask op next ih =>
      obtain ⟨here, after⟩ := step op s start
      obtain ⟨rest, last⟩ := ih _ _ after
      refine ⟨fun exchange mem => ?_, last⟩
      cases mem with
      | head => exact here
      | tail _ mem => exact rest exchange mem

/-- A run follows a protocol that looks at a part of the state. -/
theorem follows_exchanges {answer : (op : Op) → σ → Answer op × σ} {P : Protocol Op Answer τ}
    (view : σ → τ)
    (step : ∀ op s, P.leads (view s) op (answer op s).1 (view (answer op s).2))
    (p : Program Op Answer α) (s : σ) :
    P.Follows (view s) (p.exchanges answer s) (view (p.run answer s).2) := by
  induction p generalizing s with
  | done a => rfl
  | ask op next ih => exact ⟨_, step op s, ih _ _⟩

end Program

end MachineProvisioning
