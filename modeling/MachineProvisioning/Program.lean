/-! # Programs

A program makes requests one after another and goes on with the answers. It says nothing about who
answers: `run` lets a state do it, and `Trace` relates a program to the exchanges of any of its runs.
-/

namespace MachineProvisioning

/-- A program whose requests are `Op`, answered by `Answer`, and whose result is an `α`. -/
inductive Program (Op : Type) (Answer : Op → Type) (α : Type) : Type where
  | done (result : α)
  | ask (op : Op) (next : Answer op → Program Op Answer α)

namespace Program

variable {Op : Type} {Answer : Op → Type} {α β γ σ : Type}

/-- First one program, then another one that depends on its result. -/
def andThen : Program Op Answer α → (α → Program Op Answer β) → Program Op Answer β
  | .done a, f => f a
  | .ask op next, f => .ask op fun answer => (next answer).andThen f

instance : Monad (Program Op Answer) where
  pure := .done
  bind := andThen

def request (op : Op) : Program Op Answer (Answer op) := .ask op .done

@[simp] theorem done_bind (a : α) (f : α → Program Op Answer β) :
    (Program.done a : Program Op Answer α) >>= f = f a := rfl

@[simp] theorem ask_bind (op : Op) (next : Answer op → Program Op Answer α)
    (f : α → Program Op Answer β) :
    Program.ask op next >>= f = .ask op fun answer => next answer >>= f := rfl

@[simp] theorem pure_eq_done (a : α) : (pure a : Program Op Answer α) = .done a := rfl

theorem andThen_done (p : Program Op Answer α) : p.andThen .done = p := by
  induction p with
  | done a => rfl
  | ask op next ih => exact congrArg (ask op) (funext ih)

theorem andThen_assoc (p : Program Op Answer α) (f : α → Program Op Answer β)
    (g : β → Program Op Answer γ) :
    (p.andThen f).andThen g = p.andThen fun a => (f a).andThen g := by
  induction p with
  | done a => rfl
  | ask op next ih => exact congrArg (ask op) (funext ih)

instance : LawfulMonad (Program Op Answer) := LawfulMonad.mk' _ andThen_done (fun _ _ => rfl) andThen_assoc

/-- Let a state answer the requests, and give back the result and the state after it. -/
def run (answer : (op : Op) → σ → Answer op × σ) : Program Op Answer α → σ → α × σ
  | .done a, s => (a, s)
  | .ask op next, s =>
      let (reply, s) := answer op s
      (next reply).run answer s

@[simp] theorem run_done (answer : (op : Op) → σ → Answer op × σ) (a : α) (s : σ) :
    (Program.done a : Program Op Answer α).run answer s = (a, s) := rfl

@[simp] theorem run_ask (answer : (op : Op) → σ → Answer op × σ) (op : Op)
    (next : Answer op → Program Op Answer α) (s : σ) :
    (Program.ask op next).run answer s =
      (next (answer op s).1).run answer (answer op s).2 := rfl

/-- A run of two programs is a run of the first followed by one of the second. -/
theorem run_bind (answer : (op : Op) → σ → Answer op × σ) (p : Program Op Answer α)
    (f : α → Program Op Answer β) (s : σ) :
    (p >>= f).run answer s = (f (p.run answer s).1).run answer (p.run answer s).2 := by
  induction p generalizing s with
  | done a => rfl
  | ask op next ih => exact ih _ _

/-- The exchanges of a run that ends with a result. -/
inductive Trace : Program Op Answer α → List ((op : Op) × Answer op) → α → Prop where
  | done (a : α) : Trace (.done a) [] a
  | ask {op : Op} {next : Answer op → Program Op Answer α} {exchanges result}
      (answer : Answer op) (rest : Trace (next answer) exchanges result) :
      Trace (.ask op next) (⟨op, answer⟩ :: exchanges) result

end Program

end MachineProvisioning
