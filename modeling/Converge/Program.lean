import Converge.Failure

/-! Programs that make calls. A program is either done or waits for the answer to one call, so it
can be stopped, resumed and interleaved with others between any two calls. What the calls mean is
said by whoever runs the program. -/
namespace Converge

inductive Program (Call : Type) (Reply : Call → Type) (α : Type) where
  | done (value : α)
  | ask (call : Call) (next : Reply call → Program Call Reply α)

namespace Program

variable {Call : Type} {Reply : Call → Type} {Inner : Type} {Answer : Inner → Type}
  {α β γ σ : Type}

def andThen : Program Call Reply α → (α → Program Call Reply β) → Program Call Reply β
  | done value, next => next value
  | ask call rest, next => ask call fun reply => (rest reply).andThen next

instance : Monad (Program Call Reply) where
  pure := done
  bind := andThen

@[simp]
theorem pure_eq (value : α) : (pure value : Program Call Reply α) = done value := rfl

@[simp]
theorem done_bind (value : α) (next : α → Program Call Reply β) :
    (done value >>= next) = next value := rfl

@[simp]
theorem ask_bind (call : Call) (rest : Reply call → Program Call Reply α)
    (next : α → Program Call Reply β) :
    (ask call rest >>= next) = ask call fun reply => rest reply >>= next := rfl

theorem bind_done (program : Program Call Reply α) : (program >>= done) = program := by
  induction program with
  | done value => rfl
  | ask call rest ih => exact congrArg (ask call) (funext ih)

theorem bind_bind (program : Program Call Reply α) (f : α → Program Call Reply β)
    (g : β → Program Call Reply γ) :
    (program >>= f >>= g) = (program >>= fun value => f value >>= g) := by
  induction program with
  | done value => rfl
  | ask call rest ih => exact congrArg (ask call) (funext ih)

instance : LawfulMonad (Program Call Reply) :=
  LawfulMonad.mk' _ bind_done (fun _ _ => rfl) bind_bind

def request (call : Call) : Program Call Reply (Reply call) := ask call done

def run (serve : (call : Call) → σ → Reply call × σ) : Program Call Reply α → σ → α × σ
  | done value, state => (value, state)
  | ask call next, state =>
    let (reply, state) := serve call state
    (next reply).run serve state

/-- Replaces every call by a program that answers it. -/
def expand (meaning : (call : Call) → Program Inner Answer (Reply call)) :
    Program Call Reply α → Program Inner Answer α
  | done value => done value
  | ask call next => (meaning call).andThen fun reply => (next reply).expand meaning

@[simp]
theorem run_done (serve : (call : Call) → σ → Reply call × σ) (value : α) (state : σ) :
    (done value : Program Call Reply α).run serve state = (value, state) := rfl

@[simp]
theorem run_bind (serve : (call : Call) → σ → Reply call × σ) (program : Program Call Reply α)
    (next : α → Program Call Reply β) (state : σ) :
    (program >>= next).run serve state =
      (next (program.run serve state).1).run serve (program.run serve state).2 := by
  induction program generalizing state with
  | done value => rfl
  | ask call rest ih => exact ih _ _

theorem run_expand (serve : (call : Inner) → σ → Answer call × σ)
    (meaning : (call : Call) → Program Inner Answer (Reply call)) (program : Program Call Reply α)
    (state : σ) :
    (program.expand meaning).run serve state =
      program.run (fun call state => (meaning call).run serve state) state := by
  induction program generalizing state with
  | done value => rfl
  | ask call next ih =>
    refine (run_bind serve (meaning call) (fun reply => (next reply).expand meaning) state).trans ?_
    exact ih _ _

end Program

abbrev Attempt (Call : Type) (Reply : Call → Type) : Type → Type :=
  ExceptT Failure (Program Call Reply)

namespace Attempt

variable {Call : Type} {Reply : Call → Type} {α : Type}

def outcome (attempt : Attempt Call Reply α) : Program Call Reply (Except Failure α) :=
  attempt.run

def ofExcept (result : Except Failure α) : Attempt Call Reply α :=
  ExceptT.mk (pure result)

end Attempt

end Converge
