import Converge.Program

/-! What holds of a program however its calls are answered. The answers that a call may get in a
state are given by a relation, so one statement covers every choice of failures and every change
that others make between two calls. -/
namespace Converge

/-- Which reply a call may get in a state, and which state follows. -/
abbrev Answers (Call : Type) (Reply : Call → Type) (σ : Type) : Type :=
  (call : Call) → σ → Reply call → σ → Prop

def anyReply {Call : Type} {Reply : Call → Type} : Answers Call Reply Unit := fun _ _ _ _ => True

namespace Program

variable {Call : Type} {Reply : Call → Type} {Inner : Type} {Answer : Inner → Type}
  {α β σ τ : Type}

/-- However its calls are answered, the program ends with such a value in such a state. -/
def Always (answers : Answers Call Reply σ) (post : α → σ → Prop) :
    Program Call Reply α → σ → Prop
  | done value, state => post value state
  | ask call next, state =>
    ∀ reply after, answers call state reply after → (next reply).Always answers post after

section Rules

variable {answers : Answers Call Reply σ}

theorem always_pure (post : α → σ → Prop) (value : α) (state : σ) :
    (pure value : Program Call Reply α).Always answers post state ↔ post value state := Iff.rfl

theorem always_request (call : Call) (post : Reply call → σ → Prop) (state : σ) :
    (request call : Program Call Reply (Reply call)).Always answers post state ↔
      ∀ reply after, answers call state reply after → post reply after := Iff.rfl

theorem Always.imp {post weaker : α → σ → Prop} {program : Program Call Reply α} {state : σ}
    (always : program.Always answers post state)
    (weaken : ∀ value after, post value after → weaker value after) :
    program.Always answers weaker state := by
  induction program generalizing state with
  | done value => exact weaken value state always
  | ask call next ih => exact fun reply after given => ih reply (always reply after given)

theorem Always.of_forall {post : α → σ → Prop} {program : Program Call Reply α} {state : σ}
    (holds : ∀ value after, post value after) : program.Always answers post state := by
  induction program generalizing state with
  | done value => exact holds value state
  | ask call next ih => exact fun reply after _ => ih reply

theorem Always.and {post other : α → σ → Prop} {program : Program Call Reply α} {state : σ}
    (one : program.Always answers post state) (two : program.Always answers other state) :
    program.Always answers (fun value after => post value after ∧ other value after) state := by
  induction program generalizing state with
  | done value => exact ⟨one, two⟩
  | ask call next ih =>
    exact fun reply after given => ih reply (one reply after given) (two reply after given)

theorem always_iff {post other : α → σ → Prop} {program : Program Call Reply α} {state : σ}
    (same : ∀ value after, post value after ↔ other value after) :
    program.Always answers post state ↔ program.Always answers other state :=
  ⟨fun always => always.imp fun value after => (same value after).1,
    fun always => always.imp fun value after => (same value after).2⟩

theorem Always.restrict {fewer : Answers Call Reply σ} {post : α → σ → Prop}
    {program : Program Call Reply α} {state : σ} (always : program.Always answers post state)
    (narrow : ∀ call state reply after, fewer call state reply after →
      answers call state reply after) :
    program.Always fewer post state := by
  induction program generalizing state with
  | done value => exact always
  | ask call next ih =>
    intro reply after given
    exact ih reply (always reply after (narrow call state reply after given))

theorem always_bind (program : Program Call Reply α) (next : α → Program Call Reply β)
    (post : β → σ → Prop) (state : σ) :
    (program >>= next).Always answers post state ↔
      program.Always answers (fun value after => (next value).Always answers post after)
        state := by
  induction program generalizing state with
  | done value => exact Iff.rfl
  | ask call rest ih =>
    refine forall_congr' fun reply => forall_congr' fun after => imp_congr_right fun _ => ?_
    exact ih reply after

end Rules

/-- A run in which every call is answered as it may be ends as the program always does. Only what
is answered between the start and the end of this very run matters. -/
theorem post_run (answers : Answers Call Reply σ) {post : α → σ → Prop}
    (serve : (call : Call) → τ → Reply call × τ) (view : τ → σ) (later : τ → τ → Prop)
    (refl : ∀ world, later world world)
    (trans : ∀ a b c, later a b → later b c → later a c)
    (grows : ∀ call world, later world (serve call world).2)
    (program : Program Call Reply α) (world : τ)
    (sound : ∀ call middle, later world middle →
      later (serve call middle).2 (program.run serve world).2 →
      answers call (view middle) (serve call middle).1 (view (serve call middle).2))
    (always : program.Always answers post (view world)) :
    post (program.run serve world).1 (view (program.run serve world).2) := by
  have runs : ∀ (program : Program Call Reply α) world,
      later world (program.run serve world).2 := by
    intro program
    induction program with
    | done value => exact refl
    | ask call next ih => exact fun world => trans _ _ _ (grows call world) (ih _ _)
  induction program generalizing world with
  | done value => exact always
  | ask call next ih =>
    have first := sound call world (refl world) (runs _ _)
    refine ih _ _ (fun call middle after before => sound call middle ?_ before)
      (always _ _ first)
    exact trans _ _ _ (grows _ _) after

theorem run_keeps (serve : (call : Call) → τ → Reply call × τ) (kept : τ → Prop)
    (keeps : ∀ call world, kept world → kept (serve call world).2)
    (program : Program Call Reply α) (world : τ) (start : kept world) :
    kept (program.run serve world).2 := by
  induction program generalizing world with
  | done value => exact start
  | ask call next ih => exact ih _ _ (keeps call world start)

theorem expand_bind (meaning : (call : Call) → Program Inner Answer (Reply call))
    (program : Program Call Reply α) (next : α → Program Call Reply β) :
    (program >>= next).expand meaning =
      (program.expand meaning >>= fun value => (next value).expand meaning) := by
  induction program with
  | done value => rfl
  | ask call rest ih =>
    have inner : (fun reply => (rest reply >>= next).expand meaning) =
        fun reply => (rest reply).expand meaning >>= fun value => (next value).expand meaning :=
      funext ih
    calc
      _ = (meaning call >>= fun reply => (rest reply >>= next).expand meaning) := rfl
      _ = (meaning call >>= fun reply =>
            (rest reply).expand meaning >>= fun value => (next value).expand meaning) := by
        rw [inner]
      _ = _ := (bind_bind (meaning call) (fun reply => (rest reply).expand meaning)
            fun value => (next value).expand meaning).symm

theorem expand_request (meaning : (call : Call) → Program Inner Answer (Reply call))
    (call : Call) : (request call).expand meaning = meaning call :=
  bind_done (meaning call)

theorem expand_request_self (program : Program Call Reply α) :
    program.expand request = program := by
  induction program with
  | done value => rfl
  | ask call next ih => exact congrArg (ask call) (funext ih)

end Program

namespace Attempt

open Program

variable {Call : Type} {Reply : Call → Type} {α β σ : Type} {answers : Answers Call Reply σ}

theorem always_outcome_pure (value : α) (post : Except Failure α → σ → Prop) (state : σ) :
    (outcome (pure value : Attempt Call Reply α)).Always answers post state ↔
      post (.ok value) state := Iff.rfl

theorem always_outcome_ofExcept (result : Except Failure α)
    (post : Except Failure α → σ → Prop) (state : σ) :
    (outcome (ofExcept result : Attempt Call Reply α)).Always answers post state ↔
      post result state := Iff.rfl

theorem always_outcome_bind (attempt : Attempt Call Reply α) (next : α → Attempt Call Reply β)
    (post : Except Failure β → σ → Prop) (state : σ) :
    (outcome (attempt >>= next)).Always answers post state ↔
      attempt.outcome.Always answers (fun reply after => match reply with
        | .ok value => (next value).outcome.Always answers post after
        | .error failure => post (.error failure) after) state := by
  refine (always_bind attempt.outcome _ post state).trans (always_iff fun reply after => ?_)
  cases reply <;> exact Iff.rfl

theorem always_ok_bind {attempt : Attempt Call Reply α} {next : α → Attempt Call Reply β}
    {post : β → σ → Prop} {state : σ}
    (rest : ∀ value middle, (next value).outcome.Always answers
      (fun reply after => ∀ result, reply = .ok result → post result after) middle) :
    (outcome (attempt >>= next)).Always answers
      (fun reply after => ∀ result, reply = .ok result → post result after) state := by
  refine (always_outcome_bind attempt next _ state).2 (.of_forall fun reply middle => ?_)
  cases reply with
  | ok value => exact rest value middle
  | error failure => exact fun _ same => nomatch same

end Attempt

end Converge
