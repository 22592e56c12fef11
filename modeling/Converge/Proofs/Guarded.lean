import Converge.Proofs.Calls
import Converge.Proofs.Replies

/-! Programs that keep to the calls they are allowed. What is allowed depends on where a program
stands, and nothing is known of where it stands once it has made another call. So a program that is
sure to end where something is known has made none but allowed calls. -/
namespace Converge

namespace Program

variable {Call : Type} {Reply : Call → Type} {α σ : Type} {allowed : Call → σ → Prop}
  {answers : Answers Call Reply σ}

/-- Answers as long as all calls are allowed. -/
def guarded (allowed : Call → σ → Prop) (answers : Answers Call Reply σ) :
    Answers Call Reply (Option σ)
  | call, some before, reply, some after => allowed call before ∧ answers call before reply after
  | call, some before, _, none => ¬allowed call before
  | _, none, _, none => True
  | _, none, _, some _ => False

def Within (post : α → σ → Prop) (value : α) (state : Option σ) : Prop :=
  ∃ known, state = some known ∧ post value known

theorem Within.imp {β : Type} {post : α → σ → Prop} {other : β → σ → Prop} {value : α} {result : β}
    {state : Option σ} (within : Within post value state)
    (weaken : ∀ known, post value known → other result known) : Within other result state := by
  obtain ⟨known, rfl, holds⟩ := within
  exact ⟨known, rfl, weaken known holds⟩

theorem always_request_guarded {call : Call} {post : Reply call → Option σ → Prop} {state : σ}
    (fine : allowed call state)
    (given : ∀ reply after, answers call state reply after → post reply (some after)) :
    (request call : Program Call Reply (Reply call)).Always (guarded allowed answers) post
      (some state) := by
  refine (always_request _ _ _).2 fun reply after => ?_
  cases after with
  | none => exact fun forbidden => (forbidden fine).elim
  | some after => exact fun answered => given reply after answered.2

theorem Always.guarded_request {call : Call} {post : Reply call → σ → Prop} {state : σ}
    (always : (request call : Program Call Reply (Reply call)).Always answers post state)
    (fine : allowed call state) :
    (request call : Program Call Reply (Reply call)).Always (guarded allowed answers) (Within post)
      (some state) :=
  always_request_guarded fine fun reply after answered => ⟨after, rfl, always reply after answered⟩

theorem Always.guarded {post : α → σ → Prop} {program : Program Call Reply α} {state : σ}
    (always : program.Always answers post state)
    (asks : program.Asks fun call => ∀ state, allowed call state) :
    program.Always (Program.guarded allowed answers) (Within post) (some state) := by
  induction program generalizing state with
  | done value => exact ⟨state, rfl, always⟩
  | ask call next ih =>
    rintro reply (_ | after) given
    · exact (given (asks.1 state)).elim
    · exact ih reply (always reply after given.2) (asks.2 reply)

theorem Asks.always_within {program : Program Call Reply α} {state : σ}
    (asks : program.Asks fun call => ∀ state, allowed call state) :
    program.Always (guarded allowed answers) (Within fun _ _ => True) (some state) :=
  Always.guarded (.of_forall fun _ _ => trivial) asks

theorem not_always_none [∀ call, Nonempty (Reply call)] {post : α → σ → Prop}
    (program : Program Call Reply α) :
    ¬program.Always (guarded allowed answers) (Within post) none := by
  induction program with
  | done value =>
    rintro ⟨known, same, -⟩
    cases same
  | ask call next ih =>
    obtain ⟨reply⟩ := ‹∀ call, Nonempty (Reply call)› call
    exact fun always => ih reply (always reply none trivial)

section Next

variable [∀ call, Nonempty (Reply call)] {post : α → σ → Prop} {call : Call}
  {next : Reply call → Program Call Reply α} {state : σ}
  (always : (ask call next).Always (guarded allowed answers) (Within post) (some state))

include always

theorem allowed_of_always : allowed call state := by
  refine Classical.byContradiction fun forbidden => ?_
  obtain ⟨reply⟩ := ‹∀ call, Nonempty (Reply call)› call
  exact not_always_none (next reply) (always reply none forbidden)

theorem always_next {reply : Reply call} {after : σ} (answered : answers call state reply after) :
    (next reply).Always (guarded allowed answers) (Within post) (some after) :=
  always reply (some after) ⟨allowed_of_always always, answered⟩

end Next

theorem Asks.always_same {calm : Call → Prop} {program : Program Call Reply α} {state : σ}
    (asks : program.Asks calm) (fine : ∀ call, calm call → allowed call state)
    (stays : ∀ call reply after, calm call → answers call state reply after → after = state) :
    program.Always (guarded allowed answers) (fun _ after => after = some state) (some state) := by
  induction program with
  | done value => rfl
  | ask call next ih =>
    rintro reply (_ | after) given
    · exact (given (fine call asks.1)).elim
    · rw [stays call reply after asks.1 given.2]
      exact ih reply (asks.2 reply)

end Program

end Converge
