import Converge.Proofs.Calls
import Converge.Proofs.Course
import Converge.Proofs.Passes
import Converge.Proofs.Provider.Reachable

/-! Programs together with the record of what they ask and are told. The record is part of the
state, so that what a pass says of itself can be held against the calls that it made. -/
namespace Converge

namespace Program

variable {Call : Type} {Reply : Call → Type} {α β σ : Type} {answers : Answers Call Reply σ}
  {allowed : Call → Prop}

def traced (answers : Answers Call Reply σ) :
    Answers Call Reply (σ × List (Exchange Call Reply)) :=
  fun call before reply after =>
    answers call before.1 reply after.1 ∧ after.2 = before.2 ++ [⟨call, reply⟩]

def logging (serve : (call : Call) → σ → Reply call × σ) (call : Call)
    (state : σ × List (Exchange Call Reply)) :
    Reply call × σ × List (Exchange Call Reply) :=
  let (reply, after) := serve call state.1
  (reply, after, state.2 ++ [⟨call, reply⟩])

theorem run_logging (serve : (call : Call) → σ → Reply call × σ) (program : Program Call Reply α)
    (state : σ) (log : List (Exchange Call Reply)) :
    program.run (logging serve) (state, log) =
      ((program.run serve state).1, (program.run serve state).2,
        log ++ program.transcript serve state) := by
  induction program generalizing state log with
  | done value => simp [transcript]
  | ask call next ih =>
    have rest := ih (serve call state).1 (serve call state).2
      (log ++ [⟨call, (serve call state).1⟩])
    rw [List.append_assoc] at rest
    exact rest

theorem transcript_bind (serve : (call : Call) → σ → Reply call × σ)
    (program : Program Call Reply α) (next : α → Program Call Reply β) (state : σ) :
    (program >>= next).transcript serve state = program.transcript serve state ++
      (next (program.run serve state).1).transcript serve (program.run serve state).2 := by
  induction program generalizing state with
  | done value => rfl
  | ask call rest ih =>
    exact congrArg (_ :: ·) (ih (serve call state).1 (serve call state).2)

theorem post_run_recorded {post : α → Unit × List (Exchange Call Reply) → Prop}
    (serve : (call : Call) → σ → Reply call × σ) (program : Program Call Reply α) (state : σ)
    (log : List (Exchange Call Reply))
    (always : program.Always (traced anyReply) post ((), log)) :
    post (program.run serve state).1 ((), log ++ program.transcript serve state) := by
  have logged := post_run (traced anyReply) (logging serve) (fun state => ((), state.2))
    (fun _ _ => True) (fun _ => trivial) (fun _ _ _ _ _ => trivial) (fun _ _ => trivial) program
    (state, log) (fun _ _ _ _ => ⟨trivial, rfl⟩) always
  rw [run_logging] at logged
  exact logged

theorem Always.traced {post : α → σ → Prop} {program : Program Call Reply α} {state : σ}
    (always : program.Always answers post state) (log : List (Exchange Call Reply)) :
    program.Always (Program.traced answers) (fun value after => post value after.1)
      (state, log) := by
  induction program generalizing state log with
  | done value => exact always
  | ask call next ih =>
    rintro reply ⟨after, longer⟩ ⟨answered, -⟩
    exact ih reply (always reply after answered) longer

theorem Asks.forall_transcript {program : Program Call Reply α} (asks : program.Asks allowed)
    (serve : (call : Call) → σ → Reply call × σ) (state : σ) :
    ∀ taken ∈ program.transcript serve state, allowed taken.call := by
  induction program generalizing state with
  | done value => exact nofun
  | ask call next ih => exact List.forall_mem_cons.2 ⟨asks.1, ih _ (asks.2 _) _⟩

theorem Asks.always_kept (kept : σ → Prop) {program : Program Call Reply α} {state : σ}
    (asks : program.Asks allowed)
    (keeps : ∀ call before reply after, allowed call → kept before →
      answers call before reply after → kept after)
    (start : kept state) : program.Always answers (fun _ after => kept after) state := by
  induction program generalizing state with
  | done value => exact start
  | ask call next ih =>
    exact fun reply after answered =>
      ih reply (asks.2 reply) (keeps call state reply after asks.1 start answered)

end Program

namespace Manager

variable {Call : Type} {Reply : Call → Type} {D O σ : Type}

theorem pass_eq (manager : Manager Call Reply D O) (desired : D) (token : Token)
    (last : Option O) :
    manager.pass desired token last = (do
      match ← (manager.observe desired last).outcome with
      | .error failure => pure ⟨last, .none, .failed failure⟩
      | .ok none => manager.part desired (Pass.create last token)
      | .ok (some observed) =>
        manager.part desired (Pass.update manager.collectionPaths observed)) := by
  refine congrArg (Program.andThen (manager.observe desired last).outcome)
    (funext fun reply => ?_)
  match reply with
  | .error failure => rfl
  | .ok none => rfl
  | .ok (some observed) => rfl

section Found

variable {manager : Manager Call Reply D O} {desired : D} {token : Token} {last : Option O}
  {serve : (call : Call) → σ → Reply call × σ} {state : σ} {found : O}
  (finds : ((manager.observe desired last).outcome.run serve state).1 = .ok (some found))

include finds

theorem run_pass_of_found :
    (manager.pass desired token last).run serve state =
      (manager.part desired (Pass.update manager.collectionPaths found)).run serve
        ((manager.observe desired last).outcome.run serve state).2 := by
  rw [pass_eq, Program.run_bind, finds]

theorem transcript_pass_of_found :
    (manager.pass desired token last).transcript serve state =
      (manager.observe desired last).outcome.transcript serve state ++
        (manager.part desired (Pass.update manager.collectionPaths found)).transcript serve
          ((manager.observe desired last).outcome.run serve state).2 := by
  rw [pass_eq, Program.transcript_bind, finds]

end Found

end Manager

namespace Provider

open Program

abbrev Log : Type := List (Exchange Call Call.Reply)

/-- The call was carried out. -/
def Succeeded (taken : Exchange Call Call.Reply) : Prop := ∃ value, taken.reply = .ok value

instance (taken : Exchange Call Call.Reply) : Decidable (Succeeded taken) :=
  match reply : taken.reply with
  | .ok value => isTrue ⟨value, reply⟩
  | .error _ => isFalse fun ⟨_, same⟩ => nomatch reply.symm.trans same

def Faultless (log : Log) : Prop := ∀ taken ∈ log, Succeeded taken

instance (log : Log) : Decidable (Faultless log) := inferInstanceAs (Decidable (∀ _ ∈ _, _))

theorem faultless_concat_iff (log : Log) (taken : Exchange Call Call.Reply) :
    Faultless (log ++ [taken]) ↔ Faultless log ∧ Succeeded taken := by
  simp [Faultless, or_imp, forall_and]

def about (sort : Call → Bool) (log : Log) : Log := log.filter fun taken => sort taken.call

theorem about_concat (sort : Call → Bool) (log : Log) (taken : Exchange Call Call.Reply) :
    about sort (log ++ [taken]) = about sort log ++ if sort taken.call then [taken] else [] := by
  rw [about, List.filter_append, List.filter_cons, List.filter_nil]
  rfl

def CarriedOut (sort : Call → Bool) (log : Log) : Prop := ∃ taken ∈ about sort log, Succeeded taken

instance (sort : Call → Bool) (log : Log) : Decidable (CarriedOut sort log) :=
  inferInstanceAs (Decidable (∃ _ ∈ _, _))

section CarriedOut

variable {sort : Call → Bool} {log longer : Log}

theorem not_carriedOut_of_none (none : about sort log = []) : ¬CarriedOut sort log := by
  simp [CarriedOut, none]

theorem carriedOut_concat_iff (log : Log) (taken : Exchange Call Call.Reply)
    (sorted : sort taken.call = true) :
    CarriedOut sort (log ++ [taken]) ↔ CarriedOut sort log ∨ Succeeded taken := by
  simp [CarriedOut, about_concat, sorted, or_and_right, exists_or]

theorem carriedOut_congr (same : about sort longer = about sort log) :
    CarriedOut sort longer ↔ CarriedOut sort log := by
  simp only [CarriedOut, same]

end CarriedOut

def Unfailing (sort : Call → Bool) (log : Log) : Prop := ∀ taken ∈ about sort log, Succeeded taken

instance (sort : Call → Bool) (log : Log) : Decidable (Unfailing sort log) :=
  inferInstanceAs (Decidable (∀ _ ∈ _, _))

section Unfailing

variable {sort : Call → Bool} {log longer : Log}

theorem unfailing_of_none (none : about sort log = []) : Unfailing sort log := by
  simp [Unfailing, none]

theorem unfailing_concat_iff (log : Log) (taken : Exchange Call Call.Reply)
    (sorted : sort taken.call = true) :
    Unfailing sort (log ++ [taken]) ↔ Unfailing sort log ∧ Succeeded taken := by
  simp [Unfailing, about_concat, sorted, or_imp, forall_and]

theorem unfailing_congr (same : about sort longer = about sort log) :
    Unfailing sort longer ↔ Unfailing sort log := by
  simp only [Unfailing, same]

end Unfailing

theorem Faultless.unfailing {log : Log} (fine : Faultless log) (sort : Call → Bool) :
    Unfailing sort log := fun taken member => fine taken (List.mem_filter.1 member).1

theorem always_about_same {α σ : Type} {sort : Call → Bool} {program : Program Call Call.Reply α}
    {answers : Answers Call Call.Reply σ} {state : σ} {log : Log}
    (asks : program.Asks fun call => sort call = false) :
    program.Always (traced answers) (fun _ after => about sort after.2 = about sort log)
      (state, log) := by
  refine Asks.always_kept (fun state : σ × Log => about sort state.2 = about sort log) asks ?_ rfl
  rintro call ⟨before, record⟩ reply ⟨after, longer⟩ other kept ⟨-, rfl⟩
  rw [about_concat, kept, other]
  exact List.append_nil _

theorem always_valid {α : Type} {site : Site} {refusal : Call → Failure → Prop}
    {registry : Registry} (program : Program Call Call.Reply α) (valid : registry.Valid site) :
    program.Always (Answered site refusal) (fun _ after => after.Valid site) registry := by
  induction program generalizing registry with
  | done value => exact valid
  | ask call next ih => exact fun reply after answered => ih reply (answered.valid valid).1

namespace World

variable {α : Type} {world : World} {post : α → Registry × Log → Prop}

theorem post_run_traced (refusal : Call → Failure → Prop)
    (cut : ∀ call failure, failure = .cancelled ∨ failure = .deadlineExceeded →
      refusal call failure)
    (faulted : ∀ fault ∈ world.journal.faults, ∀ call message,
      refusal call (.provider fault.code message))
    (bounds : Bounds) (program : Program Call Call.Reply α) (log : Log)
    (always : program.Always (traced (Answered world.site refusal)) post (world.registry, log)) :
    post (program.run (World.serve bounds) world).1
      ((program.run (World.serve bounds) world).2.registry,
        log ++ program.transcript (World.serve bounds) world) := by
  have logged := Program.post_run (traced (Answered world.site refusal))
    (logging (World.serve bounds)) (fun state => (state.1.registry, state.2))
    (fun before after => Later before.1 after.1) (fun state => .refl state.1)
    (fun first second third => .trans first.1 second.1 third.1) (fun _ _ => serve_later) program
    (world, log) (fun call middle before _ => ?_) always
  · rw [run_logging] at logged
    exact logged
  · refine ⟨?_, rfl⟩
    have site : middle.1.site = world.site := before.site
    rw [← site]
    exact serve_answered refusal (cut call) fun fault member _ _ _ =>
      faulted fault (before.faults fault member) call _

theorem post_run_traced_bind {β : Type} {middle : α → Registry × Log → Prop}
    {post : β → Registry × Log → Prop} (refusal : Call → Failure → Prop)
    (cut : ∀ call failure, failure = .cancelled ∨ failure = .deadlineExceeded →
      refusal call failure)
    (faulted : ∀ fault ∈ world.journal.faults, ∀ call message,
      refusal call (.provider fault.code message))
    (bounds : Bounds) (program : Program Call Call.Reply α) (next : α → Program Call Call.Reply β)
    (log : Log)
    (always : program.Always (traced (Answered world.site refusal)) middle (world.registry, log))
    (rest : ∀ after, middle (program.run (World.serve bounds) world).1 after →
      (next (program.run (World.serve bounds) world).1).Always
        (traced (Answered world.site refusal)) post after) :
    post ((program >>= next).run (World.serve bounds) world).1
      (((program >>= next).run (World.serve bounds) world).2.registry,
        log ++ (program >>= next).transcript (World.serve bounds) world) := by
  have later : Later world (program.run (World.serve bounds) world).2 := run_later
  have begun := rest _ (post_run_traced refusal cut faulted bounds program log always)
  rw [← later.site] at begun
  have ended := post_run_traced refusal cut
    (fun fault member => faulted fault (later.faults fault member)) bounds _ _ begun
  rw [List.append_assoc, ← Program.transcript_bind] at ended
  rw [Program.run_bind]
  exact ended

end World

end Provider

namespace Manager

open Program Provider

variable {D O : Type}

def calls (manager : Manager Call Call.Reply D O) (desired : D) (bounds : Bounds)
    (last : Option O) (world : World) : Log :=
  (manager.pass desired (manager.token desired world.now) last).transcript (World.serve bounds)
    world

variable {manager : Manager Call Call.Reply D O} {desired : D} {last : Option O} {world : World}

theorem post_pass_of_found {found : O} {middle : Except Failure (Option O) → Registry × Log → Prop}
    {post : PassResult O → Registry × Log → Prop} (refusal : Call → Failure → Prop)
    (cut : ∀ call failure, failure = .cancelled ∨ failure = .deadlineExceeded →
      refusal call failure)
    (faulted : ∀ fault ∈ world.journal.faults, ∀ call message,
      refusal call (.provider fault.code message))
    (bounds : Bounds)
    (finds : ((manager.observe desired last).outcome.run (World.serve bounds) world).1 =
      .ok (some found))
    (looks : (manager.observe desired last).outcome.Always (traced (Answered world.site refusal))
      middle (world.registry, []))
    (rest : ∀ after, middle (.ok (some found)) after →
      (manager.part desired (Pass.update manager.collectionPaths found)).Always
        (traced (Answered world.site refusal)) post after) :
    let pass := manager.pass desired (manager.token desired world.now) last
    post (pass.run (World.serve bounds) world).1
      ((pass.run (World.serve bounds) world).2.registry,
        manager.calls desired bounds last world) := by
  intro pass
  have ended := World.post_run_traced_bind refusal cut faulted bounds _ (fun reply =>
    match reply with
    | .error failure => pure ⟨last, .none, .failed failure⟩
    | .ok none => manager.part desired (Pass.create last (manager.token desired world.now))
    | .ok (some observed) =>
      manager.part desired (Pass.update manager.collectionPaths observed)) [] looks
    (fun after shown => by
      rw [finds] at shown ⊢
      exact rest after shown)
  rw [List.nil_append] at ended
  simp only [pass, calls, pass_eq]
  exact ended

end Manager

end Converge
