import Converge.Proofs.Guarded
import Converge.Proofs.Provider.Transcripts

/-! What a run passes through. A run goes from state to state, one call at a time, so what holds at
its start, and what every call of the program keeps, holds between any two of its calls. -/
namespace Converge

namespace Program

structure Shift (Call σ : Type) where
  call : Call
  before : σ
  after : σ

variable {Call : Type} {Reply : Call → Type} {α β σ : Type} {allowed : Call → Prop}

def moves (serve : (call : Call) → σ → Reply call × σ) :
    Program Call Reply α → σ → List (Shift Call σ)
  | done _, _ => []
  | ask call next, state =>
    let (reply, after) := serve call state
    ⟨call, state, after⟩ :: (next reply).moves serve after

def states (serve : (call : Call) → σ → Reply call × σ) (program : Program Call Reply α)
    (state : σ) : List σ :=
  state :: (program.moves serve state).map Shift.after

variable {serve : (call : Call) → σ → Reply call × σ}

theorem after_mem_states {program : Program Call Reply α} {state : σ} {move : Shift Call σ}
    (made : move ∈ program.moves serve state) : move.after ∈ program.states serve state :=
  List.mem_cons_of_mem _ (List.mem_map_of_mem made)

theorem of_mem_moves {program : Program Call Reply α} {state : σ} {move : Shift Call σ}
    (made : move ∈ program.moves serve state) :
    move.before ∈ program.states serve state ∧ move.after = (serve move.call move.before).2 := by
  induction program generalizing state with
  | done value => cases made
  | ask call next ih =>
    rcases List.mem_cons.1 made with rfl | later
    · exact ⟨List.mem_cons_self, rfl⟩
    · exact (ih _ later).imp_left (List.mem_cons_of_mem _)

theorem run_mem_states (program : Program Call Reply α) (state : σ) :
    (program.run serve state).2 ∈ program.states serve state := by
  induction program generalizing state with
  | done value => exact List.mem_cons_self
  | ask call next ih => exact List.mem_cons_of_mem _ (ih _ _)

theorem mem_states_bind {program : Program Call Reply α} {next : α → Program Call Reply β}
    {state middle : σ} (there : middle ∈ (program >>= next).states serve state) :
    middle ∈ program.states serve state ∨
      middle ∈ (next (program.run serve state).1).states serve (program.run serve state).2 := by
  induction program generalizing state with
  | done value => exact .inr there
  | ask call rest ih =>
    rcases List.mem_cons.1 there with rfl | later
    · exact .inl List.mem_cons_self
    · exact (ih _ later).imp_left (List.mem_cons_of_mem _)

theorem Asks.forall_states (kept : σ → Prop) {program : Program Call Reply α} {state : σ}
    (asks : program.Asks allowed)
    (keeps : ∀ call before, allowed call → kept before → kept (serve call before).2)
    (start : kept state) : ∀ middle ∈ program.states serve state, kept middle := by
  induction program generalizing state with
  | done value => exact fun middle there => List.mem_singleton.1 there ▸ start
  | ask call next ih =>
    intro middle there
    rcases List.mem_cons.1 there with rfl | later
    · exact start
    · exact ih _ (asks.2 _) (keeps call state asks.1 start) middle later

theorem forall_states_of_moves (kept : σ → Prop) {program : Program Call Reply α} {state : σ}
    (keeps : ∀ move ∈ program.moves serve state, kept move.before → kept move.after)
    (start : kept state) : ∀ middle ∈ program.states serve state, kept middle := by
  induction program generalizing state with
  | done value => exact fun middle there => List.mem_singleton.1 there ▸ start
  | ask call next ih =>
    intro middle there
    rcases List.mem_cons.1 there with rfl | later
    · exact start
    · exact ih _ (fun move made => keeps move (List.mem_cons_of_mem _ made))
        (keeps _ List.mem_cons_self start) middle later

theorem transcript_eq_map_moves (program : Program Call Reply α) (state : σ) :
    program.transcript serve state = (program.moves serve state).map fun move =>
      ⟨move.call, (serve move.call move.before).1⟩ := by
  induction program generalizing state with
  | done value => rfl
  | ask call next ih => exact congrArg (_ :: ·) (ih _ _)

theorem allowed_of_mem_moves {τ : Type} [∀ call, Nonempty (Reply call)] {allowed : Call → τ → Prop}
    {answers : Answers Call Reply τ} {post : α → τ → Prop} (view : σ → τ) (kept : σ → Prop)
    (keeps : ∀ call state, kept state → kept (serve call state).2)
    (sound : ∀ call state, kept state →
      answers call (view state) (serve call state).1 (view (serve call state).2))
    {program : Program Call Reply α} {state : σ} (start : kept state)
    (always : program.Always (guarded allowed answers) (Within post) (some (view state))) :
    ∀ move ∈ program.moves serve state,
      kept move.before ∧ allowed move.call (view move.before) := by
  induction program generalizing state with
  | done value => exact fun move made => absurd made List.not_mem_nil
  | ask call next ih =>
    intro move made
    rcases List.mem_cons.1 made with rfl | later
    · exact ⟨start, allowed_of_always always⟩
    · exact ih _ (keeps call state start) (always_next always (sound call state start)) move later

theorem asks_any (program : Program Call Reply α) : program.Asks fun _ => True := by
  induction program with
  | done value => trivial
  | ask call next ih => exact ⟨trivial, ih⟩

end Program

open Provider Program

namespace Provider.World

variable {α : Type} {world : World} {bounds : Bounds} {allowed : Call → Prop}

theorem registry_serve {call : Call}
    (changed : (world.serve bounds call).2.registry ≠ world.registry) :
    ∃ now value, world.registry.perform world.site now call =
      .ok (value, (world.serve bounds call).2.registry) := by
  have answered : Answered world.site anyRefusal call world.registry (world.serve bounds call).1
      (world.serve bounds call).2.registry := answered_serve
  generalize (world.serve bounds call).1 = reply at answered
  generalize (world.serve bounds call).2.registry = after at answered changed
  cases answered with
  | done now done => exact ⟨now, _, done⟩
  | rejected | refused => exact absurd rfl changed

/-- What the allowed calls keep of a valid registry holds between any two calls of a program that
makes no others, however its calls are answered, and the registry stays valid. -/
theorem forall_states (kept : Registry → Prop) (bounds : Bounds)
    {program : Program Call Call.Reply α}
    (valid : world.registry.Valid world.site) (asks : program.Asks allowed)
    (keeps : ∀ {now call value before after}, allowed call → before.Valid world.site →
      kept before → before.perform world.site now call = .ok (value, after) → kept after)
    (start : kept world.registry) :
    ∀ middle ∈ program.states (World.serve bounds) world,
      middle.registry.Valid world.site ∧ kept middle.registry := by
  refine fun middle there => (Asks.forall_states (fun middle : World =>
    Later world middle ∧ middle.registry.Valid world.site ∧ kept middle.registry) asks ?_
    ⟨.refl world, valid, start⟩ middle there).2
  rintro call before fine ⟨later, valid, holds⟩
  have site : before.site = world.site := later.site
  refine ⟨.trans _ _ _ later serve_later, ?_⟩
  by_cases same : (before.serve bounds call).2.registry = before.registry
  · exact same.symm ▸ ⟨valid, holds⟩
  · obtain ⟨now, value, done⟩ := registry_serve same
    rw [site] at done
    exact ⟨(Registry.perform_valid valid now call done).1, keeps fine valid holds done⟩

end Provider.World

namespace Manager

variable {D O : Type} (manager : Manager Call Call.Reply D O) (desired : D) (bounds : Bounds)
  (last : Option O) (world : World)

def moves : List (Shift Call World) :=
  (manager.pass desired (manager.token desired world.now) last).moves (World.serve bounds) world

/-- A provider as it is before, between and after the calls of a pass that it serves on its own. -/
def worlds : List World :=
  (manager.pass desired (manager.token desired world.now) last).states (World.serve bounds) world

variable {manager desired bounds last world}

theorem mem_worlds_of_found {found : O} {middle : World}
    (finds : ((manager.observe desired last).outcome.run (World.serve bounds) world).1 =
      .ok (some found))
    (there : middle ∈ manager.worlds desired bounds last world) :
    middle ∈ (manager.observe desired last).outcome.states (World.serve bounds) world ∨
      middle ∈ (manager.part desired (Pass.update manager.collectionPaths found)).states
        (World.serve bounds)
        ((manager.observe desired last).outcome.run (World.serve bounds) world).2 := by
  rw [worlds, pass_eq] at there
  refine (mem_states_bind there).imp_right fun later => ?_
  rw [finds] at later
  exact later

end Manager

end Converge
