import Mathlib.Data.List.Induction
import Converge.Proofs.Agent.Runs

/-! How long workers wait between passes. Waits that no pass has asked for grow from one to the
next, and start again once the resource has converged; waits that a pass has asked for stand between
them without any effect. -/
namespace Converge

open Provider Resolver

def Outcome.isUnhinted : Outcome → Bool
  | .retry none _ => true
  | _ => false

def setbacks (past : List Outcome) : Nat :=
  (past.reverse.takeWhile fun outcome => !outcome.isConverged).countP Outcome.isUnhinted

/-- Twice as long every time, up to a limit that is never shorter than the first wait. -/
def growing (least most count : Nat) : Nat := min (least * Nat.pow 2 count) (max least most)

def waitAfter (config : AgentConfig) (past : List Outcome) : Outcome → Option Nat
  | .converged => if config.once then none else some config.resyncInterval
  | .retry (some hint) _ => some hint
  | .retry none _ => some (growing config.minBackoff config.maxBackoff (setbacks past))
  | .fatal _ => none

section Growth

variable {least most : Nat}

theorem growing_zero : growing least most 0 = least := by
  have once : least * Nat.pow 2 0 = least := Nat.mul_one least
  rw [growing, once]
  exact Nat.min_eq_left (Nat.le_max_left least most)

theorem growing_succ (count : Nat) :
    growing least most (count + 1) = min (growing least most count * 2) (max least most) := by
  have power : least * Nat.pow 2 (count + 1) = least * Nat.pow 2 count * 2 := by
    rw [Nat.mul_assoc]
    rfl
  unfold growing
  rw [power]
  omega

theorem setbacks_concat (past : List Outcome) (outcome : Outcome) :
    setbacks (past ++ [outcome]) = match outcome with
      | .converged => 0
      | .retry none _ => setbacks past + 1
      | _ => setbacks past := by
  unfold setbacks
  rw [List.reverse_append, List.reverse_singleton, List.singleton_append, List.takeWhile_cons]
  cases outcome with
  | converged => rfl
  | fatal => exact List.countP_cons_of_neg nofun
  | retry hint reason =>
    cases hint with
    | none => exact List.countP_cons_of_pos rfl
    | some hint => exact List.countP_cons_of_neg nofun

end Growth

namespace Backoff

variable (least most : Nat)

def worn : Nat → Backoff
  | 0 => new least most
  | count + 1 => { new least most with current := some (growing least most count) }

variable {least most}

theorem next_worn (short : least ≤ longestWait) (long : most ≤ longestWait) (count : Nat) :
    (worn least most count).next = (growing least most count, worn least most (count + 1)) := by
  cases count with
  | zero => simp [worn, next, new, growing_zero]
  | succ count =>
    -- Where the doubled time cannot be told, both sides are at the limit already.
    have limit : min (doubled (growing least most count)) (max least most) =
        growing least most (count + 1) := by
      rw [growing_succ, doubled]
      omega
    simp only [worn, next, new, limit]

/-- What is left of the waits that some outcomes have led to, one after the other. -/
def afterAll (config : AgentConfig) (past : List Outcome) : Backoff :=
  past.foldl (fun backoff outcome =>
    (backoff.after config.once config.resyncInterval outcome).2)
    (new config.minBackoff config.maxBackoff)

section Histories

variable {config : AgentConfig} (short : config.minBackoff ≤ longestWait)
  (long : config.maxBackoff ≤ longestWait)

include short long

theorem after_worn (past : List Outcome) (outcome : Outcome) :
    (worn config.minBackoff config.maxBackoff (setbacks past)).after config.once
        config.resyncInterval outcome =
      (waitAfter config past outcome,
        worn config.minBackoff config.maxBackoff (setbacks (past ++ [outcome]))) := by
  rw [setbacks_concat]
  cases outcome with
  | converged =>
    have fresh : ∀ count, (worn config.minBackoff config.maxBackoff count).reset =
        new config.minBackoff config.maxBackoff := fun count => by cases count <;> rfl
    rw [after, fresh]
    rfl
  | fatal => rfl
  | retry hint reason =>
    cases hint with
    | some hint => rfl
    | none =>
      rw [after, next_worn short long]
      rfl

theorem afterAll_eq_worn (past : List Outcome) :
    afterAll config past = worn config.minBackoff config.maxBackoff (setbacks past) := by
  -- The induction is on the outcomes, the latest one last.
  induction past using List.reverseRecOn with
  | nil => rfl
  | append_singleton past outcome ih =>
    rw [afterAll, List.foldl_concat, ← afterAll, ih, after_worn short long]

theorem wait_afterAll (past : List Outcome) (outcome : Outcome) :
    ((afterAll config past).after config.once config.resyncInterval outcome).1 =
      waitAfter config past outcome := by
  rw [afterAll_eq_worn short long, after_worn short long]

end Histories

end Backoff

/-- A worker remembers of its waits what its reports have left. -/
def Worker.Remembers (config : AgentConfig) (past : List Outcome) (worker : Worker) : Prop :=
  worker.backoff = .afterAll config past

namespace Run

/-- What may happen in a run: a worker moves, if it is able to, or time passes and whatever else
becomes of the provider. -/
inductive Event where
  | move (number : Nat)
  | meanwhile (change : World → World)

def happen (run : Run) : Event → Run
  | .move number => run.move number
  | .meanwhile change => { run with world := change run.world }

def through (run : Run) (events : List Event) : Run := events.foldl happen run

def phase? (run : Run) (number : Nat) : Option Phase := run.workers[number]?.map Worker.phase

def outcome? (run : Run) (number : Nat) : Option Outcome :=
  match run.phase? number with
  | some (.passing (.done dated) _) => some (dated run.world.now).outcome
  | _ => none

def outcomes (number : Nat) : List Event → Run → List Outcome
  | [], _ => []
  | event :: rest, run =>
    let told := match event with
      | .move mover => if mover = number then run.outcome? number else none
      | .meanwhile _ => none
    told.toList ++ outcomes number rest (run.happen event)

def rouses (run : Run) (due : Nat) : Bool := due ≤ run.time || run.isCancelled

/-- Whatever happens, the worker has stopped and makes no other pass. -/
def HasStopped (run : Run) (number : Nat) : Prop :=
  ∀ later, (run.through later).phase? number = some .stopped ∧ outcomes number later run = []

/-- Whatever happens, the worker sleeps until it is time or shutdown is asked for. Then its next
move ends its sleep. -/
def SleepsUntil (run : Run) (number due : Nat) : Prop :=
  ∀ later, (∀ early event rest, later = early ++ event :: rest →
      (run.through early).rouses due = false) →
    (run.through later).phase? number = some (.sleeping due) ∧ outcomes number later run = [] ∧
      ((run.through later).rouses due = true → ((run.through later).move number).phase? number =
        some (if (run.through later).isCancelled then .stopped else .idle))

section Moves

variable {run : Run} {number other : Nat} {worker : Worker}

theorem config_move (run : Run) (number : Nat) : (run.move number).config = run.config := by
  unfold move
  split
  · rfl
  · next worker here =>
    split
    · exact (turn_act run worker).settings.1
    · rfl

theorem config_happen (event : Event) : (run.happen event).config = run.config := by
  cases event with
  | meanwhile => rfl
  | move number => exact config_move run number

theorem worker_move_of_ne (distinct : other ≠ number) :
    (run.move other).workers[number]? = run.workers[number]? := by
  unfold move
  split
  · rfl
  · next worker here =>
    split
    · simp only
      rw [List.getElem?_set_ne distinct, (turn_act run worker).workers]
    · rfl

theorem worker_move (here : run.workers[number]? = some worker) :
    (run.move number).workers[number]? =
      some (if run.isAble worker then (run.act worker).2 else worker) := by
  have inside := (List.getElem?_eq_some_iff.1 here).1
  simp only [move, here]
  split
  · simp [(turn_act run worker).workers, inside]
  · exact here

theorem act_of_done {dated : Timestamp → Report} {bounds : Bounds}
    (done : worker.phase = .passing (.done dated) bounds) :
    run.act worker = run.finish worker (dated run.world.now) := by
  unfold act
  rw [done]
  rfl

theorem backoff_act_of_under
    (under : ∀ dated bounds, worker.phase ≠ .passing (.done dated) bounds) :
    (run.act worker).2.backoff = worker.backoff := by
  unfold act
  split
  · split <;> rfl
  · next errand bounds passing =>
    cases errand with
    | done dated => exact absurd passing (under dated bounds)
    | ask call next =>
      unfold continuePass
      simp only
      split
      · rfl
      · split <;> rfl
  · split <;> rfl
  all_goals rfl

theorem outcome?_of_done (here : run.workers[number]? = some worker)
    {dated : Timestamp → Report} {bounds : Bounds}
    (done : worker.phase = .passing (.done dated) bounds) :
    run.outcome? number = some (dated run.world.now).outcome := by
  simp [outcome?, phase?, here, done]

theorem done_of_outcome? {outcome : Outcome} (reports : run.outcome? number = some outcome) :
    ∃ worker dated bounds, run.workers[number]? = some worker ∧
      worker.phase = .passing (.done dated) bounds ∧ (dated run.world.now).outcome = outcome := by
  unfold outcome? at reports
  split at reports
  · next dated bounds phase =>
    obtain ⟨worker, here, done⟩ := Option.map_eq_some_iff.1 phase
    exact ⟨worker, dated, bounds, here, done, Option.some.inj reports⟩
  · cases reports

theorem outcome?_of_under (here : run.workers[number]? = some worker)
    (under : ∀ dated bounds, worker.phase ≠ .passing (.done dated) bounds) :
    run.outcome? number = none := by
  unfold outcome?
  split
  · next dated bounds phase =>
    rw [phase?, here] at phase
    exact absurd (Option.some.inj phase) (under dated bounds)
  · rfl

theorem worker_move_of_done (here : run.workers[number]? = some worker)
    {dated : Timestamp → Report} {bounds : Bounds}
    (done : worker.phase = .passing (.done dated) bounds) :
    (run.move number).workers[number]? = some (run.finish worker (dated run.world.now)).2 := by
  have able : run.isAble worker = true := by rw [isAble, done]
  rw [worker_move here, if_pos able, act_of_done done]

end Moves

section Waits

variable {run : Run} {number : Nat} {worker : Worker} {past : List Outcome}

theorem finish_of_remembers (remembers : worker.Remembers run.config past) (report : Report) :
    (run.finish worker report).2.phase =
        (match ((Backoff.afterAll run.config past).after run.config.once
            run.config.resyncInterval report.outcome).1 with
          | none => .stopped
          | some wait => .sleeping (run.time + wait)) ∧
      (run.finish worker report).2.Remembers run.config (past ++ [report.outcome]) := by
  unfold Worker.Remembers Backoff.afterAll at *
  rw [List.foldl_concat, ← remembers]
  exact ⟨rfl, rfl⟩

theorem remembers_happen (here : run.workers[number]? = some worker)
    (remembers : worker.Remembers run.config past) (event : Event) :
    ∃ moved, (run.happen event).workers[number]? = some moved ∧
      moved.Remembers run.config (past ++ outcomes number [event] run) := by
  cases event with
  | meanwhile change =>
    refine ⟨worker, here, ?_⟩
    simpa [outcomes] using remembers
  | move mover =>
    by_cases own : mover = number
    · subst own
      by_cases done : ∃ dated bounds, worker.phase = .passing (.done dated) bounds
      · obtain ⟨dated, bounds, done⟩ := done
        refine ⟨_, worker_move_of_done here done, ?_⟩
        have told := (finish_of_remembers remembers (dated run.world.now)).2
        simpa [outcomes, outcome?_of_done here done] using told
      · have under : ∀ dated bounds, worker.phase ≠ .passing (.done dated) bounds :=
          fun dated bounds same => done ⟨dated, bounds, same⟩
        refine ⟨_, worker_move here, ?_⟩
        have kept : (if run.isAble worker then (run.act worker).2 else worker).Remembers run.config
            past := by
          split
          · exact (backoff_act_of_under under).trans remembers
          · exact remembers
        simpa [outcomes, outcome?_of_under here under] using kept
    · refine ⟨worker, (worker_move_of_ne own).trans here, ?_⟩
      simpa [outcomes, own] using remembers

end Waits

theorem outcomes_cons (number : Nat) (event : Event) (rest : List Event) (run : Run) :
    outcomes number (event :: rest) run =
      outcomes number [event] run ++ outcomes number rest (run.happen event) := by
  simp [outcomes]

theorem remembers_through {number : Nat} (events : List Event) {run : Run} {worker : Worker}
    {past : List Outcome} (here : run.workers[number]? = some worker)
    (remembers : worker.Remembers run.config past) :
    ∃ moved, (run.through events).workers[number]? = some moved ∧
      (run.through events).config = run.config ∧
      moved.Remembers run.config (past ++ outcomes number events run) := by
  -- The induction is on the events; what is remembered before them may come from earlier ones.
  induction events generalizing run worker past with
  | nil => exact ⟨worker, here, rfl, by simpa [outcomes] using remembers⟩
  | cons event rest ih =>
    obtain ⟨next, there, still⟩ := remembers_happen here remembers event
    have same : (run.happen event).config = run.config := config_happen event
    rw [outcomes_cons, ← List.append_assoc, ← same]
    rw [← same] at still
    exact ih there still

section Rest

variable {run : Run} {number due : Nat}

theorem phase?_eq_some {phase : Phase} (rests : run.phase? number = some phase) :
    ∃ worker, run.workers[number]? = some worker ∧ worker.phase = phase :=
  Option.map_eq_some_iff.1 rests

theorem phase?_happen_of_unable {phase : Phase} (rests : run.phase? number = some phase)
    (unable : ∀ worker, worker.phase = phase → run.isAble worker = false) (event : Event) :
    (run.happen event).phase? number = some phase ∧ outcomes number [event] run = [] := by
  obtain ⟨worker, here, same⟩ := phase?_eq_some rests
  have still : run.isAble worker = false := unable worker same
  cases event with
  | meanwhile change => exact ⟨rests, rfl⟩
  | move mover =>
    by_cases own : mover = number
    · subst own
      have under : ∀ dated bounds, worker.phase ≠ .passing (.done dated) bounds := by
        intro dated bounds passing
        rw [isAble, passing] at still
        cases still
      constructor
      · show (run.move mover).workers[mover]?.map Worker.phase = some phase
        rw [worker_move here, still]
        exact congrArg some same
      · simp [outcomes, outcome?_of_under here under]
    · constructor
      · show (run.move mover).workers[number]?.map Worker.phase = some phase
        rw [worker_move_of_ne own]
        exact rests
      · simp [outcomes, own]

theorem hasStopped (stopped : run.phase? number = some .stopped) : run.HasStopped number := by
  intro later
  induction later generalizing run with
  | nil => exact ⟨stopped, rfl⟩
  | cons event rest ih =>
    obtain ⟨still, silent⟩ := phase?_happen_of_unable stopped
      (fun worker same => by rw [isAble, same]) event
    rw [outcomes_cons, silent]
    exact ih still

theorem phase?_move_of_roused (asleep : run.phase? number = some (.sleeping due))
    (rouses : run.rouses due = true) :
    (run.move number).phase? number = some (if run.isCancelled then .stopped else .idle) := by
  obtain ⟨worker, here, same⟩ := phase?_eq_some asleep
  have able : run.isAble worker = true := by
    rw [isAble, same]
    exact rouses
  have wakes : (run.act worker).2.phase = if run.isCancelled then .stopped else .idle := by
    unfold act
    rw [same]
  rw [phase?, worker_move here, if_pos able]
  exact congrArg some wakes

theorem sleepsUntil (asleep : run.phase? number = some (.sleeping due)) :
    run.SleepsUntil number due := by
  intro later
  induction later generalizing run with
  | nil => exact fun _ => ⟨asleep, rfl, phase?_move_of_roused asleep⟩
  | cons event rest ih =>
    intro early
    have now : run.rouses due = false := early [] event rest rfl
    obtain ⟨still, silent⟩ := phase?_happen_of_unable asleep
      (fun worker same => by
        rw [isAble, same]
        exact now) event
    rw [outcomes_cons, silent]
    refine ih still fun before next after split => ?_
    exact early (event :: before) next after (by rw [split]; rfl)

theorem rests_of_remembers {worker : Worker} {past : List Outcome} {dated : Timestamp → Report}
    {bounds : Bounds} (short : run.config.minBackoff ≤ longestWait)
    (long : run.config.maxBackoff ≤ longestWait) (here : run.workers[number]? = some worker)
    (remembers : worker.Remembers run.config past)
    (done : worker.phase = .passing (.done dated) bounds) :
    match waitAfter run.config past (dated run.world.now).outcome with
    | none => (run.move number).HasStopped number
    | some wait => (run.move number).SleepsUntil number (run.time + wait) := by
  have ends := (finish_of_remembers remembers (dated run.world.now)).1
  have phase : (run.move number).phase? number =
      some (run.finish worker (dated run.world.now)).2.phase := by
    rw [phase?, worker_move_of_done here done]
    rfl
  rw [ends, Backoff.wait_afterAll short long] at phase
  cases waits : waitAfter run.config past (dated run.world.now).outcome with
  | none =>
    rw [waits] at phase
    exact hasStopped phase
  | some wait =>
    rw [waits] at phase
    exact sleepsUntil phase

end Rest

theorem length_workers_through (run : Run) (events : List Event) :
    (run.through events).workers.length = run.workers.length := by
  induction events generalizing run with
  | nil => rfl
  | cons event rest ih =>
    refine (ih _).trans ?_
    cases event with
    | meanwhile change => rfl
    | move number => exact Schedule.length_workers_move run number

theorem exists_through_advanceTo (limit fuel : Nat) (schedule : Schedule) :
    ∃ events, (schedule.advanceTo limit fuel).run = schedule.run.through events := by
  induction fuel generalizing schedule with
  | zero => exact ⟨[], rfl⟩
  | succ fuel ih =>
    unfold Schedule.advanceTo
    split
    · exact ⟨[], rfl⟩
    · split
      · next after step =>
        obtain ⟨events, same⟩ := ih after
        obtain ⟨number, moved⟩ : ∃ number, after.run = schedule.run.move number := by
          unfold Schedule.step? at step
          split at step
          · cases step
          · next number found =>
            cases step
            exact ⟨number, rfl⟩
        exact ⟨.move number :: events, by rw [same, moved]; rfl⟩
      · let time := min limit (schedule.run.nextTime.getD limit)
        obtain ⟨events, same⟩ := ih { schedule with run := schedule.run.passTime time }
        exact ⟨.meanwhile (fun world => { world with time }) :: events, same⟩

/-- How long waits are, after any sequence of outcomes, and what comes of every report of every
worker in the course of a run, whatever happens in it: the worker stops for good, or it sleeps
exactly as long as its outcomes up to then ask for. -/
theorem waits_exact (agent : Agent) (short : agent.config.minBackoff ≤ longestWait)
    (long : agent.config.maxBackoff ≤ longestWait) :
    (∀ past outcome, ((Backoff.afterAll agent.config past).after agent.config.once
        agent.config.resyncInterval outcome).1 = waitAfter agent.config past outcome) ∧
    ∀ (world : World) (shutdownAt : Option Nat) (number : Nat) (events : List Event)
      (outcome : Outcome),
      let began := start agent world shutdownAt
      let run := began.through events
      run.outcome? number = some outcome →
        match waitAfter agent.config (outcomes number events began) outcome with
        | none => (run.move number).HasStopped number
        | some wait => (run.move number).SleepsUntil number (run.time + wait) := by
  refine ⟨Backoff.wait_afterAll short long, ?_⟩
  intro world shutdownAt number events outcome began run reports
  obtain ⟨worker, dated, bounds, here, done, rfl⟩ := done_of_outcome? reports
  have inside := (List.getElem?_eq_some_iff.1 here).1
  rw [length_workers_through] at inside
  have fresh : began.workers[number].Remembers agent.config [] := by
    simp only [began, start, List.getElem_map]
    rfl
  obtain ⟨_, there, config, remembers⟩ :=
    remembers_through events (List.getElem?_eq_getElem inside) fresh
  obtain rfl := Option.some.inj (there.symm.trans here)
  have config : run.config = agent.config := config
  rw [← config] at short long ⊢
  refine rests_of_remembers short long here ?_ done
  rw [config]
  exact remembers

def throttled : Agent :=
  .new ⟨[], [{ (default : RuleSpec) with name := "internal", domainName := "corp.example." }]⟩
    { minBackoff := 100, maxBackoff := 350 } .epoch

/-- A provider that fails every time a rule is to be created. -/
def refusing : World :=
  { World.still with
    journal := (List.range 3).foldl (fun journal number =>
      journal.failNth ⟨.createRule, number + 1, "ThrottlingException"⟩) ∅ }

def failing : List Event := [.move 0, .move 0]

/-- It reports, sleeps as long as it is to sleep, and makes another pass. -/
def again (wait : Nat) : List Event :=
  [.move 0, .meanwhile fun world => { world with time := world.time + wait }, .move 0] ++ failing

theorem waits_exact_throttled :
    let run := (start throttled refusing none).through (failing ++ again 100 ++ again 200)
    run.time = 300 ∧ (run.move 0).SleepsUntil 0 650 := by
  intro run
  let reason := "ThrottlingException: injected failure of CreateResolverRule"
  have reports : run.outcome? 0 = some (.retry none reason) := by decide +kernel
  have sleeps := (waits_exact throttled (by decide +kernel) (by decide +kernel)).2 refusing none 0
    (failing ++ again 100 ++ again 200) (.retry none reason) reports
  have told : outcomes 0 (failing ++ again 100 ++ again 200) (start throttled refusing none) =
      [.retry none reason, .retry none reason] := by decide +kernel
  have time : run.time = 300 := by decide +kernel
  rw [told] at sleeps
  refine ⟨time, ?_⟩
  rw [show 650 = run.time + 350 by rw [time]]
  exact sleeps

end Run

end Converge
