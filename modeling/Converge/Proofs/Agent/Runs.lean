import Converge.Proofs.Provider.Reachable
import Converge.Proofs.Traffic.Steps
import Mathlib.Data.List.Nodup

/-! Runs of an agent in any order. At every moment any worker may make its next move, whether it is
its turn or not, time may pass and a failure may be arranged, so what holds of every such run holds
of every schedule. What a move does is told once, by what becomes of the pass under way. -/
namespace Converge

open Provider

namespace Phase

def errand? : Phase → Option Errand
  | passing errand _ => some errand
  | awaiting call next _ _ _ => some (.ask call next)
  | _ => none

theorem isStopped_iff (phase : Phase) : phase.isStopped = true ↔ phase = .stopped := by
  cases phase <;> simp [isStopped]

end Phase

structure Provider.World.Onward (before after : World) : Prop where
  reachable : before.Reachable → after.Reachable
  site : after.site = before.site
  time : before.time ≤ after.time

namespace Provider.World.Onward

variable {world : World}

theorem refl (world : World) : world.Onward world := ⟨id, rfl, Nat.le_refl _⟩

theorem begin (bounds : Bounds) (call : Call) : world.Onward (world.begin bounds call).2 where
  reachable reached := reached.begun bounds call
  site := begin_later.site
  time := by
    unfold World.begin
    split <;> simp

theorem complete (call : Call) : world.Onward (world.complete call).2 where
  reachable reached := reached.completed call
  site := complete_later.site
  time := by
    unfold World.complete
    split <;> simp

theorem trans {first second third : World} (before : first.Onward second)
    (after : second.Onward third) : first.Onward third where
  reachable reached := after.reachable (before.reachable reached)
  site := after.site.trans before.site
  time := Nat.le_trans before.time after.time

theorem elapse {time : Nat} (later : world.time ≤ time) : world.Onward { world with time } :=
  ⟨fun reachable => reachable.elapsed time, rfl, later⟩

theorem arrange (world : World) (fault : Fault) :
    world.Onward { world with journal := world.journal.failNth fault } :=
  ⟨fun reachable => reachable.arranged fault, rfl, Nat.le_refl _⟩

end Provider.World.Onward

structure Made where
  job : Job
  call : Call
  refused : Option Failure

namespace Run

def registry (run : Run) : Registry := run.world.registry

def made (run : Run) (worker : Worker) : List Made :=
  match worker.phase with
  | .passing (.ask call _) bounds => [⟨worker.job, call, (run.world.begin bounds call).1⟩]
  | _ => []

/-- Why a call of a worker may fail without having reached the registry. -/
def Refuses (run : Run) (worker : Worker) (call : Call) (failure : Failure) : Prop :=
  failure = .cancelled ∨ failure = .deadlineExceeded ∨
    ⟨worker.job, call, some failure⟩ ∈ run.made worker

/-- What a move comes to. -/
inductive Turn (run : Run) (worker : Worker) : Run → Worker → Prop where
  /-- There is no pass under way, before or after. -/
  | rests {phase : Phase} (idle : worker.phase.errand? = none) (rests : phase.errand? = none)
      (stops : phase = .stopped → worker.phase = .stopped ∨ run.isCancelled = true) :
      Turn run worker run { worker with phase }
  | departs {phase : Phase} (idle : worker.phase.errand? = none)
      (goes : phase.errand? =
        some (worker.job.errand run.config.delays run.table run.world.now)) :
      Turn run worker run { worker with phase }
  /-- A call has begun that is not over. -/
  | waits {errand : Errand} {world : World} {phase : Phase}
      (asks : worker.phase.errand? = some errand) (goes : phase.errand? = some errand)
      (onward : run.world.Onward world) (same : world.registry = run.world.registry) :
      Turn run worker { run with world } { worker with phase }
  | hears {call : Call} {next : call.Reply → Errand} {reply : call.Reply} {world : World}
      {phase : Phase} (asks : worker.phase.errand? = some (.ask call next))
      (goes : phase.errand? = some (next reply))
      (onward : run.world.Onward world)
      (answered : Answered run.world.site (run.Refuses worker) call run.world.registry reply
        world.registry) :
      Turn run worker { run with world } { worker with phase }
  | reports {dated : Timestamp → Report} {backoff : Backoff} {phase : Phase}
      (done : worker.phase.errand? = some (.done dated)) (rests : phase.errand? = none)
      (stops : phase = .stopped → (dated run.world.now).outcome.isConverged = true ∨
        (dated run.world.now).outcome.isFatal = true) :
      Turn run worker
        { run with table := (dated run.world.now).record run.world.now run.table }
        { worker with backoff, phase }

theorem stops_of_after (backoff : Backoff) (once : Bool) (resyncInterval : Nat)
    {outcome : Outcome} (none : (backoff.after once resyncInterval outcome).1 = none) :
    outcome.isConverged = true ∨ outcome.isFatal = true := by
  cases outcome with
  | converged => exact .inl rfl
  | fatal => exact .inr rfl
  | retry hint reason => cases hint <;> simp [Backoff.after] at none

theorem turn_finish (run : Run) {worker : Worker} {dated : Timestamp → Report}
    (done : worker.phase.errand? = some (.done dated)) :
    Turn run worker (run.finish worker (dated run.world.now)).1
      (run.finish worker (dated run.world.now)).2 := by
  refine .reports done ?_ fun stopped => ?_
  · split <;> rfl
  · refine stops_of_after worker.backoff run.config.once run.config.resyncInterval ?_
    split at stopped
    · assumption
    · cases stopped

theorem turn_continuePass (run : Run) {worker : Worker} {errand : Errand} {bounds : Bounds}
    (passing : worker.phase = .passing errand bounds) :
    Turn run worker (run.continuePass worker bounds errand).1
      (run.continuePass worker bounds errand).2 := by
  have under : worker.phase.errand? = some errand := by rw [passing]; rfl
  unfold continuePass
  split
  · exact turn_finish run under
  · next call next =>
    have onward : run.world.Onward (run.world.begin bounds call).2 := .begin bounds call
    have same : (run.world.begin bounds call).2.registry = run.world.registry :=
      World.begin_registry
    split
    · next failure world refused =>
      rw [refused] at onward same
      refine .hears under rfl onward ?_
      rw [same]
      refine .refused (.inr (.inr ?_))
      simp [made, passing, refused]
    · next world accepted =>
      rw [accepted] at onward same
      split
      · refine .hears under rfl (onward.trans (.complete call)) ?_
        have answered := World.complete_answered (run.Refuses worker) world call
        rwa [show world.site = run.world.site from onward.site, same] at answered
      · exact .waits under rfl onward same

theorem turn_act (run : Run) (worker : Worker) :
    Turn run worker (run.act worker).1 (run.act worker).2 := by
  unfold act
  split
  · next idle =>
    have none : worker.phase.errand? = none := by rw [idle]; rfl
    split
    · next cancelled => exact .rests none rfl fun _ => .inr cancelled
    · exact .departs none rfl
  · next errand bounds passing => exact turn_continuePass run passing
  · next call next bounds due ending awaiting =>
    have under : worker.phase.errand? = some (.ask call next) := by rw [awaiting]; rfl
    split
    · next failure ended =>
      refine @Turn.hears run worker call next _ run.world _ under rfl (.refl _) (.refused ?_)
      unfold Ending.failure? at ended
      split at ended <;> cases ended
      · exact .inl rfl
      · exact .inr (.inl rfl)
    · exact .hears under rfl (.complete call) (World.complete_answered _ run.world call)
  · next due sleeping =>
    have none : worker.phase.errand? = none := by rw [sleeping]; rfl
    refine .rests none ?_ fun stopped => ?_
    · split <;> rfl
    · split at stopped
      · next cancelled => exact .inr cancelled
      · cases stopped
  · next stopped =>
    have none : worker.phase.errand? = none := by rw [stopped]; rfl
    exact @Turn.rests run worker worker.phase none none .inl

theorem errand_of_mem_made {run : Run} {worker : Worker} {made : Made}
    (member : made ∈ run.made worker) :
    made.job = worker.job ∧ ∃ next, worker.phase.errand? = some (.ask made.call next) := by
  unfold Run.made at member
  split at member
  · next call next bounds passing =>
    obtain rfl := List.mem_singleton.1 member
    exact ⟨rfl, next, by rw [passing]; rfl⟩
  · cases member

namespace Turn

variable {run after : Run} {worker moved : Worker} (turn : Turn run worker after moved)

include turn

theorem job : moved.job = worker.job := by
  cases turn <;> rfl

theorem onward : run.world.Onward after.world := by
  cases turn with
  | rests | departs | reports => exact .refl _
  | waits _ _ onward | hears _ _ onward => exact onward

theorem settings : after.config = run.config ∧ after.shutdownAt = run.shutdownAt := by
  cases turn <;> exact ⟨rfl, rfl⟩

theorem workers : after.workers = run.workers := by
  cases turn <;> rfl

end Turn

def acted (run : Run) (number : Nat) (worker : Worker) : Run :=
  { (run.act worker).1 with workers := (run.act worker).1.workers.set number (run.act worker).2 }

/-- The runs of an agent at a provider that nobody else uses, with all the calls that were made. -/
inductive Reached (agent : Agent) (world : World) (shutdownAt : Option Nat) :
    List Made → Run → Prop where
  | start : Reached agent world shutdownAt [] (.start agent world shutdownAt)
  | acted {log : List Made} {run : Run} {number : Nat} {worker : Worker}
      (here : run.workers[number]? = some worker)
      (reached : Reached agent world shutdownAt log run) :
      Reached agent world shutdownAt (log ++ run.made worker) (run.acted number worker)
  | elapsed {log : List Made} {run : Run} {time : Nat} (later : run.time ≤ time)
      (reached : Reached agent world shutdownAt log run) :
      Reached agent world shutdownAt log (run.passTime time)
  | arranged {log : List Made} {run : Run} (fault : Fault)
      (reached : Reached agent world shutdownAt log run) :
      Reached agent world shutdownAt log
        { run with world := { run.world with journal := run.world.journal.failNth fault } }

namespace Reached

variable {agent : Agent} {world : World} {shutdownAt : Option Nat} {log : List Made} {run : Run}
  (reached : Reached agent world shutdownAt log run)

include reached

theorem staffed : run.workers.map Worker.job = agent.jobs := by
  induction reached with
  | start => simp [Run.start, Worker.new, Function.comp_def]
  | elapsed | arranged => assumption
  | @acted log run number worker here reached ih =>
    have job : (run.act worker).2.job = worker.job := (turn_act run worker).job
    obtain ⟨inside, same⟩ := List.getElem?_eq_some_iff.1 here
    show ((run.act worker).1.workers.set number (run.act worker).2).map Worker.job = agent.jobs
    rw [(turn_act run worker).workers, List.map_set, job, ← ih]
    refine List.ext_getElem? fun other => ?_
    by_cases own : number = other
    · subst own
      simp [inside, same]
    · simp [own]

theorem settings : run.config = agent.config ∧ run.shutdownAt = shutdownAt := by
  induction reached with
  | start => exact ⟨rfl, rfl⟩
  | elapsed | arranged => assumption
  | @acted log run number worker here reached ih =>
    have same := (turn_act run worker).settings
    exact ⟨same.1.trans ih.1, same.2.trans ih.2⟩

theorem reachable (new : world.Reachable) : run.world.Reachable := by
  induction reached with
  | start => exact new
  | elapsed later reached ih => exact ih.elapsed _
  | arranged fault reached ih => exact ih.arranged fault
  | @acted log run number worker here reached ih => exact (turn_act run worker).onward.reachable ih

theorem hired {worker : Worker} (member : worker ∈ run.workers) : worker.job ∈ agent.jobs :=
  reached.staffed ▸ List.mem_map_of_mem member

theorem apart (single : (agent.jobs.map Job.identity).Nodup) {number other : Nat}
    {worker colleague : Worker} (here : run.workers[number]? = some worker)
    (there : run.workers[other]? = some colleague) (distinct : other ≠ number) :
    colleague.job.identity ≠ worker.job.identity := by
  rw [← reached.staffed, List.map_map] at single
  intro same
  obtain ⟨inside, rfl⟩ := List.getElem?_eq_some_iff.1 there
  refine distinct ((List.getElem?_inj (by simpa using inside) single).1 ?_)
  simpa [here] using ⟨_, there, same⟩

/-- What the provider and the table are like, and what every worker is, at the start, stays so if no
move spoils it: not for the one who moves, nor for anybody else. -/
theorem keeps (single : (agent.jobs.map Job.identity).Nodup)
    (all : List Made → World → StatusTable → Prop)
    (each : List Made → World → StatusTable → Worker → Prop)
    (start : all [] world agent.table)
    (hired : ∀ job ∈ agent.jobs, each [] world agent.table (.new agent.config job))
    (waits : ∀ log table {before after : World}, before.Onward after →
      after.registry = before.registry → (all log before table → all log after table) ∧
        ∀ worker, each log before table worker → each log after table worker)
    (turns : ∀ {log run worker after moved}, Reached agent world shutdownAt log run →
      worker ∈ run.workers → Turn run worker after moved → all log run.world run.table →
      each log run.world run.table worker →
      all (log ++ run.made worker) after.world after.table ∧
      each (log ++ run.made worker) after.world after.table moved ∧
      ∀ other ∈ run.workers, other.job.identity ≠ worker.job.identity →
        each log run.world run.table other →
        each (log ++ run.made worker) after.world after.table other) :
    all log run.world run.table ∧ ∀ worker ∈ run.workers, each log run.world run.table worker := by
  induction reached with
  | start =>
    refine ⟨start, fun worker member => ?_⟩
    obtain ⟨job, listed, rfl⟩ := List.mem_map.1 member
    exact hired job listed
  | @elapsed log run time later reached ih =>
    have later := waits log run.table (World.Onward.elapse later) rfl
    exact ⟨later.1 ih.1, fun worker member => later.2 worker (ih.2 worker member)⟩
  | @arranged log run fault reached ih =>
    have later := waits log run.table (.arrange run.world fault) rfl
    exact ⟨later.1 ih.1, fun worker member => later.2 worker (ih.2 worker member)⟩
  | @acted log run number worker here reached ih =>
    have member := List.mem_of_getElem? here
    have turn := turn_act run worker
    obtain ⟨fits, moved, others⟩ := turns reached member turn ih.1 (ih.2 worker member)
    refine ⟨fits, fun other there => ?_⟩
    obtain ⟨place, there⟩ := List.mem_iff_getElem?.1 there
    rw [Run.acted, turn.workers] at there
    rcases eq_or_ne place number with rfl | distinct
    · obtain rfl : (run.act worker).2 = other := by
        have inside := (List.getElem?_eq_some_iff.1 here).1
        simpa [List.getElem?_set, inside] using there
      exact moved
    · rw [List.getElem?_set_ne distinct.symm] at there
      exact others other (List.mem_of_getElem? there) (reached.apart single here there distinct)
        (ih.2 other (List.mem_of_getElem? there))

theorem move (number : Nat) :
    ∃ more, Reached agent world shutdownAt (log ++ more) (run.move number) := by
  unfold Run.move
  split
  · exact ⟨[], by simpa using reached⟩
  · next worker here =>
    split
    · exact ⟨run.made worker, reached.acted here⟩
    · exact ⟨[], by simpa using reached⟩

end Reached

/-- The calls that workers make who move in the given order, whether it is their turn or not, and
the run after that. -/
def play : List Nat → Run → List Made × Run
  | [], run => ([], run)
  | number :: rest, run =>
    match run.workers[number]? with
    | none => play rest run
    | some worker =>
      let (made, ended) := play rest (run.acted number worker)
      (run.made worker ++ made, ended)

theorem Reached.play {agent : Agent} {world : World} {shutdownAt : Option Nat} {log : List Made}
    {run : Run} (reached : Reached agent world shutdownAt log run) (numbers : List Nat) :
    Reached agent world shutdownAt (log ++ (run.play numbers).1) (run.play numbers).2 := by
  induction numbers generalizing log run with
  | nil => simpa [Run.play] using reached
  | cons number rest ih =>
    unfold Run.play
    split
    · exact ih reached
    · next worker here => simpa using ih (reached.acted here)

end Run

namespace Schedule

def Covers (schedule : Schedule) : Prop :=
  ∀ number < schedule.run.workers.length, number ∈ schedule.turns

theorem covers_start (run : Run) : (start run).Covers := fun _ inside => List.mem_range.2 inside

theorem length_workers_move (run : Run) (number : Nat) :
    (run.move number).workers.length = run.workers.length := by
  unfold Run.move
  split
  · rfl
  · next worker here =>
    split
    · exact List.length_set.trans (congrArg List.length (Run.turn_act run worker).workers)
    · rfl

theorem covers_step {schedule after : Schedule} (covers : schedule.Covers)
    (step : schedule.step? = some after) :
    after.Covers ∧ ∃ number, after.run = schedule.run.move number := by
  unfold step? at step
  split at step
  · cases step
  · next number found =>
    cases step
    refine ⟨fun other inside => ?_, number, rfl⟩
    have member := covers other (by simpa only [length_workers_move] using inside)
    simp only
    by_cases same : other = number
    · split <;> simp [same]
    · split <;> simp [same, member]

/-- Where no worker can move, something happens later or not at all. -/
theorem time_lt_of_stuck {schedule : Schedule} (covers : schedule.Covers)
    (stuck : schedule.step? = none) {time : Nat} (next : schedule.run.nextTime = some time) :
    schedule.run.time < time := by
  have unable : ∀ number ∈ schedule.turns, schedule.isAble number = false := by
    unfold step? at stuck
    split at stuck
    · next none => simpa using List.find?_eq_none.1 none
    · cases stuck
  rcases List.mem_append.1 (List.min?_mem next) with early | due
  · obtain ⟨given, later⟩ := Option.filter_eq_some_iff.1 (Option.mem_toList.1 early)
    exact of_decide_eq_true later
  · obtain ⟨worker, member, ends⟩ := List.mem_filterMap.1 due
    obtain ⟨number, inside, rfl⟩ := List.mem_iff_getElem.1 member
    have still := unable number (covers number inside)
    simp only [isAble, List.getElem?_eq_getElem inside, Option.any_some, Run.isAble] at still
    revert ends still
    cases schedule.run.workers[number].phase <;> simp [Phase.due?]
    · rintro rfl
      exact id
    · rintro rfl later -
      exact later

theorem reached_advanceTo {agent : Agent} {world : World} {shutdownAt : Option Nat}
    (limit fuel : Nat) {log : List Made} {schedule : Schedule} (covers : schedule.Covers)
    (reached : Run.Reached agent world shutdownAt log schedule.run) :
    ∃ more, Run.Reached agent world shutdownAt (log ++ more)
      (schedule.advanceTo limit fuel).run := by
  induction fuel generalizing log schedule with
  | zero => exact ⟨[], by simpa [advanceTo] using reached⟩
  | succ fuel ih =>
    unfold advanceTo
    split
    · exact ⟨[], by simpa using reached⟩
    · next going =>
      simp only [Bool.or_eq_true, decide_eq_true_eq, not_or, Nat.not_le] at going
      split
      · next after step =>
        obtain ⟨kept, number, same⟩ := covers_step covers step
        obtain ⟨made, moved⟩ := reached.move number
        obtain ⟨more, ends⟩ := ih kept (same ▸ moved)
        exact ⟨made ++ more, by simpa using ends⟩
      · next stuck =>
        have later : schedule.run.time ≤ min limit (schedule.run.nextTime.getD limit) := by
          cases next : schedule.run.nextTime with
          | none => simp; omega
          | some time =>
            have beyond := time_lt_of_stuck covers stuck next
            simp; omega
        exact ih covers (reached.elapsed later)

end Schedule

end Converge
