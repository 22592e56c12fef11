import Converge.Agent.Worker
import Converge.Manifest

/-! A run of an agent. Its workers share a provider, a status table and a clock, and take turns. A
move of a worker is at most one call, so whatever a move does may come between any two calls of
another worker. -/
namespace Converge

open Converge.Provider

structure Agent where
  manifest : Manifest
  config : AgentConfig
  table : StatusTable

namespace Agent

/-- All passes over a resource carry one token, since every resource is given a time. -/
def new (manifest : Manifest) (config : AgentConfig) (now : Timestamp) : Agent :=
  ⟨manifest.stampCreation now, config, ∅⟩

def jobs (agent : Agent) : List Job :=
  agent.manifest.endpoints.map .endpoint ++ agent.manifest.rules.map .rule

end Agent

structure Run where
  config : AgentConfig
  world : World
  table : StatusTable
  workers : List Worker
  shutdownAt : Option Nat

namespace Run

def start (agent : Agent) (world : World) (shutdownAt : Option Nat) : Run where
  config := agent.config
  world
  table := agent.table
  workers := agent.jobs.map (Worker.new agent.config)
  shutdownAt

def time (run : Run) : Nat := run.world.time

def isCancelled (run : Run) : Bool := run.shutdownAt.any fun time => time ≤ run.time

/-- Another pass may begin. There is always room for one. -/
def hasRoom (run : Run) : Bool :=
  (run.workers.filter fun worker => worker.phase.isBusy).length < max 1 run.config.workers

def isAble (run : Run) (worker : Worker) : Bool :=
  match worker.phase with
  | .idle => run.hasRoom
  | .passing _ _ => true
  | .awaiting _ _ _ due _ => due ≤ run.time
  | .sleeping due => due ≤ run.time || run.isCancelled
  | .stopped => false

def finish (run : Run) (worker : Worker) (report : Report) : Run × Worker :=
  let (wait, backoff) :=
    worker.backoff.after run.config.once run.config.resyncInterval report.outcome
  let phase : Phase := match wait with
    | none => .stopped
    | some wait => .sleeping (run.time + wait)
  ({ run with table := report.record run.world.now run.table }, { worker with backoff, phase })

def continuePass (run : Run) (worker : Worker) (bounds : Bounds) : Errand → Run × Worker
  | .done report => run.finish worker (report run.world.now)
  | .ask call next =>
    match run.world.begin bounds call with
    | (some failure, world) =>
      ({ run with world }, { worker with phase := .passing (next (.error failure)) bounds })
    | (none, world) =>
      if world.latency = 0 then
        let (reply, world) := world.complete call
        ({ run with world }, { worker with phase := .passing (next reply) bounds })
      else
        let (due, ending) := world.ending bounds
        ({ run with world }, { worker with phase := .awaiting call next bounds due ending })

def act (run : Run) (worker : Worker) : Run × Worker :=
  match worker.phase with
  | .idle =>
    if run.isCancelled then (run, { worker with phase := .stopped })
    else
      let bounds : Bounds := ⟨run.config.callTimeout.map (run.time + ·), run.shutdownAt⟩
      let errand := worker.job.errand run.config.delays run.table run.world.now
      (run, { worker with phase := .passing errand bounds })
  | .passing errand bounds => run.continuePass worker bounds errand
  | .awaiting call next bounds _ ending =>
    match ending.failure? with
    | some failure =>
      (run, { worker with phase := .passing (next (.error failure)) bounds })
    | none =>
      let (reply, world) := run.world.complete call
      ({ run with world }, { worker with phase := .passing (next reply) bounds })
  | .sleeping _ =>
    (run, { worker with phase := if run.isCancelled then .stopped else .idle })
  | .stopped => (run, worker)

/-- The move of the worker with the given number. A worker that is not able to move stays put. -/
def move (run : Run) (number : Nat) : Run :=
  match run.workers[number]? with
  | none => run
  | some worker =>
    if run.isAble worker then
      let (run, worker) := run.act worker
      { run with workers := run.workers.set number worker }
    else run

def passTime (run : Run) (time : Nat) : Run := { run with world := { run.world with time } }

def allStopped (run : Run) : Bool := run.workers.all fun worker => worker.phase.isStopped

/-- A run ends when all workers have stopped. Without `once` it also waits for shutdown. -/
def isFinished (run : Run) : Bool := run.allStopped && (run.config.once || run.isCancelled)

def nextTime (run : Run) : Option Nat :=
  let dues := run.workers.filterMap fun worker => worker.phase.due?
  let shutdown := (run.shutdownAt.filter fun time => run.time < time).toList
  (shutdown ++ dues).min?

end Run

/-- A run whose workers move in a fixed order: those that have waited longest come first. -/
structure Schedule where
  run : Run
  turns : List Nat

namespace Schedule

def start (run : Run) : Schedule := ⟨run, List.range run.workers.length⟩

def isAble (schedule : Schedule) (number : Nat) : Bool :=
  schedule.run.workers[number]?.any schedule.run.isAble

def step? (schedule : Schedule) : Option Schedule :=
  match schedule.turns.find? schedule.isAble with
  | none => none
  | some number =>
    let moved : Schedule := { schedule with run := schedule.run.move number }
    let others := schedule.turns.filter fun other => other ≠ number
    some { moved with
      turns := if moved.isAble number then number :: others else others ++ [number] }

/-- Lets the run go on until it is finished or the time has come, at most so many steps. What
happens at that time is left for later. -/
def advanceTo (limit : Nat) : Nat → Schedule → Schedule
  | 0, schedule => schedule
  | fuel + 1, schedule =>
    if limit ≤ schedule.run.time || schedule.run.isFinished then schedule
    else match schedule.step? with
      | some schedule => advanceTo limit fuel schedule
      | none =>
        let time := min limit (schedule.run.nextTime.getD limit)
        advanceTo limit fuel { schedule with run := schedule.run.passTime time }

def settle : Nat → Schedule → Schedule
  | 0, schedule => schedule
  | fuel + 1, schedule =>
    match schedule.step? with
    | some schedule => settle fuel schedule
    | none => schedule

end Schedule

end Converge
