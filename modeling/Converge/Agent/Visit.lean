import Converge.Agent.Run

/-! Calls that somebody else makes to the provider while an agent runs. They take their place among
the calls of the workers, and the clock of the run goes on as without them. -/
namespace Converge.Schedule

open Converge.Provider

def touch {α : Type} (schedule : Schedule) (time : Nat) (act : World → α × World) :
    α × Schedule :=
  let kept := schedule.run.time
  let (value, world) := act { schedule.run.world with time }
  (value, { schedule with run := { schedule.run with world := { world with time := kept } } })

/-- Makes a call that is under no terms, with whatever the workers do until it is made and while it
is under way. The run ends at the limit, the call does not. A time that is past means now. -/
def visit (schedule : Schedule) (limit time fuel : Nat) (call : Call) : call.Reply × Schedule :=
  let time := max time schedule.run.time
  let (failure, schedule) := (schedule.advanceTo (min time limit) fuel).touch time fun world =>
    world.begin .unbounded call
  match failure with
  | some failure => (.error failure, schedule)
  | none =>
    let due := time + schedule.run.world.latency
    (schedule.advanceTo (min due limit) fuel).touch due fun world => world.complete call

end Converge.Schedule
