import Converge.Context
import Converge.Provider.Journal
import Converge.Provider.Registry

/-! A provider in time. A call is refused if it is called off or late before it is made; then it is
recorded, and takes effect when its time is over, unless it is called off or late by then. -/
namespace Converge.Provider

structure World where
  site : Site
  /-- How long a call takes, in milliseconds. -/
  latency : Nat
  journal : Journal
  registry : Registry
  time : Nat
  clock : Nat → Timestamp

namespace World

def now (world : World) : Timestamp := world.clock world.time

/-- Thirty years, in milliseconds. -/
def longestLatency : Nat := 30 * 365 * 86400000

def withLatency (world : World) (latency : Nat) : World :=
  { world with latency := min latency longestLatency }

/-- Begins a call: nothing is returned if it is under way. -/
def begin (world : World) (bounds : Bounds) (call : Call) : Option Failure × World :=
  match bounds.check world.time with
  | .error failure => (some failure, world)
  | .ok () =>
    let (failure, journal) := world.journal.enter call
    (failure, { world with journal })

def complete (world : World) (call : Call) : call.Reply × World :=
  match world.registry.perform world.site world.now call with
  | .ok (value, registry) => (.ok value, { world with registry })
  | .error failure => (.error failure, world)

/-- When and how a call ends that begins now. A call that takes no time cannot be called off once it
has begun. -/
def ending (world : World) (bounds : Bounds) : Nat × Ending :=
  if world.latency = 0 then (world.time, .completed) else bounds.wait world.time world.latency

def serve (bounds : Bounds) (call : Call) (world : World) : call.Reply × World :=
  match world.begin bounds call with
  | (some failure, world) => (.error failure, world)
  | (none, world) =>
    let (time, ending) := world.ending bounds
    let world := { world with time }
    match ending.failure? with
    | some failure => (.error failure, world)
    | none => world.complete call

end World

end Converge.Provider
