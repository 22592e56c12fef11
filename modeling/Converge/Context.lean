import Converge.Failure

/-! Under what terms a call is made: until when it may take, and what calls it off. Time is counted
in whole milliseconds. A context names the signal that cancels it; a timeline says when each
signal is given. -/
namespace Converge

structure Bounds where
  deadline : Option Nat
  cancelAt : Option Nat
deriving DecidableEq, Inhabited

inductive Ending where
  | completed
  | cancelled
  | expired
deriving DecidableEq, Inhabited

namespace Ending

def failure? : Ending → Option Failure
  | .completed => none
  | .cancelled => some .cancelled
  | .expired => some .deadlineExceeded

def result {α : Type} (ending : Ending) (result : Except Failure α) : Except Failure α :=
  match ending.failure? with
  | none => result
  | some failure => .error failure

end Ending

namespace Bounds

def unbounded : Bounds := ⟨none, none⟩

def isCancelled (bounds : Bounds) (now : Nat) : Bool :=
  bounds.cancelAt.any fun time => time ≤ now

def isExpired (bounds : Bounds) (now : Nat) : Bool :=
  bounds.deadline.any fun time => time ≤ now

def check (bounds : Bounds) (now : Nat) : Except Failure Unit :=
  if bounds.isCancelled now then .error .cancelled
  else if bounds.isExpired now then .error .deadlineExceeded
  else .ok ()

def earlier (a b : Option (Nat × Ending)) : Option (Nat × Ending) :=
  match a, b with
  | some first, some second => if second.1 < first.1 then b else a
  | none, _ => b
  | _, none => a

/-- When and how a call under way ends that takes the given time from now, or never ends by itself.
Of events at one instant the completion comes first, then the cancellation. -/
def firstEvent (bounds : Bounds) (now : Nat) (duration : Option Nat) : Option (Nat × Ending) :=
  earlier
    (earlier (duration.map fun time => (now + time, .completed))
      (bounds.cancelAt.map fun time => (time, .cancelled)))
    (bounds.deadline.map fun time => (time, .expired))

def race (bounds : Bounds) (now : Nat) (duration : Option Nat) : Option (Nat × Ending) :=
  if bounds.isCancelled now then some (now, .cancelled)
  else if bounds.isExpired now then some (now, .expired)
  else bounds.firstEvent now duration

/-- When and how a call ends that would take the given time. -/
def wait (bounds : Bounds) (now duration : Nat) : Nat × Ending :=
  (bounds.race now (some duration)).getD (now + duration, .completed)

end Bounds

structure Signal where
  serial : Nat
deriving DecidableEq, Inhabited

structure Timeline where
  given : List (Signal × Nat)
deriving DecidableEq, Inhabited

namespace Timeline

def empty : Timeline := ⟨[]⟩

def cancelAt (timeline : Timeline) (signal : Signal) : Option Nat :=
  ((timeline.given.filter fun entry => entry.1 = signal).map Prod.snd).min?

def give (timeline : Timeline) (signal : Signal) (time : Nat) : Timeline :=
  ⟨(signal, time) :: timeline.given⟩

end Timeline

structure Context where
  pass : Nat
  deadline : Option Nat
  signal : Option Signal
deriving DecidableEq, Inhabited

structure Supply where
  nextPass : Nat
  nextSignal : Nat
deriving DecidableEq, Inhabited

namespace Context

def new (supply : Supply) : Context × Supply :=
  (⟨supply.nextPass, none, none⟩, { supply with nextPass := supply.nextPass + 1 })

def withDeadline (context : Context) (time : Nat) : Context :=
  { context with deadline := some time }

/-- The time counts from now and replaces an earlier deadline. -/
def withTimeout (context : Context) (now duration : Nat) : Context :=
  context.withDeadline (now + duration)

/-- The context hears a new signal, and no longer the one it heard before. -/
def cancellable (context : Context) (supply : Supply) : Context × Signal × Supply :=
  let signal : Signal := ⟨supply.nextSignal⟩
  ({ context with signal := some signal }, signal,
    { supply with nextSignal := supply.nextSignal + 1 })

def forNextPass (context : Context) (supply : Supply) : Context × Supply :=
  ({ context with pass := supply.nextPass }, { supply with nextPass := supply.nextPass + 1 })

def bounds (context : Context) (timeline : Timeline) : Bounds :=
  ⟨context.deadline, context.signal.bind timeline.cancelAt⟩

def isCancelled (context : Context) (timeline : Timeline) (now : Nat) : Bool :=
  (context.bounds timeline).isCancelled now

def check (context : Context) (timeline : Timeline) (now : Nat) : Except Failure Unit :=
  (context.bounds timeline).check now

end Context

end Converge
