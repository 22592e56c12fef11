import Converge.Outcome

/-! How long to wait between passes. Failures without a hint are waited out longer and longer, up to
a limit, until the resource converges. -/
namespace Converge

def longestWait : Nat := Nat.pow 2 64 * 1000 - 1

structure Backoff where
  least : Nat
  most : Nat
  current : Option Nat
deriving DecidableEq

namespace Backoff

def new (least most : Nat) : Backoff := ⟨least, max least most, none⟩

def doubled (wait : Nat) : Nat := min (wait * 2) longestWait

def next (backoff : Backoff) : Nat × Backoff :=
  let wait := match backoff.current with
    | none => backoff.least
    | some before => min (doubled before) backoff.most
  (wait, { backoff with current := some wait })

def reset (backoff : Backoff) : Backoff := { backoff with current := none }

def after (backoff : Backoff) (once : Bool) (resyncInterval : Nat) :
    Outcome → Option Nat × Backoff
  | .converged => (if once then none else some resyncInterval, backoff.reset)
  | .retry (some hint) _ => (some hint, backoff)
  | .retry none _ =>
    let (wait, backoff) := backoff.next
    (some wait, backoff)
  | .fatal _ => (none, backoff)

end Backoff

end Converge
