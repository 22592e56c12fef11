/-! What a pass tells the scheduler: all is as desired, come again, or give up. -/
namespace Converge

inductive Outcome where
  | converged
  /-- Come again, after the given milliseconds if there is a hint. -/
  | retry (after : Option Nat) (reason : String)
  | fatal (reason : String)
deriving DecidableEq, Inhabited

namespace Outcome

def isConverged : Outcome → Bool
  | .converged => true
  | _ => false

def isFatal : Outcome → Bool
  | .fatal _ => true
  | _ => false

def reason? : Outcome → Option String
  | .converged => none
  | .retry _ reason => some reason
  | .fatal reason => some reason

def label : Outcome → String
  | .converged => "Converged"
  | .retry _ _ => "Retry"
  | .fatal _ => "Fatal"

end Outcome

end Converge
