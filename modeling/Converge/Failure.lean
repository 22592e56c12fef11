/-! Why a step of a pass failed, and whether trying the same thing again can help.
A provider speaks in error codes; the rest of the library asks only for the message,
for the severity and for whether the resource is simply not there. -/
namespace Converge

inductive Severity where
  | recoverable
  | terminal
deriving DecidableEq, Inhabited

inductive Failure where
  | notFound
  | provider (code message : String)
  | validation (message : String)
  | terminal (message : String)
  | deadlineExceeded
  | cancelled
deriving DecidableEq, Inhabited

namespace Failure

def notFoundCode : String := "ResourceNotFoundException"

def label : Failure → String
  | .notFound => "NotFound"
  | .provider _ _ => "Provider"
  | .validation _ => "Validation"
  | .terminal _ => "Terminal"
  | .deadlineExceeded => "DeadlineExceeded"
  | .cancelled => "Cancelled"

def text : Failure → String
  | .notFound => "resource not found"
  | .provider code message => s!"{code}: {message}"
  | .validation message => s!"validation failed: {message}"
  | .terminal message => s!"terminal: {message}"
  | .deadlineExceeded => "deadline exceeded"
  | .cancelled => "cancelled"

def code? : Failure → Option String
  | .provider code _ => some code
  | _ => none

def isNotFound (failure : Failure) : Bool :=
  failure = .notFound || failure.code? = some notFoundCode

/-- Brings the provider's way of saying "not there" to the common form. -/
def normalized (failure : Failure) : Failure :=
  if failure.code? = some notFoundCode then .notFound else failure

/-- A failure is final if it says so itself or if its code is one of those that
retrying does not mend. -/
def severity (terminalCodes : List String) : Failure → Severity
  | .terminal _ => .terminal
  | .provider code _ => if code ∈ terminalCodes then .terminal else .recoverable
  | _ => .recoverable

end Failure

end Converge
