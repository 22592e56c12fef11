import Converge.Provider.Call

/-! The record of the calls that have reached a provider. A call can be made to fail by its number
among the calls of its kind. -/
namespace Converge.Provider

structure Visit where
  operation : Operation
  subject : String
deriving DecidableEq

/-- Makes one call fail: the one with the given number among those of its kind, from one on. -/
structure Fault where
  operation : Operation
  number : Nat
  code : String
deriving DecidableEq

structure Journal where
  visits : List Visit
  /-- How often each kind of call has been made, whether it is still recorded or not. -/
  counts : List (Operation × Nat)
  faults : List Fault
deriving DecidableEq

namespace Journal

def empty : Journal := ⟨[], [], []⟩

instance : EmptyCollection Journal := ⟨empty⟩

instance : Inhabited Journal := ⟨empty⟩

def count (journal : Journal) (operation : Operation) : Nat :=
  (journal.counts.lookup operation).getD 0

def raise (operation : Operation) : List (Operation × Nat) → List (Operation × Nat)
  | [] => [(operation, 1)]
  | (other, count) :: rest =>
    if other = operation then (other, count + 1) :: rest else (other, count) :: raise operation rest

def enter (journal : Journal) (call : Call) : Option Failure × Journal :=
  let operation := call.operation
  let counts := raise operation journal.counts
  let visits := journal.visits ++ [⟨operation, call.subject⟩]
  let noted : Journal := { journal with visits, counts }
  let hits (fault : Fault) : Bool :=
    fault.operation = operation && fault.number = noted.count operation
  match noted.faults.find? hits with
  | some fault =>
    (some (.provider fault.code s!"injected failure of {operation.label}"),
      { noted with faults := noted.faults.eraseP hits })
  | none => (none, noted)

def failNth (journal : Journal) (fault : Fault) : Journal :=
  { journal with faults := journal.faults ++ [fault] }

/-- Forgets the calls but not their number. -/
def clear (journal : Journal) : Journal := { journal with visits := [] }

end Journal

end Converge.Provider
