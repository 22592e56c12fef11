import Converge.Json.Lookup
import Converge.Pass
import Converge.Resolver.Format

/-! The written form of what passes and their steps have come to. Here whatever is unset is written
as null. -/
namespace Converge

open Converge.Json

def Failure.write (failure : Failure) : Document :=
  .record [("error", .string failure.label), ("message", .string failure.text)]

def Failure.read (document : Document) : Decoded Failure := do
  let code ← document.fieldOr .string "code" ""
  let message ← document.fieldOr .string "message" ""
  let variants := [Failure.provider code message, .validation message, .terminal message,
    .notFound, .deadlineExceeded, .cancelled]
  let kinds : Codec Failure := .variant (variants.map fun failure => (failure.label, failure))
  document.field kinds "kind"

def writeResult {α : Type} (write : α → Document) : Except Failure α → Document
  | .ok value => .record [("ok", write value)]
  | .error failure => failure.write

def Severity.write : Severity → Document
  | .recoverable => .string "Recoverable"
  | .terminal => .string "Terminal"

def Outcome.write (outcome : Outcome) : Document :=
  let parts := match outcome with
    | .converged => []
    | .retry after reason =>
      [("after_ms", after.elim .null fun delay => .integer delay), ("reason", .string reason)]
    | .fatal reason => [("reason", .string reason)]
  .record ([("kind", .string outcome.label)] ++ parts ++
    [("converged", .bool outcome.isConverged), ("terminal", .bool outcome.isFatal)])

def Changes.write (changes : Changes) : Document :=
  .record [("created", .bool changes.created), ("tags", .bool changes.tags),
    ("collections", .bool changes.collections), ("primary", .bool changes.primary),
    ("any", .bool changes.any)]

def Changes.read (document : Document) : Decoded Changes := do
  return ⟨← document.fieldOr .bool "created" false, ← document.fieldOr .bool "tags" false,
    ← document.fieldOr .bool "collections" false, ← document.fieldOr .bool "primary" false⟩

def Condition.write (condition : Condition) : Document :=
  .record [("type", ConditionKind.codec.write condition.kind), ("status", .bool condition.status),
    ("message", Codec.string.option.write condition.message),
    ("last_transition_time", Codec.time.write condition.since)]

def Conditions.writeAll (conditions : Conditions) : Document :=
  .list (conditions.entries.map Condition.write)

def Applied.write {O : Type} (write : O → Document) (applied : Applied O) : Document :=
  .record [("observed", write applied.observed), ("changed", .bool applied.changed),
    ("failure", applied.failure.elim .null Failure.write)]

def Reconciled.write {O : Type} (write : O → Document) (result : Reconciled O) : Document :=
  .record [("observed", result.observed.elim .null write),
    ("conditions", result.conditions.writeAll), ("outcome", result.outcome.write),
    ("changes", result.changes.write)]

end Converge
