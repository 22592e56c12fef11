import Converge.Json.Schema
import Converge.Pass
import Converge.Resolver.Endpoint
import Converge.Resolver.Rule

/-! What is known about every resource between passes, by kind and name. -/
namespace Converge

open Converge.Json Converge.Resolver

structure Entry (O : Type) where
  observed : Option O
  conditions : Conditions
  outcome : Option Outcome
  passes : Nat
  lastPass : Option Timestamp
deriving DecidableEq

namespace Entry

variable {O : Type}

def empty : Entry O := ⟨none, ∅, none, 0, none⟩

instance : Inhabited (Entry O) := ⟨empty⟩

/-- Takes in what a pass has returned. A pass that has seen nothing leaves the snapshot. -/
def record (entry : Entry O) (now : Timestamp) (result : Reconciled O) : Entry O where
  observed := result.observed <|> entry.observed
  conditions := result.conditions
  outcome := some result.outcome
  passes := entry.passes + 1
  lastPass := some now

end Entry

structure Summary where
  kind : String
  name : String
  id : Option String
  outcome : Option String
  synced : Bool
  message : Option String
  passes : Nat
deriving DecidableEq

namespace Summary

def messageOf (conditions : Conditions) : Option String :=
  [ConditionKind.terminal, .recoverable, .synced].findSome? fun kind =>
    (conditions.get? kind).bind Condition.message

def ofEntry {O : Type} (kind name : String) (id : O → Option String) (entry : Entry O) :
    Summary where
  kind
  name
  id := entry.observed.bind id
  outcome := entry.outcome.map Outcome.label
  synced := entry.conditions.isTrue .synced
  message := messageOf entry.conditions
  passes := entry.passes

def write (summary : Summary) : Document :=
  let text := Codec.string.option.write
  .record [("kind", .string summary.kind), ("name", .string summary.name),
    ("id", text summary.id), ("outcome", text summary.outcome),
    ("synced", .bool summary.synced), ("message", text summary.message),
    ("passes", .integer summary.passes)]

end Summary

structure StatusTable where
  endpoints : NameMap (Entry Endpoint)
  rules : NameMap (Entry Rule)
deriving DecidableEq

namespace StatusTable

def empty : StatusTable := ⟨∅, ∅⟩

instance : EmptyCollection StatusTable := ⟨empty⟩

instance : Inhabited StatusTable := ⟨empty⟩

def summary (table : StatusTable) : List Summary :=
  (table.endpoints.entries.map fun (name, entry) =>
    Summary.ofEntry "ResolverEndpoint" name Endpoint.id? entry) ++
  table.rules.entries.map fun (name, entry) =>
    Summary.ofEntry "ResolverRule" name Rule.id? entry

end StatusTable

end Converge
