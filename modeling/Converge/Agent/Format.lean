import Converge.Agent.Worker
import Converge.Pass.Format

/-! The written form of an agent's settings and of what it knows. -/
namespace Converge

open Converge.Json Converge.Resolver

def longCodec : Codec Nat := .natural (Nat.pow 2 64) "a number of 64 bits"

def PassDelays.read (document : Document) : Decoded PassDelays := do
  let usual : PassDelays := {}
  return ⟨← document.fieldOr longCodec "refresh_delay_ms" usual.refresh,
    ← document.fieldOr longCodec "settle_delay_ms" usual.settle⟩

def AgentConfig.read (document : Document) : Decoded AgentConfig := do
  let usual : AgentConfig := {}
  let number := document.fieldOr longCodec
  return {
    workers := ← number "workers" usual.workers
    resyncInterval := ← number "resync_interval_ms" usual.resyncInterval
    minBackoff := ← number "min_backoff_ms" usual.minBackoff
    maxBackoff := ← number "max_backoff_ms" usual.maxBackoff
    callTimeout := ← match document.member? "call_timeout_ms" with
      | none => .ok usual.callTimeout
      | some found => longCodec.option.read found
    once := ← document.fieldOr .bool "once" usual.once
    delays := ← PassDelays.read document }

def Entry.write {O : Type} (write : O → Document) (entry : Entry O) : Document :=
  .record [("observed", entry.observed.elim .null write),
    ("conditions", entry.conditions.writeAll),
    ("outcome", entry.outcome.elim .null Outcome.write), ("ran", .bool entry.lastPass.isSome)]

def StatusTable.write (table : StatusTable) : Document :=
  .record ((table.endpoints.entries.map fun (name, entry) =>
      (s!"{endpointManager.kind}/{name}", entry.write Endpoint.schema.write)) ++
    table.rules.entries.map fun (name, entry) =>
      (s!"{ruleManager.kind}/{name}", entry.write Rule.schema.write))

end Converge
