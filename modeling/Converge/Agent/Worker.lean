import Converge.Agent.Backoff
import Converge.Agent.Reference
import Converge.Provider.World
import Converge.Resolver.RuleManager

/-! Workers, each of which looks after one resource: it makes a pass, waits, and makes another one,
until there is nothing left to do. -/
namespace Converge

open Converge.Provider Converge.Resolver

structure AgentConfig where
  workers : Nat := 4
  /-- All times are in milliseconds. -/
  resyncInterval : Nat := 60000
  minBackoff : Nat := 500
  maxBackoff : Nat := 60000
  callTimeout : Option Nat := some 30000
  once : Bool := false
  delays : PassDelays := {}
deriving DecidableEq, Inhabited

inductive Job where
  | endpoint (spec : EndpointSpec)
  | rule (spec : RuleSpec)
deriving DecidableEq

inductive Report where
  | endpoint (name : String) (result : Reconciled Endpoint)
  | rule (name : String) (result : Reconciled Rule)

namespace Report

def outcome : Report → Outcome
  | endpoint _ result => result.outcome
  | rule _ result => result.outcome

def record (now : Timestamp) (table : StatusTable) : Report → StatusTable
  | endpoint name result =>
    let entry := (table.endpoints.get? name).getD .empty
    { table with endpoints := table.endpoints.insert name (entry.record now result) }
  | rule name result =>
    let entry := (table.rules.get? name).getD .empty
    { table with rules := table.rules.insert name (entry.record now result) }

end Report

/-- A pass whose report is dated when it ends. -/
abbrev Errand := Program Call Call.Reply (Timestamp → Report)

def errandOf {D O : Type} (manager : Manager Call Call.Reply D O) (delays : PassDelays)
    (report : Reconciled O → Report) (entry : Entry O) (desired : D) (start : Timestamp) :
    Errand := do
  let result ← manager.pass desired (manager.token desired start) entry.observed
  pure fun stop =>
    report (result.conclude manager.terminalCodes delays stop entry.conditions)

namespace Job

/-- A pass over a resource. A rule whose reference cannot be resolved fails without a call. -/
def errand (job : Job) (delays : PassDelays) (table : StatusTable) (start : Timestamp) :
    Errand :=
  match job with
  | endpoint spec =>
    errandOf endpointManager delays (.endpoint spec.name)
      ((table.endpoints.get? spec.name).getD .empty) spec start
  | rule spec =>
    let entry := (table.rules.get? spec.name).getD .empty
    match table.resolve spec with
    | .ok resolved => errandOf ruleManager delays (.rule spec.name) entry resolved start
    | .error failure => pure fun stop =>
      .rule spec.name
        (Reconciled.ofFailure [] stop entry.conditions entry.observed .none failure)

end Job

inductive Phase where
  | idle
  | passing (errand : Errand) (bounds : Bounds)
  | awaiting (call : Call) (next : call.Reply → Errand) (bounds : Bounds) (due : Nat)
    (ending : Ending)
  | sleeping (due : Nat)
  | stopped

namespace Phase

def isBusy : Phase → Bool
  | passing _ _ => true
  | awaiting _ _ _ _ _ => true
  | _ => false

def isStopped : Phase → Bool
  | stopped => true
  | _ => false

def due? : Phase → Option Nat
  | awaiting _ _ _ due _ => some due
  | sleeping due => some due
  | _ => none

end Phase

structure Worker where
  job : Job
  backoff : Backoff
  phase : Phase

namespace Worker

def new (config : AgentConfig) (job : Job) : Worker :=
  ⟨job, .new config.minBackoff config.maxBackoff, .idle⟩

end Worker

end Converge
