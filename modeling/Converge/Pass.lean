import Converge.Condition
import Converge.Manager
import Converge.Outcome

/-! One pass over one resource. The resource is observed; if it is missing it is created, and
otherwise the differences are dealt with group by group: tags, collections, the record itself. The
first failure ends the pass. Nothing is undone, since the next pass starts from the snapshot that
this one returns. -/
namespace Converge

def tagsPath : String := "spec.tags"

structure PassDelays where
  /-- After a change that has to be read back. -/
  refresh : Nat := 5000
  /-- While the provider is still at work. -/
  settle : Nat := 15000
deriving DecidableEq, Inhabited

inductive PassEnding where
  | failed (failure : Failure)
  | stale
  | unsettled
  | settled
deriving DecidableEq

structure PassResult (O : Type) where
  observed : Option O
  changes : Changes
  ending : PassEnding
deriving DecidableEq

structure Reconciled (O : Type) where
  observed : Option O
  conditions : Conditions
  outcome : Outcome
  changes : Changes
deriving DecidableEq

namespace Pass

variable {O : Type}

/-- A program that sees its resource only through the steps of a manager. -/
abbrev Stepwise (O : Type) := Program (Step O) Step.Reply

def step (step : Step O) : Stepwise O step.Reply := Program.request step

def stop (observed : Option O) (changes : Changes) (failure : Failure) :
    Stepwise O (PassResult O) :=
  pure ⟨observed, changes, .failed failure⟩

/-- A pass without a failure is over when nothing has to be read back and the provider is done. -/
def finish (observed : O) (changes : Changes) : Stepwise O (PassResult O) := do
  if ← step (.needsRefresh changes) then pure ⟨some observed, changes, .stale⟩
  else if ← step (.settled observed) then pure ⟨some observed, changes, .settled⟩
  else pure ⟨some observed, changes, .unsettled⟩

/-- A failed creation leaves the snapshot from which the pass started. -/
def create (last : Option O) (token : Token) : Stepwise O (PassResult O) := do
  match ← step (.create token) with
  | .error failure => stop last .none failure
  | .ok created =>
    let applied ← step (.afterCreate created)
    let changes := { Changes.none with created := true, collections := applied.changed }
    match applied.failure with
    | some failure => stop (some applied.observed) changes failure
    | none => finish applied.observed changes

def updatePrimary (paths : List String) (delta : Delta) (observed : O) (changes : Changes) :
    Stepwise O (PassResult O) := do
  if delta.differentExcept (tagsPath :: paths) then
    match ← step (.update observed delta) with
    | .error failure => stop (some observed) changes failure
    | .ok updated => finish updated { changes with primary := true }
  else finish observed changes

def updateCollections (paths : List String) (delta : Delta) (observed : O) (changes : Changes) :
    Stepwise O (PassResult O) := do
  if paths.any delta.differentAt then
    let applied ← step (.syncCollections observed delta)
    let changes := { changes with collections := applied.changed }
    match applied.failure with
    | some failure => stop (some applied.observed) changes failure
    | none => updatePrimary paths delta applied.observed changes
  else updatePrimary paths delta observed changes

def updateTags (paths : List String) (delta : Delta) (observed : O) :
    Stepwise O (PassResult O) := do
  if delta.differentAt tagsPath then
    match ← step (.syncTags observed) with
    | .error failure => stop (some observed) .none failure
    | .ok updated => updateCollections paths delta updated { Changes.none with tags := true }
  else updateCollections paths delta observed .none

def update (paths : List String) (observed : O) : Stepwise O (PassResult O) := do
  match ← step (.checkImmutable observed) with
  | .error failure => stop (some observed) .none failure
  | .ok () =>
    let delta ← step (.delta observed)
    if delta.isEmpty then finish observed .none
    else updateTags paths delta observed

/-- One pass, given the paths of the collections and the snapshot of the pass before. -/
def run (paths : List String) (token : Token) (last : Option O) : Stepwise O (PassResult O) := do
  match ← step (.observe last) with
  | .error failure => stop last .none failure
  | .ok none => create last token
  | .ok (some observed) => update paths observed

end Pass

namespace Reconciled

variable {O : Type}

def ofFailure (codes : List String) (now : Timestamp) (prior : Conditions) (observed : Option O)
    (changes : Changes) (failure : Failure) : Reconciled O :=
  let severity := failure.severity codes
  { observed, changes
    conditions := prior.track now (some (failure, severity)) false (some failure.text)
    outcome := match severity with
      | .terminal => .fatal failure.text
      | .recoverable => .retry none failure.text }

def ofWaiting (now : Timestamp) (prior : Conditions) (observed : Option O) (changes : Changes)
    (delay : Nat) (reason : String) : Reconciled O :=
  { observed, changes
    conditions := prior.track now none false (some reason)
    outcome := .retry (some delay) reason }

def ofSettled (now : Timestamp) (prior : Conditions) (observed : Option O) (changes : Changes) :
    Reconciled O :=
  { observed, changes
    conditions := prior.track now none true none
    outcome := .converged }

end Reconciled

namespace PassResult

variable {O : Type}

def conclude (codes : List String) (delays : PassDelays) (now : Timestamp) (prior : Conditions)
    (result : PassResult O) : Reconciled O :=
  match result.ending with
  | .failed failure => .ofFailure codes now prior result.observed result.changes failure
  | .stale =>
    .ofWaiting now prior result.observed result.changes delays.refresh
      "requeued to refresh resource status"
  | .unsettled =>
    .ofWaiting now prior result.observed result.changes delays.settle
      "waiting for resource to settle"
  | .settled => .ofSettled now prior result.observed result.changes

theorem isConverged_conclude_iff (codes : List String) (delays : PassDelays) (now : Timestamp)
    (prior : Conditions) (result : PassResult O) :
    (result.conclude codes delays now prior).outcome.isConverged = true ↔
      result.ending = .settled := by
  unfold conclude
  split
  · next failure ending =>
    rw [ending]
    simp only [Reconciled.ofFailure, reduceCtorEq, iff_false, Bool.not_eq_true]
    cases failure.severity codes <;> rfl
  all_goals next ending =>
    simp [ending, Reconciled.ofWaiting, Reconciled.ofSettled, Outcome.isConverged]

@[simp]
theorem observed_conclude (codes : List String) (delays : PassDelays) (now : Timestamp)
    (prior : Conditions) (result : PassResult O) :
    (result.conclude codes delays now prior).observed = result.observed := by
  unfold conclude
  split <;> rfl

@[simp]
theorem changes_conclude (codes : List String) (delays : PassDelays) (now : Timestamp)
    (prior : Conditions) (result : PassResult O) :
    (result.conclude codes delays now prior).changes = result.changes := by
  unfold conclude
  split <;> rfl

end PassResult

namespace Manager

variable {Call : Type} {Reply : Call → Type} {Desired Observed : Type}

def pass (manager : Manager Call Reply Desired Observed) (desired : Desired) (token : Token)
    (last : Option Observed) : Program Call Reply (PassResult Observed) :=
  (Pass.run manager.collectionPaths token last).expand (manager.perform desired)

/-- Deletion as calls to the provider. -/
def finalize (manager : Manager Call Reply Desired Observed) :
    Option Observed → Program Call Reply (Except Failure Unit)
  | none => pure (.ok ())
  | some observed => do
    match ← (manager.delete observed).outcome with
    | .error failure => pure (if failure.isNotFound then .ok () else .error failure)
    | .ok () => pure (.ok ())

end Manager

end Converge
