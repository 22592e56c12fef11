import Converge.Agent.Worker
import Converge.Proofs.Passes
import Converge.Proofs.Provider.Reachable

/-! Whole passes against a provider, one at a time and one after the other. If every pass that does
not converge brings a measure down, a series of passes converges within that many more. -/
namespace Converge

open Provider

/-- What a pass says that has to be read back. -/
def refreshReason : String := "requeued to refresh resource status"

def PassResult.StoppedBy {O : Type} (refusal : Call → Failure → Prop) (result : PassResult O) :
    Prop :=
  ∃ failure, Refused refusal failure ∧ result.ending = .failed failure

theorem PassResult.not_stoppedBy {O : Type} (result : PassResult O) :
    ¬result.StoppedBy noRefusal :=
  fun ⟨failure, refused, _⟩ => not_refused failure refused

namespace Manager

variable {D O : Type} (manager : Manager Call Call.Reply D O) (delays : PassDelays) (desired : D)

def reconcile (bounds : Bounds) (last : Option O) (prior : Conditions) (world : World) :
    Reconciled O × World :=
  let pass := manager.pass desired (manager.token desired world.now) last
  let (result, after) := pass.run (World.serve bounds) world
  (result.conclude manager.terminalCodes delays after.now prior, after)

theorem reachable_reconcile {bounds : Bounds} {last : Option O} {prior : Conditions} {world : World}
    (reached : world.Reachable) :
    (manager.reconcile delays desired bounds last prior world).2.Reachable :=
  reached.run bounds (manager.pass desired (manager.token desired world.now) last)

/-- A snapshot of a resource that may stay as it is, and from which nothing differs. -/
def Accepts (observed : O) : Prop :=
  manager.checkImmutable desired observed = .ok () ∧ (manager.delta desired observed).isEmpty = true

instance (observed : O) : Decidable (manager.Accepts desired observed) :=
  match allowed : manager.checkImmutable desired observed with
  | .ok () => decidable_of_iff ((manager.delta desired observed).isEmpty = true)
      ⟨fun same => ⟨allowed, same⟩, And.right⟩
  | .error _ => isFalse fun accepts => by cases allowed.symm.trans accepts.1

/-- The provider holds what is desired: whoever observes the resource of a snapshot without being
disturbed finds it so. -/
def Confirms (observed : Option O) (world : World) : Prop :=
  ∃ found,
    ((manager.observe desired observed).outcome.run (World.serve .unbounded) world.calmed).1 =
      .ok (some found) ∧ manager.Accepts desired found

instance (observed : Option O) (world : World) :
    Decidable (manager.Confirms desired observed world) :=
  match finds :
      ((manager.observe desired observed).outcome.run (World.serve .unbounded) world.calmed).1 with
  | .ok (some found) => decidable_of_iff (manager.Accepts desired found)
      ⟨fun accepts => ⟨found, finds, accepts⟩, fun ⟨_, again, accepts⟩ => by
        cases finds.symm.trans again
        exact accepts⟩
  | .ok none => isFalse fun ⟨_, again, _⟩ => by cases finds.symm.trans again
  | .error _ => isFalse fun ⟨_, again, _⟩ => by cases finds.symm.trans again

section Outcomes

variable {codes : List String} {delays : PassDelays} {now : Timestamp} {prior : Conditions}
  {result : PassResult O}

theorem outcome_of_settled (settled : result.ending = .settled) :
    (result.conclude codes delays now prior).outcome = .converged := by
  rw [PassResult.conclude, settled]
  rfl

theorem outcome_of_stale (stale : result.ending = .stale) :
    (result.conclude codes delays now prior).outcome =
      .retry (some delays.refresh) refreshReason := by
  rw [PassResult.conclude, stale]
  rfl

end Outcomes

theorem settled_of_outcome {codes : List String} {delays : PassDelays} {now : Timestamp}
    {prior : Conditions} {result : PassResult O}
    (converged : (result.conclude codes delays now prior).outcome = .converged) :
    result.ending = .settled := by
  refine (PassResult.isConverged_conclude_iff codes delays now prior result).1 ?_
  rw [converged]
  rfl

variable {manager desired} in
theorem confirms_of_always {observed : Option O} {world : World} {found : Option O} {kept : O}
    (observes : (manager.observe desired observed).outcome.Always (Answered world.site noRefusal)
      (fun reply after => after = world.registry ∧ (reply = .ok found ∨
        ∃ failure, Refused noRefusal failure ∧ (reply = .ok none ∨ reply = .error failure)))
      world.registry)
    (there : found = some kept) (accepts : manager.Accepts desired kept) :
    manager.Confirms desired observed world := by
  obtain ⟨-, finds | ⟨failure, refused, -⟩⟩ :=
    World.post_run_unbounded _ (World.calmed_isCalm world) observes
  · exact ⟨kept, there ▸ finds, accepts⟩
  · exact absurd refused (not_refused failure)

theorem always_pass_of_steps {σ : Type} {answers : Answers Call Call.Reply σ} {state : σ}
    {token : Token} {last found : Option O} (fits : Prop) (refused : Failure → Prop)
    (kept : Option O → σ → Prop)
    (observes : (manager.observe desired last).outcome.Always answers
      (fun reply after => after = state ∧ (reply = .ok found ∨
        ∃ failure, refused failure ∧ (reply = .ok none ∨ reply = .error failure))) state)
    (updates : ∀ observed, found = some observed →
      (manager.part desired (Pass.update manager.collectionPaths observed)).Always answers
        (fun result after => result.ending = .settled → kept result.observed after) state)
    (creates : fits → (manager.create desired token).outcome.Always answers
      (fun reply after => match reply with
        | .error _ => True
        | .ok created => (manager.afterCreate desired created).Always answers (fun applied after =>
            applied.failure = none → kept (some applied.observed) after) after)
      state) :
    (manager.pass desired token last).Always answers (fun result after =>
      result.ending = .settled → (result.changes.created = true → fits) →
        kept result.observed after) state := by
  have created : (manager.part desired (Pass.create last token)).Always answers
      (fun result after => result.ending = .settled → (result.changes.created = true → fits) →
        kept result.observed after) state := by
    by_cases fine : fits
    · refine (always_create last token).2 ((creates fine).imp fun reply after given => ?_)
      cases reply with
      | error failure => exact nofun
      | ok created =>
        refine given.imp fun applied after holds => ?_
        unfold Manager.applied
        cases failed : applied.failure with
        | some failure => exact nofun
        | none => exact fun _ _ => holds failed
    · refine (always_create_created last token).imp fun result after created settled fresh => ?_
      exact absurd (fresh (created settled)) fine
  refine (always_pass token last).2 (observes.imp ?_)
  rintro reply after ⟨rfl, rfl | ⟨failure, -, rfl | rfl⟩⟩
  · cases found with
    | none => exact created
    | some observed =>
      exact (updates observed rfl).imp fun result after holds settled _ => holds settled
  · exact created
  · exact nofun

/-- Passes one after the other that may take as long as they take. Each begins at a time of its own
and starts from what the one before has returned. -/
def series (begins : Nat → Nat) (last : Option O) (prior : Conditions) (world : World) :
    Nat → Reconciled O × World
  | 0 => manager.reconcile delays desired .unbounded last prior { world with time := begins 0 }
  | count + 1 =>
    let (result, after) := series begins last prior world count
    manager.reconcile delays desired .unbounded result.observed result.conditions
      { after with time := begins (count + 1) }

variable {manager delays desired}

theorem series_next (begins : Nat → Nat) (last : Option O) (prior : Conditions) (world : World)
    (count : Nat) :
    let (result, after) := manager.series delays desired begins last prior world count
    manager.series delays desired begins last prior world (count + 1) =
      manager.reconcile delays desired .unbounded result.observed result.conditions
        { after with time := begins (count + 1) } := rfl

variable (manager delays desired) in
theorem series_succ (begins : Nat → Nat) (last : Option O) (prior : Conditions) (world : World)
    (count : Nat) :
    let (first, after) := manager.series delays desired begins last prior world 0
    manager.series delays desired begins last prior world (count + 1) =
      manager.series delays desired (fun pass => begins (pass + 1)) first.observed first.conditions
        after count := by
  induction count with
  | zero => rfl
  | succ count ih =>
    simp only at ih ⊢
    rw [series_next, ih]
    rfl

theorem series_converges (good : Nat → Option O → World → Prop) (final : World → Prop)
    (step : ∀ measure last prior world time, good measure last world →
      let (result, after) :=
        manager.reconcile delays desired .unbounded last prior { world with time }
      (result.outcome = .converged ∧ final after) ∨
        (result.outcome = .retry (some delays.refresh) refreshReason ∧
          ∃ smaller < measure, good smaller result.observed after))
    (measure : Nat) (begins : Nat → Nat) (last : Option O) (prior : Conditions) (world : World)
    (start : good measure last world) :
    ∃ count ≤ measure,
      (∀ earlier < count,
        (manager.series delays desired begins last prior world earlier).1.outcome =
          .retry (some delays.refresh) refreshReason) ∧
      (manager.series delays desired begins last prior world count).1.outcome = .converged ∧
      final (manager.series delays desired begins last prior world count).2 := by
  -- The induction is on the measure, pass by pass.
  induction measure using Nat.strongRecOn generalizing begins last prior world with
  | ind measure ih =>
    rcases step measure last prior world (begins 0) start with done | ⟨again, smaller, less, good⟩
    · exact ⟨0, Nat.zero_le _, fun earlier before => absurd before (Nat.not_lt_zero _), done⟩
    · obtain ⟨count, few, retries, done⟩ := ih smaller less (fun pass => begins (pass + 1)) _
        (manager.series delays desired begins last prior world 0).1.conditions _ good
      have shift := series_succ manager delays desired begins last prior world
      refine ⟨count + 1, by omega, fun earlier before => ?_, ?_⟩
      · cases earlier with
        | zero => exact again
        | succ earlier =>
          rw [shift]
          exact retries earlier (by omega)
      · rw [shift]
        exact done

end Manager

end Converge
