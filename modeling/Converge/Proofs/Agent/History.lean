import Converge.Proofs.Agent.Table
import Converge.Proofs.Conditions
import Converge.Proofs.Provider.Reachable

/-! The history of one resource: passes of managers, and passes that never began because a reference
could not be resolved. Both are recorded in an entry that is empty at first, and after each of them
the outcome, the conditions and the summary say the same. -/
namespace Converge

open Provider Resolver

inductive Episode (O : Type) : Type 1 where
  | pass {Call : Type} {Reply : Call → Type} {D σ : Type} (manager : Manager Call Reply D O)
    (delays : PassDelays) (desired : D) (last : Option O) (start : Timestamp)
    (serve : (call : Call) → σ → Reply call × σ) (state : σ)
  | unresolved (failure : Failure)

namespace Episode

variable {O : Type}

/-- The result of an episode that ends at the given time. -/
def result (episode : Episode O) (now : Timestamp) (entry : Entry O) : Reconciled O :=
  match episode with
  | pass manager delays desired last start serve state =>
    let program := manager.pass desired (manager.token desired start) last
    (program.run serve state).1.conclude manager.terminalCodes delays now entry.conditions
  | unresolved failure =>
    .ofFailure [] now entry.conditions entry.observed .none failure

def severity? : Episode O → Option Severity
  | pass manager _ desired last start serve state =>
    let program := manager.pass desired (manager.token desired start) last
    (program.run serve state).1.ending.severity? manager.terminalCodes
  | unresolved failure => some (failure.severity [])

theorem tell_result (episode : Episode O) (now : Timestamp) (entry : Entry O) :
    let result := episode.result now entry
    result.conditions.Tell episode.severity? result.outcome := by
  cases episode with
  | pass manager delays desired last start serve state =>
    exact PassResult.tell_conclude manager.terminalCodes delays now entry.conditions _
  | unresolved failure =>
    exact Reconciled.tell_ofFailure now entry.conditions entry.observed .none [] failure

end Episode

namespace Entry

variable {O : Type}

/-- The entry after a history, the first episode first. -/
def after (history : List (Timestamp × Episode O)) : Entry O :=
  history.foldl (fun entry (now, episode) => entry.record now (episode.result now entry)) .empty

theorem after_snoc (history : List (Timestamp × Episode O)) (now : Timestamp)
    (episode : Episode O) :
    after (history ++ [(now, episode)]) =
      (after history).record now (episode.result now (after history)) := by
  simp [after]

end Entry

namespace StatusTable

variable {table : StatusTable}

theorem code?_of_endpointId {name : String} {failure : Failure}
    (failed : table.endpointId name = .error failure) : failure.code? = none := by
  simp only [endpointId] at failed
  split at failed
  · cases failed
    rfl
  · split at failed <;> cases failed
    rfl

theorem code?_of_resolve {spec : RuleSpec} {failure : Failure}
    (failed : table.resolve spec = .error failure) : failure.code? = none := by
  unfold resolve at failed
  split at failed
  · cases failed
  · next name _ =>
    cases found : table.endpointId name with
    | error cause =>
      rw [found] at failed
      cases failed
      exact code?_of_endpointId found
    | ok id =>
      rw [found] at failed
      cases failed

end StatusTable

theorem Failure.severity_of_code?_eq_none {failure : Failure} (uncoded : failure.code? = none)
    (codes others : List String) : failure.severity codes = failure.severity others := by
  cases failure <;> first | rfl | cases uncoded

theorem run_errandOf_eq_episode {D O σ : Type} (manager : Manager Call Call.Reply D O)
    (delays : PassDelays) (report : Reconciled O → Report) (entry : Entry O) (desired : D)
    (start stop : Timestamp) (serve : (call : Call) → σ → call.Reply × σ) (state : σ) :
    ((errandOf manager delays report entry desired start).run serve state).1 stop =
      report ((Episode.pass manager delays desired entry.observed start serve state).result
        stop entry) := by
  simp only [errandOf, Program.run_bind]
  rfl

namespace Entry

/-- After every episode of a history the conditions and the summary of an entry tell the same as its
outcome. A rule that cannot be resolved is recorded as a pass that fails for that reason would be,
whatever codes count as terminal. -/
theorem after_tells_outcome :
    (∀ {O : Type} (history : List (Timestamp × Episode O)) (now : Timestamp) (episode : Episode O),
      let entry := Entry.after (history ++ [(now, episode)])
      ∃ outcome, entry.outcome = some outcome ∧
        entry.conditions.Tell episode.severity? outcome ∧
        ∀ kind name id,
          let line := Summary.ofEntry kind name id entry
          (line.synced = true ↔ outcome = .converged) ∧ line.message = outcome.reason?) ∧
    ∀ (table : StatusTable) (spec : RuleSpec) (failure : Failure),
      table.resolve spec = .error failure →
        let entry := table.rule spec.name
        let unresolved : Episode Rule := .unresolved failure
        (∀ delays start, (Job.rule spec).errand delays table start =
          pure fun stop => .rule spec.name (unresolved.result stop entry)) ∧
        ∀ codes delays now, unresolved.result now entry =
          (PassResult.mk entry.observed .none (.failed failure)).conclude codes delays now
            entry.conditions := by
  constructor
  · intro O history now episode
    have tell := episode.tell_result now (after history)
    rw [after_snoc]
    exact ⟨_, rfl, tell, fun kind name id => ⟨tell.synced, tell.message⟩⟩
  · intro table spec failure failed entry unresolved
    constructor
    · intro delays start
      simp only [Job.errand, failed]
      rfl
    · intro codes delays now
      have same := Failure.severity_of_code?_eq_none (StatusTable.code?_of_resolve failed) [] codes
      simp only [unresolved, Episode.result, PassResult.conclude, Reconciled.ofFailure, same]

def gatedRule : RuleSpec where
  name := "internal"
  createdAt := none
  domainName := "corp.example."
  ruleType := .system
  resolverEndpointId := none
  resolverEndpointRef := some "gate"
  targetIps := []
  associations := [⟨"vpc-1"⟩]
  tags := ∅

def late : Failure := .validation "resolver endpoint gate has no id yet"

def gatedHistory : List (Timestamp × Episode Rule) :=
  [(.epoch, .unresolved late),
    (.epoch, .unresolved (.terminal "resolver endpoint gate failed: limit"))]

def ungated : Episode Rule :=
  .pass ruleManager {} { gatedRule with resolverEndpointRef := none } none .epoch
    (World.serve .unbounded) .still

theorem ungated_tells_outcome :
    (let entry := Entry.after ([] ++ [(.epoch, (.unresolved late : Episode Rule))])
     entry.outcome = some (.retry none late.text) ∧ entry.conditions.isTrue .recoverable = true) ∧
    (let entry := Entry.after (gatedHistory ++ [(.epoch, ungated)])
     entry.outcome = some .converged ∧ entry.conditions.isTrue .synced = true ∧
       entry.conditions.isTrue .terminal = false ∧ entry.conditions.isTrue .recoverable = false ∧
       (Summary.ofEntry "ResolverRule" "internal" Rule.id? entry).message = none) ∧
    (∅ : StatusTable).resolve gatedRule = .error late ∧
      (Episode.unresolved late : Episode Rule).result .epoch .empty =
        (PassResult.mk none .none (.failed late)).conclude ruleManager.terminalCodes {} .epoch
          ∅ := by
  refine ⟨?_, ?_, ?_⟩
  · obtain ⟨outcome, -, tell, -⟩ :=
      after_tells_outcome.1 [] .epoch (.unresolved late : Episode Rule)
    exact ⟨by decide +kernel, tell.recoverable (by decide +kernel)⟩
  · obtain ⟨outcome, recorded, tell, line⟩ := after_tells_outcome.1 gatedHistory .epoch ungated
    have converged : outcome = .converged := by
      refine Option.some.inj (recorded.symm.trans ?_)
      decide +kernel
    subst converged
    refine ⟨recorded, tell.synced.2 rfl, ?_, tell.unfailed (by decide +kernel), (line _ _ _).2⟩
    exact Bool.eq_false_iff.2 fun holds => nomatch tell.terminal.1 holds
  · have waits : (∅ : StatusTable).resolve gatedRule = .error late := rfl
    exact ⟨waits, (after_tells_outcome.2 ∅ gatedRule late waits).2 _ {} .epoch⟩

end Entry

end Converge
