import Converge.Proofs.Lockstep
import Converge.Proofs.Passes

/-! Passes side by side. Two passes of one kind over one resource are in step if their steps are: a
pass only ever hands on the snapshots that its steps give it, and decides by what managers say of
them. -/
namespace Converge

open Program

variable {κ Call : Type} {Reply : Call → Type} {D O : Type}

structure Applied.Alike (alike : κ → O → O → Prop) (known : κ) (applied other : Applied O) :
    Prop where
  observed : alike known applied.observed other.observed
  changed : applied.changed = other.changed
  failure : applied.failure = other.failure

/-- Two results that say the same, of snapshots that correspond. Both may have kept the snapshot
that they started from. -/
structure PassResult.Alike (last : Option O) (alike : κ → O → O → Prop) (known : κ)
    (result other : PassResult O) : Prop where
  observed : result.observed = last ∧ other.observed = last ∨
    Option.Rel (alike known) result.observed other.observed
  changes : result.changes = other.changes
  ending : result.ending = other.ending

namespace Conditions

def Alike (conditions other : Conditions) : Prop :=
  List.Forall₂ (fun condition counterpart => condition.kind = counterpart.kind ∧
    condition.status = counterpart.status ∧ condition.message = counterpart.message)
    conditions.entries other.entries

namespace Alike

variable {conditions other : Conditions} (now later : Timestamp)

theorem refl (conditions : Conditions) : conditions.Alike conditions :=
  List.forall₂_same.2 fun _ _ => ⟨rfl, rfl, rfl⟩

theorem set (alike : conditions.Alike other) (kind : ConditionKind) (status : Bool)
    (message : Option String) :
    (conditions.set now kind status message).Alike (other.set later kind status message) := by
  obtain ⟨entries⟩ := conditions
  obtain ⟨others⟩ := other
  simp only [Alike, Conditions.set] at alike ⊢
  induction alike with
  | nil => exact .cons ⟨rfl, rfl, rfl⟩ .nil
  | @cons condition counterpart _ _ head rest ih =>
    unfold write
    rw [head.1]
    split
    · exact .cons ⟨rfl, rfl, rfl⟩ rest
    · exact .cons head ih

theorem isSome_get? (alike : conditions.Alike other) (kind : ConditionKind) :
    (conditions.get? kind).isSome = (other.get? kind).isSome := by
  obtain ⟨entries⟩ := conditions
  obtain ⟨others⟩ := other
  simp only [Alike, get?] at alike ⊢
  induction alike with
  | nil => rfl
  | @cons condition counterpart _ _ head rest ih =>
    simp only [List.find?_cons, head.1]
    split
    · rfl
    · exact ih

theorem clear (alike : conditions.Alike other) (kind : ConditionKind) :
    (conditions.clear now kind).Alike (other.clear later kind) := by
  unfold Conditions.clear
  rw [alike.isSome_get? kind]
  split
  · exact alike.set now later kind false none
  · exact alike

theorem track (alike : conditions.Alike other) (failure : Option (Failure × Severity))
    (synced : Bool) (message : Option String) :
    (conditions.track now failure synced message).Alike
      (other.track later failure synced message) := by
  refine Alike.set now later ?_ .synced synced message
  match failure with
  | some (cause, .terminal) => exact alike.set now later .terminal true (some cause.text)
  | some (cause, .recoverable) =>
    exact (alike.clear now later .terminal).set now later .recoverable true (some cause.text)
  | none => exact (alike.clear now later .terminal).clear now later .recoverable

end Alike

end Conditions

structure Reconciled.Alike (last : Option O) (alike : κ → O → O → Prop) (known : κ)
    (result other : Reconciled O) : Prop where
  observed : result.observed = last ∧ other.observed = last ∨
    Option.Rel (alike known) result.observed other.observed
  conditions : result.conditions.Alike other.conditions
  outcome : result.outcome = other.outcome
  changes : result.changes = other.changes

theorem PassResult.Alike.conclude {last : Option O} {alike : κ → O → O → Prop} {known : κ}
    {result other : PassResult O} (same : result.Alike last alike known other)
    (codes : List String) (delays : PassDelays) (now later : Timestamp) (prior : Conditions) :
    (result.conclude codes delays now prior).Alike last alike known
      (other.conclude codes delays later prior) where
  observed := by
    rw [observed_conclude, observed_conclude]
    exact same.observed
  conditions := by
    unfold PassResult.conclude
    rw [same.ending]
    split <;> exact (Conditions.Alike.refl prior).track now later _ _ _
  outcome := by
    unfold PassResult.conclude
    rw [same.ending]
    split <;> rfl
  changes := by
    rw [changes_conclude, changes_conclude]
    exact same.changes

namespace Manager

variable [Preorder κ] (manager : Manager Call Reply D O) (desired : D)

/-- The steps of a manager are in step. Snapshots of what was there already are told apart from
those that a pass may end with. -/
structure Parallel (pairing : Pairing κ Call Reply) (token : Token) (last : Option O)
    (seen alike : κ → O → O → Prop) : Prop where
  weaken : ∀ known observed other, seen known observed other → alike known observed other
  observe : ∀ known, (manager.observe desired last).outcome.InStep pairing
    (Tied fun later => Option.Rel (seen later)) (manager.observe desired last).outcome known
  create : ∀ known, (manager.create desired token).outcome.InStep pairing (Tied alike)
    (manager.create desired token).outcome known
  afterCreate : ∀ known created other, alike known created other →
    (manager.afterCreate desired created).InStep pairing (Applied.Alike alike)
      (manager.afterCreate desired other) known
  checkImmutable : ∀ known observed other, seen known observed other →
    manager.checkImmutable desired observed = manager.checkImmutable desired other
  delta : ∀ known observed other, seen known observed other →
    manager.delta desired observed = manager.delta desired other
  syncTags : ∀ known observed other, seen known observed other →
    (manager.syncTags desired observed).outcome.InStep pairing
      (fun later reply answer => Tied seen later reply answer ∧ seen later observed other)
      (manager.syncTags desired other).outcome known
  syncCollections : ∀ known observed other delta, seen known observed other →
    (manager.syncCollections desired observed delta).InStep pairing (Applied.Alike seen)
      (manager.syncCollections desired other delta) known
  update : ∀ known observed other delta, seen known observed other →
    (manager.update desired observed delta).outcome.InStep pairing
      (fun later reply answer => Tied alike later reply answer ∧ seen later observed other)
      (manager.update desired other delta).outcome known
  settled : ∀ known observed other, alike known observed other →
    manager.settled observed = manager.settled other

variable {manager desired} in
theorem inStep_step {pairing : Pairing κ Call Reply} {step other : Step O}
    {next : step.Reply → Pass.Stepwise O (PassResult O)}
    {next' : other.Reply → Pass.Stepwise O (PassResult O)}
    {middle : κ → step.Reply → other.Reply → Prop} {post : κ → PassResult O → PassResult O → Prop}
    {known : κ}
    (first : (manager.perform desired step).InStep pairing middle (manager.perform desired other)
      known)
    (rest : ∀ later, known ≤ later → ∀ reply answer, middle later reply answer →
      (manager.part desired (next reply)).InStep pairing post (manager.part desired (next' answer))
        later) :
    (manager.part desired (Pass.step step >>= next)).InStep pairing post
      (manager.part desired (Pass.step other >>= next')) known := by
  rw [part_step, part_step]
  exact first.bind rest

namespace Parallel

variable {manager desired} {pairing : Pairing κ Call Reply} {token : Token} {last : Option O}
  {seen alike : κ → O → O → Prop} {known : κ} {observed other : O}
  (parallel : manager.Parallel desired pairing token last seen alike)

include parallel

theorem finish (holds : alike known observed other) (changes : Changes) :
    (manager.part desired (Pass.finish observed changes)).InStep pairing
      (PassResult.Alike last alike) (manager.part desired (Pass.finish other changes)) known := by
  rw [part_finish, part_finish]
  refine ⟨.inr (.some holds), rfl, ?_⟩
  simp only [Manager.finished, parallel.settled known observed other holds]

theorem passCreate :
    (manager.part desired (Pass.create last token)).InStep pairing (PassResult.Alike last alike)
      (manager.part desired (Pass.create last token)) known := by
  refine inStep_step (parallel.create known) fun later _ reply answer tied => ?_
  match reply, answer, tied with
  | .error failure, .error _, .refl _ => exact ⟨.inl ⟨rfl, rfl⟩, rfl, rfl⟩
  | .ok created, .ok other, holds =>
    refine inStep_step (parallel.afterCreate later created other holds) ?_
    intro final _ applied done given
    simp only
    rw [← given.failure, ← given.changed]
    cases applied.failure with
    | some failure => exact ⟨.inr (.some given.observed), rfl, rfl⟩
    | none => exact parallel.finish given.observed _

theorem updatePrimary (holds : seen known observed other) (paths : List String) (delta : Delta)
    (changes : Changes) :
    (manager.part desired (Pass.updatePrimary paths delta observed changes)).InStep pairing
      (PassResult.Alike last alike)
      (manager.part desired (Pass.updatePrimary paths delta other changes)) known := by
  unfold Pass.updatePrimary
  split
  · refine inStep_step (parallel.update known observed other delta holds) ?_
    intro later _ reply answer ⟨tied, still⟩
    match reply, answer, tied with
    | .error failure, .error _, .refl _ =>
      exact ⟨.inr (.some (parallel.weaken later _ _ still)), rfl, rfl⟩
    | .ok updated, .ok _, alike => exact parallel.finish alike _
  · exact parallel.finish (parallel.weaken known _ _ holds) _

theorem updateCollections (holds : seen known observed other) (paths : List String) (delta : Delta)
    (changes : Changes) :
    (manager.part desired (Pass.updateCollections paths delta observed changes)).InStep pairing
      (PassResult.Alike last alike)
      (manager.part desired (Pass.updateCollections paths delta other changes)) known := by
  unfold Pass.updateCollections
  split
  · refine inStep_step (parallel.syncCollections known observed other delta holds) ?_
    intro later _ applied done given
    simp only
    rw [← given.failure, ← given.changed]
    cases applied.failure with
    | some failure =>
      exact ⟨.inr (.some (parallel.weaken later _ _ given.observed)), rfl, rfl⟩
    | none => exact parallel.updatePrimary given.observed paths delta _
  · exact parallel.updatePrimary holds paths delta changes

theorem updateTags (holds : seen known observed other) (paths : List String) (delta : Delta) :
    (manager.part desired (Pass.updateTags paths delta observed)).InStep pairing
      (PassResult.Alike last alike)
      (manager.part desired (Pass.updateTags paths delta other)) known := by
  unfold Pass.updateTags
  split
  · refine inStep_step (parallel.syncTags known observed other holds) ?_
    intro later _ reply answer ⟨tied, still⟩
    match reply, answer, tied with
    | .error failure, .error _, .refl _ =>
      exact ⟨.inr (.some (parallel.weaken later _ _ still)), rfl, rfl⟩
    | .ok updated, .ok _, next => exact parallel.updateCollections next paths delta _
  · exact parallel.updateCollections holds paths delta _

theorem passUpdate (holds : seen known observed other) (paths : List String) :
    (manager.part desired (Pass.update paths observed)).InStep pairing
      (PassResult.Alike last alike) (manager.part desired (Pass.update paths other)) known := by
  have shown := parallel.weaken known observed other holds
  have checked : (manager.perform desired (.checkImmutable observed)).InStep pairing
      (fun later reply answer => later = known ∧ reply = answer)
      (manager.perform desired (.checkImmutable other)) known :=
    ⟨rfl, parallel.checkImmutable known observed other holds⟩
  refine inStep_step checked ?_
  rintro later _ reply _ ⟨rfl, rfl⟩
  cases reply with
  | error failure => exact ⟨.inr (.some shown), rfl, rfl⟩
  | ok =>
    have compared : (manager.perform desired (.delta observed)).InStep pairing
        (fun final reply answer => final = later ∧ reply = answer)
        (manager.perform desired (.delta other)) later :=
      ⟨rfl, parallel.delta later observed other holds⟩
    refine inStep_step compared ?_
    rintro _ _ delta _ ⟨rfl, rfl⟩
    split
    · exact parallel.finish shown _
    · exact parallel.updateTags holds paths _

theorem pass (known : κ) :
    (manager.pass desired token last).InStep pairing (PassResult.Alike last alike)
      (manager.pass desired token last) known := by
  refine inStep_step (parallel.observe known) fun later _ reply answer tied => ?_
  match reply, answer, tied with
  | .error failure, .error _, .refl _ => exact ⟨.inl ⟨rfl, rfl⟩, rfl, rfl⟩
  | .ok none, .ok none, .none => exact parallel.passCreate
  | .ok (some observed), .ok (some other), .some holds => exact parallel.passUpdate holds _

end Parallel

end Manager

end Converge
