import Converge.Pass
import Converge.Proofs.Replies

/-! Passes as calls to a provider. What a pass is sure to do is what its steps are sure to do one
after the other; each part of a pass has a rule that says so. -/
namespace Converge

namespace Manager

variable {Call : Type} {Reply : Call → Type} {Desired Observed σ : Type}
  {manager : Manager Call Reply Desired Observed} {desired : Desired}
  {answers : Answers Call Reply σ} {post : PassResult Observed → σ → Prop} {state : σ}

/-- The result of a pass that no failure has stopped. -/
def finished (manager : Manager Call Reply Desired Observed) (observed : Observed)
    (changes : Changes) : PassResult Observed where
  observed := some observed
  changes
  ending :=
    if manager.needsRefresh changes then .stale
    else if manager.settled observed then .settled
    else .unsettled

def applied (manager : Manager Call Reply Desired Observed) (applied : Applied Observed)
    (changes : Changes) : PassResult Observed :=
  match applied.failure with
  | some failure => ⟨some applied.observed, changes, .failed failure⟩
  | none => manager.finished applied.observed changes

variable (manager desired) in
/-- A part of a pass as calls to the provider. -/
def part (program : Pass.Stepwise Observed (PassResult Observed)) :
    Program Call Reply (PassResult Observed) :=
  program.expand (manager.perform desired)

theorem part_finish (observed : Observed) (changes : Changes) :
    manager.part desired (Pass.finish observed changes) =
      .done (manager.finished observed changes) := by
  cases refresh : manager.needsRefresh changes <;> cases settled : manager.settled observed
  all_goals
    simp [part, Pass.finish, Pass.step, Program.request, Program.expand, Program.andThen, perform,
      finished, refresh, settled]

theorem part_step (step : Step Observed)
    (next : step.Reply → Pass.Stepwise Observed (PassResult Observed)) :
    manager.part desired (Pass.step step >>= next) =
      (manager.perform desired step >>= fun reply => manager.part desired (next reply)) := by
  rw [part, Program.expand_bind, Pass.step, Program.expand_request]
  rfl

theorem always_step (step : Step Observed)
    (next : step.Reply → Pass.Stepwise Observed (PassResult Observed)) :
    (manager.part desired (Pass.step step >>= next)).Always answers post state ↔
      (manager.perform desired step).Always answers
        (fun reply after => (manager.part desired (next reply)).Always answers post after)
        state := by
  rw [part_step]
  exact Program.always_bind _ _ _ _

theorem always_finish (observed : Observed) (changes : Changes) :
    (manager.part desired (Pass.finish observed changes)).Always answers post state ↔
      post (manager.finished observed changes) state := by
  rw [part_finish]
  exact Iff.rfl

theorem always_create (last : Option Observed) (token : Token) :
    (manager.part desired (Pass.create last token)).Always answers post state ↔
      (manager.create desired token).outcome.Always answers (fun reply after => match reply with
        | .error failure => post ⟨last, .none, .failed failure⟩ after
        | .ok created =>
          (manager.afterCreate desired created).Always answers (fun applied after =>
            post (manager.applied applied
              { Changes.none with created := true, collections := applied.changed }) after)
            after) state := by
  refine (always_step (.create token) _).trans (Program.always_iff fun reply after => ?_)
  cases reply with
  | error failure => exact Iff.rfl
  | ok created =>
    refine (always_step (.afterCreate created) _).trans (Program.always_iff fun applied after => ?_)
    unfold Manager.applied
    cases applied.failure with
    | some failure => exact Iff.rfl
    | none => exact always_finish _ _

theorem always_create_created (last : Option Observed) (token : Token) :
    (manager.part desired (Pass.create last token)).Always answers
      (fun result _ => result.ending = .settled → result.changes.created = true) state := by
  refine (always_create last token).2 (.of_forall fun reply after => ?_)
  cases reply with
  | error failure => exact nofun
  | ok created =>
    refine .of_forall fun applied _ => ?_
    unfold Manager.applied
    cases applied.failure with
    | some failure => exact nofun
    | none => exact fun _ => rfl

variable (paths : List String) (delta : Delta) (observed : Observed) (changes : Changes)

theorem always_updatePrimary :
    (manager.part desired (Pass.updatePrimary paths delta observed changes)).Always answers post
        state ↔
      if delta.differentExcept (tagsPath :: paths) then
        (manager.update desired observed delta).outcome.Always answers
          (fun reply after => match reply with
            | .error failure => post ⟨some observed, changes, .failed failure⟩ after
            | .ok updated => post (manager.finished updated { changes with primary := true }) after)
          state
      else post (manager.finished observed changes) state := by
  unfold Pass.updatePrimary
  split
  · refine (always_step (.update observed delta) _).trans (Program.always_iff fun reply after => ?_)
    cases reply with
    | error failure => exact Iff.rfl
    | ok updated => exact always_finish _ _
  · exact always_finish _ _

theorem always_updateCollections :
    (manager.part desired (Pass.updateCollections paths delta observed changes)).Always answers post
        state ↔
      if paths.any delta.differentAt then
        (manager.syncCollections desired observed delta).Always answers
          (fun applied after =>
            let changes := { changes with collections := applied.changed }
            match applied.failure with
            | some failure => post ⟨some applied.observed, changes, .failed failure⟩ after
            | none =>
              (manager.part desired (Pass.updatePrimary paths delta applied.observed
                changes)).Always answers post after)
          state
      else
        (manager.part desired (Pass.updatePrimary paths delta observed changes)).Always answers post
          state := by
  unfold Pass.updateCollections
  split
  · refine (always_step (.syncCollections observed delta) _).trans
      (Program.always_iff fun applied _ => ?_)
    cases applied.failure <;> exact Iff.rfl
  · exact Iff.rfl

theorem always_updateTags :
    (manager.part desired (Pass.updateTags paths delta observed)).Always answers post state ↔
      if delta.differentAt tagsPath then
        (manager.syncTags desired observed).outcome.Always answers
          (fun reply after => match reply with
            | .error failure => post ⟨some observed, .none, .failed failure⟩ after
            | .ok updated =>
              (manager.part desired (Pass.updateCollections paths delta updated
                { Changes.none with tags := true })).Always answers post after)
          state
      else
        (manager.part desired (Pass.updateCollections paths delta observed .none)).Always answers
          post state := by
  unfold Pass.updateTags
  split
  · refine (always_step (.syncTags observed) _).trans (Program.always_iff fun reply _ => ?_)
    cases reply <;> exact Iff.rfl
  · exact Iff.rfl

theorem always_updateTags_of_synced {updated : Observed} {middle : σ} {stopped : Failure → Prop}
    (synced : (manager.syncTags desired observed).outcome.Always answers
      (fun reply after => match reply with
        | .ok new => new = updated ∧ after = middle
        | .error failure => stopped failure) state)
    (unchanged : delta.differentAt tagsPath = false → observed = updated ∧ state = middle)
    (next : ∀ changed,
      (manager.part desired (Pass.updateCollections paths delta updated
        { Changes.none with tags := changed })).Always answers post middle)
    (halted : ∀ failure (result : PassResult Observed) after, stopped failure →
      result.ending = .failed failure → post result after) :
    (manager.part desired (Pass.updateTags paths delta observed)).Always answers post state := by
  refine (always_updateTags _ _ _).2 ?_
  split
  · refine synced.imp fun reply after given => ?_
    cases reply with
    | error failure => exact halted failure _ _ given rfl
    | ok new =>
      obtain ⟨rfl, rfl⟩ := given
      exact next true
  · next same =>
    obtain ⟨rfl, rfl⟩ := unchanged (Bool.eq_false_iff.2 same)
    exact next false

theorem always_update :
    (manager.part desired (Pass.update paths observed)).Always answers post state ↔
      match manager.checkImmutable desired observed with
      | .error failure => post ⟨some observed, .none, .failed failure⟩ state
      | .ok () =>
        if (manager.delta desired observed).isEmpty then
          post (manager.finished observed .none) state
        else
          (manager.part desired (Pass.updateTags paths (manager.delta desired observed)
            observed)).Always answers post state := by
  refine (always_step (.checkImmutable observed) _).trans ?_
  simp only [perform, Program.always_pure]
  cases manager.checkImmutable desired observed with
  | error failure => exact Iff.rfl
  | ok =>
    refine (always_step (.delta observed) _).trans ?_
    simp only [perform, Program.always_pure]
    split
    · exact always_finish _ _
    · exact Iff.rfl

variable {paths observed} in
theorem always_update_of_kept (kept : Observed → σ → Prop)
    (tags : ∀ seen state, kept seen state → (manager.syncTags desired seen).outcome.Always answers
      (fun reply after => match reply with
        | .error _ => kept seen after
        | .ok updated => kept updated after) state)
    (collections : ∀ seen delta state, kept seen state →
      (manager.syncCollections desired seen delta).Always answers
        (fun applied after => kept applied.observed after) state)
    (halted : ∀ seen changes failure state, kept seen state →
      post ⟨some seen, changes, .failed failure⟩ state)
    (same : (manager.delta desired observed).isEmpty = true →
      post (manager.finished observed .none) state)
    (primary : ∀ seen changes state, kept seen state →
      (manager.part desired (Pass.updatePrimary paths (manager.delta desired observed) seen
        changes)).Always answers post state)
    (start : kept observed state) :
    (manager.part desired (Pass.update paths observed)).Always answers post state := by
  have collected : ∀ seen changes state, kept seen state →
      (manager.part desired (Pass.updateCollections paths (manager.delta desired observed) seen
        changes)).Always answers post state := by
    intro seen changes state start
    refine (always_updateCollections _ _ _ _).2 ?_
    split
    · refine (collections seen _ state start).imp fun applied after holds => ?_
      cases failed : applied.failure with
      | some failure => exact halted _ _ _ _ holds
      | none => exact primary _ _ _ holds
    · exact primary _ _ _ start
  refine (always_update _ _).2 ?_
  split
  · exact halted _ _ _ _ start
  · split
    · next empty => exact same empty
    · refine (always_updateTags _ _ _).2 ?_
      split
      · refine (tags observed state start).imp fun reply after holds => ?_
        cases reply with
        | error failure => exact halted _ _ _ _ holds
        | ok updated => exact collected _ _ _ holds
      · exact collected _ _ _ start

variable {observed} in
/-- What holds up to the sync of collections and what holds from then on. It holds in the end that
the pass has stopped in one or the other of these stages. Tags are synced only if they differ. -/
theorem always_update_of_stages (before after : Observed → Changes → σ → Prop)
    (tags : (manager.delta desired observed).differentAt tagsPath = true →
      (manager.syncTags desired observed).outcome.Always answers
        (fun reply state => match reply with
          | .error _ => after observed .none state
          | .ok updated => before updated { Changes.none with tags := true } state) state)
    (collections : ∀ seen changes delta state, before seen changes state →
      (manager.syncCollections desired seen delta).Always answers
        (fun applied state =>
          after applied.observed { changes with collections := applied.changed } state) state)
    (skips : ∀ seen changes state, before seen changes state → after seen changes state)
    (primary : ∀ seen changes delta state, after seen changes state →
      (manager.update desired seen delta).outcome.Always answers
        (fun reply state => match reply with
          | .error _ => after seen changes state
          | .ok updated => after updated { changes with primary := true } state) state)
    (start : before observed .none state) :
    (manager.part desired (Pass.update paths observed)).Always answers
      (fun result state => ∃ seen, result.observed = some seen ∧ after seen result.changes state)
      state := by
  have patched : ∀ seen changes state, after seen changes state →
      (manager.part desired (Pass.updatePrimary paths (manager.delta desired observed) seen
        changes)).Always answers
        (fun result state => ∃ seen, result.observed = some seen ∧ after seen result.changes state)
        state := by
    intro seen changes state holds
    refine (always_updatePrimary _ _ _ _).2 ?_
    split
    · refine (primary seen changes _ state holds).imp fun reply state holds => ?_
      cases reply with
      | error failure => exact ⟨seen, rfl, holds⟩
      | ok updated => exact ⟨updated, rfl, holds⟩
    · exact ⟨seen, rfl, holds⟩
  have collected : ∀ seen changes state, before seen changes state →
      (manager.part desired (Pass.updateCollections paths (manager.delta desired observed) seen
        changes)).Always answers
        (fun result state => ∃ seen, result.observed = some seen ∧ after seen result.changes state)
        state := by
    intro seen changes state holds
    refine (always_updateCollections _ _ _ _).2 ?_
    split
    · refine (collections seen changes _ state holds).imp fun applied state holds => ?_
      cases applied.failure with
      | some failure => exact ⟨applied.observed, rfl, holds⟩
      | none => exact patched _ _ _ holds
    · exact patched _ _ _ (skips _ _ _ holds)
  refine (always_update _ _).2 ?_
  split
  · exact ⟨observed, rfl, skips _ _ _ start⟩
  · split
    · exact ⟨observed, rfl, skips _ _ _ start⟩
    · refine (always_updateTags _ _ _).2 ?_
      split
      · next differ =>
        refine (tags differ).imp fun reply state holds => ?_
        cases reply with
        | error failure => exact ⟨observed, rfl, holds⟩
        | ok updated => exact collected _ _ _ holds
      · exact collected _ _ _ start

variable {observed} in
theorem always_update_of_tracked (kept : Observed → Changes → σ → Prop)
    (tags : (manager.syncTags desired observed).outcome.Always answers
      (fun reply after => match reply with
        | .error _ => kept observed .none after
        | .ok updated => kept updated { Changes.none with tags := true } after) state)
    (collections : ∀ seen changes delta state, changes.collections = false →
      kept seen changes state → (manager.syncCollections desired seen delta).Always answers
        (fun applied after =>
          kept applied.observed { changes with collections := applied.changed } after) state)
    (primary : ∀ seen changes delta state, kept seen changes state →
      (manager.update desired seen delta).outcome.Always answers
        (fun reply after => match reply with
          | .error _ => kept seen changes after
          | .ok updated => kept updated { changes with primary := true } after) state)
    (start : kept observed .none state) :
    (manager.part desired (Pass.update paths observed)).Always answers
      (fun result after => ∃ seen, result.observed = some seen ∧ kept seen result.changes after)
      state := by
  refine always_update_of_stages paths (fun seen changes state => changes.collections = false ∧
    kept seen changes state) kept ?_ ?_ ?_ primary ⟨rfl, start⟩
  · refine fun _ => tags.imp fun reply after holds => ?_
    cases reply with
    | error failure => exact holds
    | ok updated => exact ⟨rfl, holds⟩
  · exact fun seen changes delta state holds =>
      collections seen changes delta state holds.1 holds.2
  · exact fun seen changes state holds => holds.2

theorem always_pass (token : Token) (last : Option Observed) :
    (manager.pass desired token last).Always answers post state ↔
      (manager.observe desired last).outcome.Always answers
        (fun reply after => match reply with
          | .error failure => post ⟨last, .none, .failed failure⟩ after
          | .ok none => (manager.part desired (Pass.create last token)).Always answers post after
          | .ok (some observed) =>
            (manager.part desired (Pass.update manager.collectionPaths observed)).Always answers
              post after)
        state := by
  refine (always_step (.observe last) _).trans (Program.always_iff fun reply _ => ?_)
  match reply with
  | .error failure => exact Iff.rfl
  | .ok none => exact Iff.rfl
  | .ok (some observed) => exact Iff.rfl

end Manager

end Converge
