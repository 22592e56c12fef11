import Converge.Proofs.Provider.Transcripts
import Converge.Proofs.Registry.Rejections

/-! What may go wrong. A step fails with what a call of its own has failed with, or because it could
not be taken at all; a pass fails with what one of its steps has failed with. -/
namespace Converge

open Program

section Attempts

variable {Call : Type} {Reply : Call → Type} {σ α β : Type} {answers : Answers Call Reply σ}
  {sort : Failure → Prop}

def Attempt.FailsOnly (answers : Answers Call Reply σ) (sort : Failure → Prop)
    (attempt : Attempt Call Reply α) : Prop :=
  ∀ state, attempt.outcome.Always answers (fun reply _ => FailsWith sort reply) state

namespace Attempt

theorem failsOnly_pure (value : α) :
    (pure value : Attempt Call Reply α).FailsOnly answers sort := fun _ => .ok value

theorem failsOnly_ofExcept {result : Except Failure α} (fails : FailsWith sort result) :
    (ofExcept result : Attempt Call Reply α).FailsOnly answers sort := fun _ => fails

theorem FailsOnly.bind {attempt : Attempt Call Reply α} {next : α → Attempt Call Reply β}
    (first : attempt.FailsOnly answers sort) (rest : ∀ value, (next value).FailsOnly answers sort) :
    (attempt >>= next).FailsOnly answers sort := by
  intro state
  refine (always_outcome_bind _ _ _ _).2 ((first state).imp fun reply after fails => ?_)
  cases reply with
  | error failure => exact .error (fails failure rfl)
  | ok value => exact rest value after

end Attempt

theorem Walk.failsOnly_collectFrom {source : PageSource Call Reply α}
    (fetches : ∀ token, (source token).FailsOnly answers sort) (count : Nat) (walk : Walk)
    (found : List α) : (collectFrom source count walk found).FailsOnly answers sort := by
  -- The induction is on the pages that may still be fetched.
  induction count generalizing walk found with
  | zero => exact Attempt.failsOnly_pure found
  | succ count ih =>
    intro state
    refine (always_bind _ _ _ _).2 ?_
    unfold next
    split
    · exact .ok found
    · refine (always_bind _ _ _ _).2 ((fetches walk.token state).imp fun reply after fails => ?_)
      cases reply with
      | error failure => exact .error (fails failure rfl)
      | ok page => exact ih _ _ after

theorem TagAccess.failsOnly_sync {access : TagAccess Call Reply} {arn : String}
    {desired observed : Tags} (tags : ∀ added, (access.tag arn added).FailsOnly answers sort)
    (untags : ∀ removed, (access.untag arn removed).FailsOnly answers sort) :
    (access.sync arn desired observed).FailsOnly answers sort := by
  have removes : Attempt.FailsOnly answers sort (do
      if !(tagDiff desired observed).removed.isEmpty then
        access.untag arn (tagDiff desired observed).removed
      pure (tagDiff desired observed)) := by
    split
    · exact (untags _).bind fun _ => Attempt.failsOnly_pure _
    · exact Attempt.failsOnly_pure _
  unfold sync
  simp only
  split
  · exact (tags _).bind fun _ => removes
  · exact removes

end Attempts

def PassResult.FailsWith {O : Type} (sort : Failure → Prop) (result : PassResult O) : Prop :=
  ∀ failure, result.ending = .failed failure → sort failure

theorem PassResult.FailsWith.failed {O : Type} {sort : Failure → Prop} {failure : Failure}
    {observed : Option O} {changes : Changes} (sorted : sort failure) :
    FailsWith sort ⟨observed, changes, .failed failure⟩ :=
  fun _ same => PassEnding.failed.inj same ▸ sorted

theorem Manager.failsWith_finished {Call D O : Type} {Reply : Call → Type}
    (manager : Manager Call Reply D O) (sort : Failure → Prop) (observed : O) (changes : Changes) :
    (manager.finished observed changes).FailsWith sort := by
  intro failure same
  unfold finished at same
  simp only at same
  split at same
  · cases same
  · split at same <;> cases same

section Updates

variable {Call D O σ : Type} {Reply : Call → Type} {answers : Answers Call Reply σ}
  {sort : Failure → Prop} {manager : Manager Call Reply D O} {desired : D} {paths : List String}
  {delta : Delta} {observed : O} {changes : Changes} {state : σ} (before after : O → Prop)

namespace Manager

theorem always_updatePrimary_fails
    (updates : ∀ seen delta, after seen →
      (manager.update desired seen delta).FailsOnly answers sort)
    (start : after observed) :
    (manager.part desired (Pass.updatePrimary paths delta observed changes)).Always answers
      (fun result _ => result.FailsWith sort) state := by
  refine (always_updatePrimary _ _ _ _).2 ?_
  split
  · refine (updates observed delta start state).imp fun reply state fails => ?_
    cases reply with
    | error failure => exact .failed (fails failure rfl)
    | ok updated => exact manager.failsWith_finished sort _ _
  · exact manager.failsWith_finished sort _ _

theorem always_updateCollections_fails
    (collections : ∀ seen delta state, before seen →
      (manager.syncCollections desired seen delta).Always answers
        (fun applied _ => (∀ failure ∈ applied.failure, sort failure) ∧ after applied.observed)
        state)
    (updates : ∀ seen delta, after seen →
      (manager.update desired seen delta).FailsOnly answers sort)
    (skips : ∀ seen, before seen → after seen) (start : before observed) :
    (manager.part desired (Pass.updateCollections paths delta observed changes)).Always answers
      (fun result _ => result.FailsWith sort) state := by
  refine (always_updateCollections _ _ _ _).2 ?_
  split
  · refine (collections observed delta state start).imp ?_
    rintro applied state ⟨fails, holds⟩
    simp only
    split
    · next failure stopped => exact .failed (fails failure stopped)
    · exact always_updatePrimary_fails after updates holds
  · exact always_updatePrimary_fails after updates (skips _ start)

theorem always_update_fails
    (allows : ∀ failure, manager.checkImmutable desired observed = .error failure → sort failure)
    (tags : ∀ state, (manager.syncTags desired observed).outcome.Always answers
      (fun reply _ => FailsWith sort reply ∧ ∀ updated, reply = .ok updated → before updated) state)
    (collections : ∀ seen delta state, before seen →
      (manager.syncCollections desired seen delta).Always answers
        (fun applied _ => (∀ failure ∈ applied.failure, sort failure) ∧ after applied.observed)
        state)
    (updates : ∀ seen delta, after seen →
      (manager.update desired seen delta).FailsOnly answers sort)
    (skips : ∀ seen, before seen → after seen) (start : before observed) :
    (manager.part desired (Pass.update paths observed)).Always answers
      (fun result _ => result.FailsWith sort) state := by
  refine (always_update _ _).2 ?_
  split
  · next failure refused => exact .failed (allows failure refused)
  · split
    · exact manager.failsWith_finished sort _ _
    · refine (always_updateTags _ _ _).2 ?_
      split
      · refine (tags state).imp ?_
        rintro reply state ⟨fails, holds⟩
        cases reply with
        | error failure => exact .failed (fails failure rfl)
        | ok updated =>
          exact always_updateCollections_fails before after collections updates skips
            (holds _ rfl)
      · exact always_updateCollections_fails before after collections updates skips start

end Manager

end Updates

namespace Provider

/-- No call fails. -/
def granted : Answers Call Call.Reply Unit := fun _ _ reply _ => ∃ value, reply = .ok value

theorem failsOnly_granted (call : Call) (sort : Failure → Prop) :
    (ask call).FailsOnly granted sort := by
  rintro state reply after ⟨value, rfl⟩
  exact .ok value

theorem post_run_of_faultless {α σ : Type} {serve : (call : Call) → σ → call.Reply × σ}
    {program : Program Call Call.Reply α} {state : σ} {post : α → Prop}
    (always : program.Always granted (fun value _ => post value) ())
    (fine : Faultless (program.transcript serve state)) : post (program.run serve state).1 := by
  -- The induction is on the program.
  induction program generalizing state with
  | done value => exact always
  | ask call next ih =>
    obtain ⟨first, rest⟩ := List.forall_mem_cons.1 fine
    exact ih _ (always _ () first) rest

end Provider

end Converge
