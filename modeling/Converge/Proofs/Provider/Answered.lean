import Converge.Proofs.Listing
import Converge.Proofs.Registry.Growth

/-! How a provider may answer a call: it carries the call out, or rejects it, or the call never
takes effect. What the provider is and how it is asked say which calls may be refused in the last
way, and for which reasons. -/
namespace Converge.Provider

open Converge.Resolver

/-- The answers that a registry may give to a call, at whatever time. -/
inductive Answered (site : Site) (refusal : Call → Failure → Prop) (call : Call)
    (registry : Registry) : call.Reply → Registry → Prop where
  | done (now : Timestamp) {value : call.Value} {after : Registry}
      (done : registry.perform site now call = .ok (value, after)) :
      Answered site refusal call registry (.ok value) after
  | rejected (now : Timestamp) {failure : Failure}
      (rejected : registry.perform site now call = .error failure) :
      Answered site refusal call registry (.error failure) registry
  | refused {failure : Failure} (refused : refusal call failure) :
      Answered site refusal call registry (.error failure) registry

def anyRefusal (_ : Call) (_ : Failure) : Prop := True

def noRefusal (_ : Call) (_ : Failure) : Prop := False

def Refused (refusal : Call → Failure → Prop) (failure : Failure) : Prop :=
  ∃ call, refusal call failure

theorem not_refused (failure : Failure) : ¬Refused noRefusal failure := fun ⟨_, never⟩ => never

namespace Answered

variable {site : Site} {refusal : Call → Failure → Prop} {call : Call}
  {registry after : Registry} {reply : call.Reply}

theorem valid (answered : Answered site refusal call registry reply after)
    (valid : registry.Valid site) : after.Valid site ∧ registry.serial ≤ after.serial := by
  cases answered with
  | done now done => exact Registry.perform_valid valid now call done
  | rejected | refused => exact ⟨valid, Nat.le_refl _⟩

theorem growth (answered : Answered site refusal call registry reply after)
    (valid : registry.Valid site)
    (keeps : call.operation ≠ .deleteEndpoint ∧ call.operation ≠ .deleteRule) :
    Registry.Growth site registry after := by
  cases answered with
  | done now done => exact Registry.perform_growth valid keeps done
  | rejected | refused => exact .same

end Answered

section Asking

variable {site : Site} {refusal : Call → Failure → Prop} {registry : Registry}

theorem always_ask (call : Call) {post : call.Reply → Registry → Prop}
    (done : ∀ now value after, registry.perform site now call = .ok (value, after) →
      post (.ok value) after)
    (rejected : ∀ now failure, registry.perform site now call = .error failure →
      post (.error failure) registry)
    (refused : ∀ failure, refusal call failure → post (.error failure) registry) :
    (ask call).outcome.Always (Answered site refusal) post registry := by
  refine (Program.always_request call post registry).2 ?_
  intro reply after answered
  cases answered with
  | done now performed => exact done now _ _ performed
  | rejected now failed => exact rejected now _ failed
  | refused why => exact refused _ why

theorem always_succeed (call : Call) {post : call.Reply → Registry → Prop}
    (succeeds : ∀ now, ∃ value after,
      registry.perform site now call = .ok (value, after) ∧ post (.ok value) after)
    (refused : ∀ failure, refusal call failure → post (.error failure) registry) :
    (ask call).outcome.Always (Answered site refusal) post registry := by
  refine always_ask call (fun now value after done => ?_) (fun now failure rejected => ?_) refused
  · obtain ⟨found, left, same, holds⟩ := succeeds now
    cases same.symm.trans done
    exact holds
  · obtain ⟨found, left, same, -⟩ := succeeds now
    cases same.symm.trans rejected

theorem always_look (call : Call) (found : Except Failure call.Value)
    {post : call.Reply → Registry → Prop}
    (looks : ∀ now, registry.perform site now call = registry.look found)
    (answered : post found registry)
    (refused : ∀ failure, refusal call failure → post (.error failure) registry) :
    (ask call).outcome.Always (Answered site refusal) post registry := by
  refine always_ask call (fun now value after done => ?_) (fun now failure rejected => ?_) refused
  · obtain ⟨rfl, rfl⟩ := Registry.look_eq_ok_iff.1 ((looks now).symm.trans done)
    exact answered
  · rw [looks now] at rejected
    cases found with
    | ok value => cases rejected
    | error cause =>
      cases rejected
      exact answered

end Asking

theorem lookup_ne_some {O : Type} (failure : Failure) (seen : O) :
    (if failure.isNotFound then .ok none else .error failure : Except Failure (Option O)) ≠
      .ok (some seen) := by
  split <;> exact nofun

end Converge.Provider
