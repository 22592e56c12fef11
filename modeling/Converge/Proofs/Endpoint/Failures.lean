import Converge.Proofs.Endpoint.Addresses
import Converge.Proofs.Endpoint.Tracking
import Converge.Proofs.Failures
import Converge.Proofs.Provider.Reachable

/-! What a pass over an endpoint may fail with. It acts on nothing but snapshots from the provider,
which know the id and the ARN of the endpoint and the ids of all addresses that they show. So no
step fails for want of one of these, and the pass fails with what some call has failed with, or for
good. -/
namespace Converge

open Provider Resolver Program

namespace Resolver.Endpoint

structure IsGiven (seen : Endpoint) : Prop where
  named : ∃ id, seen.id? = some id
  located : ∃ arn, seen.status.arn = some arn
  shown : seen.spec.ipAddresses = seen.status.ipAddresses.map Address.toRequest

theorem IsGiven.subnets_eq {seen : Endpoint} (given : seen.IsGiven) :
    seen.spec.ipAddresses.map AddressRequest.subnetId =
      seen.status.ipAddresses.map Address.subnetId := by
  rw [given.shown, List.map_map]
  rfl

variable {σ : Type} {answers : Answers Call Call.Reply σ} {sort : Failure → Prop} {state : σ}
  {desired : EndpointSpec} {seen : Endpoint} {last : Option Endpoint} {token : Token}

theorem always_observe_given : (observe desired last).outcome.Always answers
    (fun reply _ => ∀ result, reply = .ok result → ∀ seen ∈ result, seen.IsGiven) state := by
  unfold observe
  cases last.bind id? with
  | none =>
    intro result same
    cases same
    exact fun seen => nofun
  | some id =>
    refine (always_bind _ _ _ _).2 (.of_forall fun reply _ => ?_)
    cases reply with
    | error failure =>
      refine (always_pure _ _ _).2 fun result same seen there => ?_
      split at same <;> cases same
      cases there
    | ok record =>
      refine Attempt.always_ok_bind fun addresses _ => Attempt.always_ok_bind fun tags _ => ?_
      refine (Attempt.always_outcome_pure _ _ _).2 fun result same seen there => ?_
      cases same
      cases there
      exact ⟨⟨_, rfl⟩, ⟨_, rfl⟩, rfl⟩

theorem terminal_of_checkImmutable {failure : Failure}
    (refused : checkImmutable desired seen = .error failure) :
    ∃ message, failure = .terminal message := by
  unfold checkImmutable at refused
  simp only at refused
  split at refused
  · exact ⟨_, (Except.error.inj refused).symm⟩
  · split at refused
    · exact ⟨_, (Except.error.inj refused).symm⟩
    · cases refused

section Steps

variable (honest : ∀ call, (Provider.ask call).FailsOnly answers sort)

include honest

theorem failsOnly_observe : (observe desired last).FailsOnly answers sort := by
  unfold observe
  split
  · exact Attempt.failsOnly_pure none
  · next id _ =>
    refine fun state => (always_bind _ _ _ _).2 ((honest (.getEndpoint id) state).imp ?_)
    intro reply after fails
    cases reply with
    | error failure =>
      show FailsWith sort (if failure.isNotFound then .ok none else .error failure)
      split
      · exact .ok none
      · exact .error (fails failure rfl)
    | ok record =>
      refine Attempt.FailsOnly.bind (Walk.failsOnly_collectFrom (fun token => honest _) _ _ _)
        (fun addresses => ?_) after
      exact Attempt.FailsOnly.bind ((honest _).bind fun _ => Attempt.failsOnly_pure _)
        fun tags => Attempt.failsOnly_pure _

theorem failsOnly_create : (create desired token).FailsOnly answers sort :=
  (honest _).bind fun _ => Attempt.failsOnly_pure _

theorem failsOnly_syncTags (given : seen.IsGiven) :
    (syncTags desired seen).FailsOnly answers sort := by
  obtain ⟨arn, located⟩ := given.located
  unfold syncTags
  rw [located]
  refine (Attempt.failsOnly_ofExcept (.ok arn)).bind fun arn => ?_
  exact (TagAccess.failsOnly_sync (fun _ => honest _) fun _ => honest _).bind fun _ =>
    Attempt.failsOnly_pure _

theorem failsOnly_update (named : ∃ id, seen.id? = some id) (delta : Delta) :
    (update desired seen delta).FailsOnly answers sort := by
  obtain ⟨id, named⟩ := named
  unfold update
  rw [named]
  refine (Attempt.failsOnly_ofExcept (.ok id)).bind fun id => ?_
  exact (honest _).bind fun _ => Attempt.failsOnly_pure _

theorem always_syncAddresses_fails (given : seen.IsGiven) :
    (syncAddresses desired seen).Always answers
      (fun applied _ => ∀ failure ∈ applied.failure, sort failure) state := by
  obtain ⟨id, named⟩ := given.named
  unfold syncAddresses
  rw [named]
  refine (always_bind _ _ _ _).2 ((Collection.always_sync_of_kept
    (fun progress _ => ∀ failure ∈ progress.failure, sort failure) ?_ ?_ nofun).imp
    fun progress after fails => fails)
  · intro progress request rest state _ holds
    have attempted : ((addresses id seen).attach request).FailsOnly answers sort :=
      (honest _).bind fun _ => Attempt.failsOnly_pure _
    refine (attempted state).imp fun reply after fails => ?_
    cases reply with
    | ok count => exact holds
    | error failure => exact fun other same => Option.some.inj same ▸ fails failure rfl
  · intro progress subnet rest state planned holds
    -- What has to be detached was observed, and is known by the id that came with it.
    obtain ⟨⟨observed, -⟩, -⟩ := of_removed_eq planned
    obtain ⟨address, -, -, known⟩ := ipIdFor?_of_mem (given.subnets_eq ▸ observed)
    have attempted : ((addresses id seen).detach subnet).FailsOnly answers sort := by
      simp only [addresses, known]
      exact (honest _).bind fun _ => Attempt.failsOnly_pure _
    refine (attempted state).imp fun reply after fails => ?_
    cases reply with
    | ok count => exact holds
    | error failure => exact fun other same => Option.some.inj same ▸ fails failure rfl

theorem always_pass_fails (final : ∀ message, sort (.terminal message)) :
    (endpointManager.pass desired token last).Always answers
      (fun result _ => result.FailsWith sort) state := by
  refine (Manager.always_pass token last).2
    (((failsOnly_observe honest state).and always_observe_given).imp ?_)
  rintro reply after ⟨fails, given⟩
  match reply with
  | .error failure => exact .failed (fails failure rfl)
  | .ok none =>
    refine (Manager.always_create last token).2 ((failsOnly_create honest after).imp ?_)
    intro reply after fails
    cases reply with
    | error failure => exact .failed (fails failure rfl)
    | ok created => exact endpointManager.failsWith_finished sort _ _
  | .ok (some seen) =>
    have shown := given _ rfl seen rfl
    refine Manager.always_update_fails IsGiven (fun seen => ∃ id, seen.id? = some id)
      (fun failure refused => ?_) (fun state => ?_) (fun seen delta state given => ?_)
      (fun seen delta named => failsOnly_update honest named delta) (fun seen => IsGiven.named) shown
    · obtain ⟨message, rfl⟩ := terminal_of_checkImmutable refused
      exact final message
    · refine ((failsOnly_syncTags honest shown state).and always_syncTags_rest).imp ?_
      rintro reply after ⟨fails, rest⟩
      refine ⟨fails, fun updated same => ?_⟩
      rw [rest updated same]
      exact ⟨shown.named, shown.located, shown.shown⟩
    · refine ((always_syncAddresses_fails honest given).and always_syncAddresses_named).imp ?_
      rintro applied after ⟨fails, named⟩
      exact ⟨fails, named ▸ given.named⟩

end Steps

theorem ending_ne_validation (world : World) (bounds : Bounds) (desired : EndpointSpec)
    (token : Token) (last : Option Endpoint) (message : String) :
    ((endpointManager.pass desired token last).run (World.serve bounds) world).1.ending ≠
      .failed (.validation message) := by
  let other (failure : Failure) : Prop := ∀ message, failure ≠ .validation message
  have honest : ∀ call,
      (Provider.ask call).FailsOnly (Answered world.site fun _ => other) other := by
    refine fun call registry => always_ask call (fun _ value _ _ => .ok value)
      (fun now failure rejected => ?_) fun failure refused => .error refused
    obtain ⟨code, text, rfl⟩ := registry.coded_perform call failure rejected
    exact .error fun _ => nofun
  have fails : ((endpointManager.pass desired token last).run (World.serve bounds)
      world).1.FailsWith other := by
    refine World.post_run _ (fun _ => other) (fun _ failure cut => ?_)
      (fun fault _ _ _ _ _ _ _ => nofun) (always_pass_fails honest fun _ _ => nofun)
    rcases cut with rfl | rfl <;> exact fun _ => nofun
  exact fun failed => fails _ failed message rfl

end Resolver.Endpoint

end Converge
