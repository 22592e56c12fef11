import Converge.Proofs.Endpoint.Passes

/-! What a pass over an endpoint is worth that has settled. The registry then holds what is desired,
unless the endpoint was not made by the pass but answered for by a token that was known before. -/
namespace Converge.Resolver.Endpoint

open Converge.Provider

variable {site : Site} {refusal : Call → Failure → Prop} {registry : Registry} {id : String}
  {stored : StoredEndpoint} {tags : Tags} {desired : EndpointSpec} {last : Option Endpoint}
  {token : Token}

def Holds (desired : EndpointSpec) (registry : Registry) (id : String) : Prop :=
  ∃ kept ∈ found desired registry id, endpointManager.Accepts desired kept

instance (registry : Registry) (id : String) : Decidable (Holds desired registry id) :=
  inferInstanceAs (Decidable (∃ kept ∈ _, _))

theorem holds_of_stored (stored : StoredEndpoint) (held : registry.endpoints.get? id = some stored)
    (tagged : registry.tags.get? stored.record.arn = some desired.tags)
    (direction : desired.direction = stored.record.direction)
    (groups : ∀ group,
      group ∈ desired.securityGroupIds ↔ group ∈ stored.record.securityGroupIds)
    (subnets : ∀ subnet, subnet ∈ desired.subnets ↔ subnet ∈ stored.subnets)
    (name : stored.record.name = desired.name)
    (kind : ∀ wanted ∈ desired.endpointType, stored.record.endpointType = wanted) :
    Holds desired registry id := by
  refine ⟨ofStored desired stored desired.tags, found_eq desired held tagged, ?_, ?_⟩
  · exact (checkImmutable_eq_ok_iff _ _).2 ⟨direction, groups⟩
  · refine (isEmpty_delta_iff _ _).2 ⟨rfl, subnetsAgree_ofStored_iff.2 subnets, name.symm, ?_⟩
    exact fun wanted asked => congrArg some (kind wanted asked)

def Kept (desired : EndpointSpec) (registry : Registry) (observed : Option Endpoint) : Prop :=
  ∃ id, observed.bind id? = some id ∧ Holds desired registry id

theorem Kept.confirms {world : World} {observed : Option Endpoint}
    (kept : Kept desired world.registry observed) (reached : world.Reachable)
    (room : world.registry.HasRoom 0) : endpointManager.Confirms desired observed world := by
  obtain ⟨valid, sized⟩ := reached.valid
  obtain ⟨id, named, seen, there, accepts⟩ := kept
  refine Manager.confirms_of_always (always_observe valid sized room.serial_le desired observed) ?_
    accepts
  rw [named]
  exact there

/-- What a token stands for, if it is known, is as desired. -/
def TokenHolds (desired : EndpointSpec) (registry : Registry) (token : Token) : Prop :=
  ∀ entry, registry.endpointTokens.get? token.text = some entry → Holds desired registry entry.id

theorem always_update_kept (valid : registry.Valid site)
    (held : registry.endpoints.get? id = some stored)
    (tagged : registry.tags.get? stored.record.arn = some tags) :
    (endpointManager.part desired (Pass.update [addressesPath] (ofStored desired stored
      tags))).Always (Answered site refusal)
      (fun result after => result.ending = .settled → Kept desired after result.observed)
      registry := by
  by_cases agree : SubnetsAgree desired (ofStored desired stored tags)
  · cases immutable : checkImmutable desired (ofStored desired stored tags) with
    | error failure =>
      refine (Manager.always_update _ _).2 ?_
      rw [show endpointManager.checkImmutable desired _ = .error failure from immutable]
      exact nofun
    | ok =>
      obtain ⟨direction, groups⟩ := (checkImmutable_eq_ok_iff _ _).1 immutable
      refine (always_update_of_agree valid held tagged immutable agree).imp ?_
      rintro result after (⟨failure, -, failed⟩ |
        ⟨named, -, retagged, new, kept, patched, addresses⟩) settled
      · cases failed.symm.trans settled
      · refine ⟨id, named, holds_of_stored new kept (patched.arn ▸ retagged)
          (direction.trans patched.direction.symm) (patched.groups ▸ groups) ?_ patched.name
          patched.endpointType⟩
        rw [StoredEndpoint.subnets, addresses]
        exact subnetsAgree_ofStored_iff.1 agree
  · exact (always_update_of_differ tagged agree).imp fun result after unsettled settled =>
      absurd settled unsettled

def sentRequest (desired : EndpointSpec) (token : Token) : EndpointRequest where
  creatorRequestId := token.text
  name := desired.name
  direction := desired.direction
  endpointType := desired.endpointType
  securityGroupIds := desired.securityGroupIds
  ipAddresses := desired.ipAddresses
  tags := desired.tags.toTags

theorem holds_newEndpoint (now : Timestamp) :
    let (stored, after) := registry.newEndpoint site now (sentRequest desired token)
    Holds desired (after.addEndpoint stored (Tags.ofTags desired.tags.toTags))
      stored.record.id := by
  have meets := Registry.newEndpoint_meets site now registry (sentRequest desired token)
  refine holds_of_stored (registry.newEndpoint site now (sentRequest desired token)).1
    ((NameMap.get?_insert _ _ _ _).trans (if_pos rfl)) ?_ meets.direction.symm (fun group => ?_)
    (fun subnet => ?_) meets.name fun wanted asked => ?_
  · refine (NameMap.get?_insert _ _ _ _).trans ((if_pos rfl).trans ?_)
    exact congrArg some (Tags.ofTags_toTags desired.tags)
  · rw [meets.groups]
    exact Iff.rfl
  · rw [StoredEndpoint.subnets, meets.subnets]
    exact Iff.rfl
  · rw [meets.endpointType]
    exact congrArg (Option.getD · .ipv4) (Option.mem_def.1 asked)

theorem always_create_kept (valid : registry.Valid site)
    (fits : TokenHolds desired registry token) :
    (create desired token).outcome.Always (Answered site refusal) (fun reply after =>
      match reply with
      | .error _ => True
      | .ok created => Kept desired after (some created)) registry := by
  refine (Attempt.always_outcome_bind _ _ _ _).2 (always_ask
    (.createEndpoint (sentRequest desired token)) (fun now value after done => ?_)
    (fun now failure _ => trivial) fun failure _ => trivial)
  refine (Attempt.always_outcome_pure _ _ _).2 ⟨value.id, rfl, ?_⟩
  cases known : registry.endpointTokens.get? token.text with
  | none =>
    obtain ⟨-, -, rfl, rfl⟩ := (Registry.createEndpoint_of_unknown known).1 done
    exact holds_newEndpoint now
  | some entry =>
    obtain ⟨-, rfl, stored, held, rfl⟩ := (Registry.createEndpoint_of_known known).1 done
    rw [(valid.endpoint entry.id stored held).keyed]
    exact fits entry known

/-- A pass only settles with what is desired, if it has not created the endpoint under a token that
stands for something else. -/
theorem always_pass_kept (valid : registry.Valid site) (sized : 0 < site.pageSize)
    (room : registry.serial ≤ Walk.pageLimit) :
    (endpointManager.pass desired token last).Always (Answered site refusal)
      (fun result after => result.ending = .settled →
        (result.changes.created = true → TokenHolds desired registry token) →
        Kept desired after result.observed) registry := by
  refine Manager.always_pass_of_steps endpointManager desired (TokenHolds desired registry token)
    (Refused refusal) (fun observed after => Kept desired after observed)
    (always_observe valid sized room desired last) ?_ ?_
  · intro observed finds
    obtain ⟨id, -, there⟩ := Option.bind_eq_some_iff.1 finds
    obtain ⟨stored, tags, held, tagged, rfl⟩ := held_of_found there
    exact always_update_kept valid held tagged
  · intro fits
    refine (always_create_kept valid fits).imp fun reply after kept => ?_
    cases reply with
    | error failure => trivial
    | ok created => exact fun _ => kept

end Converge.Resolver.Endpoint
