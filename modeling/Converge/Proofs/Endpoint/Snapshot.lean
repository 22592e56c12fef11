import Converge.Proofs.Differences
import Converge.Proofs.Provider.TagCalls
import Converge.Resolver.EndpointManager

/-! Snapshots of endpoints. What an observation finds is a function of the registry alone, and how
a snapshot differs from what is desired is said field by field. -/
namespace Converge

open Provider Resolver

def Resolver.EndpointSpec.subnets (desired : EndpointSpec) : List String :=
  desired.ipAddresses.map AddressRequest.subnetId

def Provider.StoredEndpoint.subnets (stored : StoredEndpoint) : List String :=
  stored.addresses.map Address.subnetId

namespace Resolver.Endpoint

section Agreement

variable (desired : EndpointSpec) (observed : Endpoint)

/-- The same subnets have addresses, however many. -/
def SubnetsAgree : Prop :=
  ∀ subnet, subnet ∈ desired.subnets ↔
    subnet ∈ observed.spec.ipAddresses.map AddressRequest.subnetId

/-- The record itself is as desired. The type may be left open. -/
def RecordAgrees : Prop :=
  desired.name = observed.spec.name ∧
    ∀ kind ∈ desired.endpointType, observed.spec.endpointType = some kind

theorem checkImmutable_eq_ok_iff :
    checkImmutable desired observed = .ok () ↔
      desired.direction = observed.spec.direction ∧
      ∀ group, group ∈ desired.securityGroupIds ↔ group ∈ observed.spec.securityGroupIds := by
  have groups := Delta.unordered_eq_false_iff desired.securityGroupIds
    observed.spec.securityGroupIds
  unfold checkImmutable
  simp only [Delta.compareUnordered, Delta.isEmpty_record, Delta.isEmpty_empty, Bool.true_and,
    Bool.not_not] at groups ⊢
  split
  · next apart => simp [apart]
  · next same =>
    split
    · next differs =>
      refine iff_of_false nofun fun both => ?_
      rw [groups.2 both.2] at differs
      cases differs
    · next agrees =>
      exact iff_of_true rfl ⟨Classical.not_not.1 same, groups.1 (Bool.eq_false_iff.2 agrees)⟩

theorem differentAt_tags :
    (delta desired observed).differentAt tagsPath = false ↔ desired.tags = observed.spec.tags := by
  have covered : covers tagsPath addressesPath = false ∧ covers tagsPath namePath = false ∧
      covers tagsPath endpointTypePath = false := by decide
  simp [delta, Delta.compare, Delta.compareKeys, Delta.compareUnordered, Delta.compareIfSet,
    covered]

theorem differentAt_addresses :
    [addressesPath].any (delta desired observed).differentAt = false ↔
      SubnetsAgree desired observed := by
  have covered : covers addressesPath tagsPath = false ∧ covers addressesPath namePath = false ∧
      covers addressesPath endpointTypePath = false := by decide
  simp only [List.any_cons, List.any_nil, Bool.or_false, delta, Delta.compare, Delta.compareKeys,
    Delta.compareUnordered, Delta.compareIfSet, Delta.differentAt_record, Delta.differentAt_empty,
    covered, covers_self, Bool.and_false, Bool.and_true, Bool.false_or]
  exact Delta.unordered_eq_false_iff _ _

theorem differentAt_name :
    (delta desired observed).differentAt namePath = decide (desired.name ≠ observed.spec.name) := by
  have covered : covers namePath tagsPath = false ∧ covers namePath addressesPath = false ∧
      covers namePath endpointTypePath = false := by decide
  simp [delta, Delta.compare, Delta.compareKeys, Delta.compareUnordered, Delta.compareIfSet,
    covered]

theorem differentAt_endpointType :
    (delta desired observed).differentAt endpointTypePath = false ↔
      ∀ kind ∈ desired.endpointType, observed.spec.endpointType = some kind := by
  have covered : covers endpointTypePath tagsPath = false ∧
      covers endpointTypePath addressesPath = false ∧ covers endpointTypePath namePath = false := by
    decide
  simp only [delta, Delta.compare, Delta.compareKeys, Delta.compareUnordered, Delta.compareIfSet,
    Delta.differentAt_record, Delta.differentAt_empty, covered, covers_self, Bool.and_false,
    Bool.and_true, Bool.false_or]
  exact Delta.ifSet_eq_false_iff _ _

theorem differentExcept_eq_false_iff :
    (delta desired observed).differentExcept [tagsPath, addressesPath] = false ↔
      RecordAgrees desired observed := by
  have covered : covers tagsPath namePath = false ∧ covers addressesPath namePath = false ∧
      covers tagsPath endpointTypePath = false ∧ covers addressesPath endpointTypePath = false := by
    decide
  simp only [delta, Delta.compare, Delta.compareKeys, Delta.compareUnordered, Delta.compareIfSet,
    Delta.differentExcept_record, Delta.differentExcept_empty, covered, covers_self,
    List.any_cons, List.any_nil, Bool.or_false, Bool.or_true, Bool.not_true, Bool.not_false,
    Bool.true_or, Bool.and_false, Bool.and_true, Bool.false_or, Bool.or_eq_false_iff]
  exact and_congr (by simp) (Delta.ifSet_eq_false_iff _ _)

theorem isEmpty_delta_iff :
    (delta desired observed).isEmpty = true ↔
      desired.tags = observed.spec.tags ∧ SubnetsAgree desired observed ∧
        RecordAgrees desired observed := by
  have subnets := Delta.unordered_eq_false_iff (desired.ipAddresses.map AddressRequest.subnetId)
    (observed.spec.ipAddresses.map AddressRequest.subnetId)
  have kinds := Delta.ifSet_eq_false_iff desired.endpointType observed.spec.endpointType
  simp only [delta, Delta.compare, Delta.compareKeys, Delta.compareUnordered, Delta.compareIfSet,
    Delta.isEmpty_record, Delta.isEmpty_empty, Bool.true_and, Bool.and_eq_true,
    Bool.not_eq_true'] at subnets kinds ⊢
  rw [subnets, kinds]
  simp only [decide_eq_false_iff_not, ne_eq, Classical.not_not, and_assoc]
  rfl

end Agreement

section Observation

variable {site : Site} {refusal : Call → Failure → Prop} {registry : Registry}

def ofStored (desired : EndpointSpec) (stored : StoredEndpoint) (tags : Tags) : Endpoint where
  spec :=
    { name := stored.record.name
      createdAt := desired.createdAt
      direction := stored.record.direction
      endpointType := some stored.record.endpointType
      securityGroupIds := stored.record.securityGroupIds
      ipAddresses := stored.addresses.map Address.toRequest
      tags }
  status := statusOf stored.record stored.addresses

theorem map_subnetId_toRequest (stored : StoredEndpoint) :
    (stored.addresses.map Address.toRequest).map AddressRequest.subnetId = stored.subnets := by
  rw [StoredEndpoint.subnets, List.map_map]
  rfl

theorem map_subnetId_ofStored (desired : EndpointSpec) (stored : StoredEndpoint) (tags : Tags) :
    (ofStored desired stored tags).spec.ipAddresses.map AddressRequest.subnetId =
      stored.subnets := map_subnetId_toRequest stored

theorem subnetsAgree_ofStored_iff {desired : EndpointSpec} {stored : StoredEndpoint} {tags : Tags} :
    SubnetsAgree desired (ofStored desired stored tags) ↔
      ∀ subnet, subnet ∈ desired.subnets ↔ subnet ∈ stored.subnets := by
  rw [SubnetsAgree, map_subnetId_ofStored]

def found (desired : EndpointSpec) (registry : Registry) (id : String) : Option Endpoint := do
  let stored ← registry.endpoints.get? id
  let tags ← registry.tags.get? stored.record.arn
  pure (ofStored desired stored tags)

theorem found_eq (desired : EndpointSpec) {id : String} {stored : StoredEndpoint} {tags : Tags}
    (held : registry.endpoints.get? id = some stored)
    (tagged : registry.tags.get? stored.record.arn = some tags) :
    found desired registry id = some (ofStored desired stored tags) := by
  simp [found, held, tagged]

theorem held_of_found {desired : EndpointSpec} {id : String} {observed : Endpoint}
    (same : found desired registry id = some observed) :
    ∃ stored tags, registry.endpoints.get? id = some stored ∧
      registry.tags.get? stored.record.arn = some tags ∧
      observed = ofStored desired stored tags := by
  simp only [found, Option.bind_eq_bind, Option.bind_eq_some_iff] at same
  obtain ⟨stored, held, tags, tagged, same⟩ := same
  exact ⟨stored, tags, held, tagged, (Option.some.inj same).symm⟩

theorem always_listAddresses {id : String} {stored : StoredEndpoint}
    (held : registry.endpoints.get? id = some stored) (token : Option String) :
    (ask (.listAddresses id token)).outcome.Always (Answered site refusal) (fun reply after =>
      after = registry ∧ (reply = paginate site.pageSize stored.addresses token ∨
        ∃ failure, reply = .error failure ∧ Refused refusal failure)) registry := by
  have known : registry.endpoint id = .ok stored := Registry.endpoint_eq_ok_iff.2 held
  refine always_look (.listAddresses id token) _ (fun now => ?_) ⟨rfl, .inl rfl⟩
    fun failure refused => ⟨rfl, .inr ⟨failure, rfl, _, refused⟩⟩
  simp only [Registry.perform, known]
  rfl

/-- An observation that is not refused finds what there is. One that is refused may take the
endpoint for missing. -/
theorem always_observeId (valid : registry.Valid site) (sized : 0 < site.pageSize)
    (room : registry.serial ≤ Walk.pageLimit) (desired : EndpointSpec) (id : String) :
    (observeId desired id).outcome.Always (Answered site refusal) (fun reply after =>
      after = registry ∧ (reply = .ok (found desired registry id) ∨
        ∃ failure, Refused refusal failure ∧ (reply = .ok none ∨ reply = .error failure)))
      registry := by
  refine (Program.always_bind _ _ _ _).2 (always_look (.getEndpoint id)
    ((registry.endpoint id).map StoredEndpoint.record) (fun now => rfl) ?_ ?_)
  · cases held : registry.endpoints.get? id with
    | none =>
      have missing : registry.endpoint id = .error (missingEndpoint id) := by
        simp [Registry.endpoint, held]
      rw [missing]
      exact ⟨rfl, .inl (by simp [found, held])⟩
    | some stored =>
      obtain ⟨tags, tagged⟩ := valid.tags_of_endpoint held
      have known : registry.endpoint id = .ok stored := Registry.endpoint_eq_ok_iff.2 held
      have short : stored.addresses.length ≤ Walk.pageLimit :=
        Nat.le_trans (valid.endpoint id stored held).bounded room
      rw [known, found_eq desired held tagged]
      refine (Attempt.always_outcome_bind _ _ _ _).2
        ((Walk.always_collect sized (always_listAddresses held) short).imp ?_)
      rintro _ _ ⟨rfl, rfl | ⟨failure, rfl, why⟩⟩
      · refine (Attempt.always_outcome_bind _ _ _ _).2 ((always_fetch tagged).imp ?_)
        rintro reply _ ⟨rfl, fetched⟩
        cases reply with
        | ok observed =>
          subst fetched
          exact ⟨rfl, .inl rfl⟩
        | error failure => exact ⟨rfl, .inr ⟨failure, fetched, .inr rfl⟩⟩
      · exact ⟨rfl, .inr ⟨failure, why, .inr rfl⟩⟩
  · intro failure refused
    show _ ∧ _
    refine ⟨rfl, .inr ⟨failure, ⟨_, refused⟩, ?_⟩⟩
    cases failure.isNotFound with
    | true => exact .inl rfl
    | false => exact .inr rfl

theorem always_observe (valid : registry.Valid site) (sized : 0 < site.pageSize)
    (room : registry.serial ≤ Walk.pageLimit) (desired : EndpointSpec) (last : Option Endpoint) :
    (observe desired last).outcome.Always (Answered site refusal) (fun reply after =>
      after = registry ∧ (reply = .ok ((last.bind id?).bind (found desired registry)) ∨
        ∃ failure, Refused refusal failure ∧ (reply = .ok none ∨ reply = .error failure)))
      registry := by
  unfold observe
  cases last.bind id? with
  | none => exact ⟨rfl, .inl rfl⟩
  | some id => exact always_observeId valid sized room desired id

/-- What is observed is what there is, except that some addresses may be missing if there are too
many of them. -/
theorem always_observe_shown (valid : registry.Valid site) (desired : EndpointSpec)
    (last : Option Endpoint) :
    (observe desired last).outcome.Always (Answered site refusal) (fun reply after =>
      after = registry ∧ ∀ seen, reply = .ok (some seen) → ∃ id stored addresses tags,
        last.bind id? = some id ∧ registry.endpoints.get? id = some stored ∧
        registry.tags.get? stored.record.arn = some tags ∧ addresses ⊆ stored.addresses ∧
        seen = ofStored desired { stored with addresses } tags) registry := by
  unfold observe
  cases named : last.bind id? with
  | none => exact ⟨rfl, fun seen same => nomatch same⟩
  | some id =>
    refine (Program.always_bind _ _ _ _).2 (always_look (.getEndpoint id)
      ((registry.endpoint id).map StoredEndpoint.record) (fun now => rfl) ?_
      fun failure _ => ⟨rfl, fun seen same => absurd same (lookup_ne_some failure seen)⟩)
    cases held : registry.endpoints.get? id with
    | none =>
      have missing : registry.endpoint id = .error (missingEndpoint id) := by
        simp [Registry.endpoint, held]
      rw [missing]
      exact ⟨rfl, fun seen same => absurd same (lookup_ne_some _ seen)⟩
    | some stored =>
      obtain ⟨tags, tagged⟩ := valid.tags_of_endpoint held
      rw [Registry.endpoint_eq_ok_iff.2 held]
      refine (Attempt.always_outcome_bind _ _ _ _).2 ((Walk.always_collectFrom_subset
        (always_listAddresses held) _ _ (List.nil_subset _)).imp ?_)
      rintro reply _ ⟨rfl, among⟩
      cases reply with
      | error failure => exact ⟨rfl, fun seen same => nomatch same⟩
      | ok addresses =>
        refine (Attempt.always_outcome_bind _ _ _ _).2 ((always_fetch tagged).imp ?_)
        rintro reply _ ⟨rfl, fetched⟩
        cases reply with
        | error failure => exact ⟨rfl, fun seen same => nomatch same⟩
        | ok observed =>
          subst fetched
          refine ⟨rfl, fun seen same => ?_⟩
          cases same
          exact ⟨id, stored, addresses, observed, rfl, held, tagged, among addresses rfl, rfl⟩

end Observation

end Resolver.Endpoint

end Converge
