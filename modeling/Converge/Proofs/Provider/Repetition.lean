import Converge.Proofs.Provider.Deduplication

/-! Calls that are made again. Whoever does not know whether a call was carried out makes it once
more, and a call that sets something up, or takes an address, an association or a tag away, finds
then what it has left behind the first time. So it is answered as before and changes nothing. Each
call knows its own trace: a creation by its token, an address by its subnet or its id, an
association by its rule and network, a tag by its key. -/
namespace Converge

namespace Provider

open Resolver

/-- The calls that find their own traces. An update dates its record anew each time, and what has
been deleted is not there to be deleted again. -/
def Call.isRepeatable : Call → Bool
  | createEndpoint _ | createRule _ => true
  | associateAddress _ _ | disassociateAddress _ _ => true
  | associateRule _ _ | disassociateRule _ _ => true
  | tag _ _ | untag _ _ => true
  | _ => false

namespace Registry

variable {site other : Site} {now later : Timestamp} {registry after : Registry}

section Endpoints

variable {id : String} {record : EndpointRecord}

theorem createEndpoint_again {request : EndpointRequest}
    (done : registry.createEndpoint site now request = .ok (record, after)) :
    after.createEndpoint other later request = .ok (record, after) := by
  cases known : registry.endpointTokens.get? request.creatorRequestId with
  | some entry =>
    obtain ⟨name, rfl, held⟩ := (createEndpoint_of_known known).1 done
    exact (createEndpoint_of_known known).2 ⟨name, rfl, held⟩
  | none =>
    -- The new endpoint is known by its token.
    obtain ⟨-, -, rfl, rfl⟩ := (createEndpoint_of_unknown known).1 done
    let stored := (registry.newEndpoint site now request).1
    have noted : ((registry.newEndpoint site now request).2.addEndpoint stored
        (Tags.ofTags request.tags)).endpointTokens.get? request.creatorRequestId =
          some ⟨stored.record.id, request.name⟩ :=
      (NameMap.get?_insert _ _ _ _).trans (if_pos rfl)
    refine (createEndpoint_of_known noted).2 ⟨rfl, rfl, stored, ?_, rfl⟩
    exact (NameMap.get?_insert _ _ _ _).trans (if_pos rfl)

theorem associateAddress_again {request : AddressRequest}
    (done : registry.associateAddress now id request = .ok (record, after)) :
    after.associateAddress later id request = .ok (record, after) := by
  obtain ⟨stored, held, done⟩ := associateAddress_eq_ok_iff.1 done
  split at done
  · next present =>
    obtain ⟨rfl, rfl⟩ := done
    exact associateAddress_of_present held present
  · obtain ⟨rfl, rfl⟩ := done
    refine associateAddress_of_present (by simp) ?_
    simp [grownEndpoint, withAddresses, allocate]

theorem disassociateAddress_again (valid : registry.Valid site) {ipId : String}
    (done : registry.disassociateAddress now id ipId = .ok (record, after)) :
    after.disassociateAddress later id ipId = .ok (record, after) := by
  obtain ⟨stored, held, done⟩ := disassociateAddress_eq_ok_iff.1 done
  split at done
  · obtain ⟨-, rfl, rfl⟩ := done
    refine disassociateAddress_of_absent (by simp) ?_
    -- No second address has the id of the one that was taken away.
    have left : (shrunkEndpoint now ipId stored).addresses.map Address.ipId =
        (stored.addresses.map Address.ipId).erase ipId := by
      rw [List.erase_eq_eraseP', List.eraseP_map]
      rfl
    rw [left]
    exact (valid.endpoint id stored held).apart.not_mem_erase
  · next absent =>
    obtain ⟨rfl, rfl⟩ := done
    exact disassociateAddress_of_absent held absent

end Endpoints

section Rules

variable {ruleId vpcId : String} {record : RuleRecord} {association : AssociationRecord}

theorem createRule_again {request : RuleRequest}
    (done : registry.createRule site now request = .ok (record, after)) :
    after.createRule other later request = .ok (record, after) := by
  cases known : registry.ruleTokens.get? request.creatorRequestId with
  | some entry =>
    obtain ⟨name, rfl, held⟩ := (createRule_of_known known).1 done
    exact (createRule_of_known known).2 ⟨name, rfl, held⟩
  | none =>
    obtain ⟨-, rfl, rfl⟩ := (createRule_of_unknown known).1 done
    let record := (registry.newRule site now request).1
    have noted : ((registry.newRule site now request).2.addRule record
        (Tags.ofTags request.tags)).ruleTokens.get? request.creatorRequestId =
          some ⟨record.id, request.name⟩ :=
      (NameMap.get?_insert _ _ _ _).trans (if_pos rfl)
    refine (createRule_of_known noted).2 ⟨rfl, rfl, ?_⟩
    exact (NameMap.get?_insert _ _ _ _).trans (if_pos rfl)

theorem associateRule_again
    (done : registry.associateRule ruleId vpcId = .ok (association, after)) :
    after.associateRule ruleId vpcId = .ok (association, after) := by
  obtain ⟨live, ⟨-, rfl⟩ | ⟨none, rfl, rfl⟩⟩ := associateRule_eq_ok done
  · exact done
  · obtain ⟨record, held⟩ := Option.ne_none_iff_exists'.1 live
    refine bind_eq_ok_iff.2 ⟨record, rule_eq_ok_iff.2 held, ?_⟩
    -- A new association is the only active one of its rule and network.
    have first : registry.associations.find? (fun association =>
        association.ruleId = ruleId && association.vpcId = vpcId && isActive association) =
          Option.none := by
      refine List.find?_eq_none.2 fun other member fits => none other ⟨member, ?_⟩
      simpa [and_assoc] using fits
    have last : [registry.newAssociation ruleId vpcId].find? (fun association =>
        association.ruleId = ruleId && association.vpcId = vpcId && isActive association) =
          some (registry.newAssociation ruleId vpcId) := by
      simp [newAssociation, isActive]
    simp only [List.find?_append, first, Option.none_or, last]
    rfl

theorem retireLast_again {associations marked : List AssociationRecord}
    (done : retireLast ruleId vpcId associations = some (association, marked)) :
    retireLast ruleId vpcId marked = some (association, marked) := by
  -- The association that was marked is still the last one of its rule and network.
  induction associations generalizing association marked with
  | nil => cases done
  | cons first others ih =>
    rw [retireLast] at done
    split at done
    · next found rest later =>
      cases done
      rw [retireLast, ih later]
    · next absent =>
      split at done
      · next here =>
        cases done
        rw [retireLast, absent]
        exact if_pos here
      · cases done

theorem disassociateRule_again
    (done : registry.disassociateRule ruleId vpcId = .ok (association, after)) :
    after.disassociateRule ruleId vpcId = .ok (association, after) := by
  obtain ⟨marked, retired, rfl⟩ := disassociateRule_eq_ok_iff.1 done
  exact disassociateRule_eq_ok_iff.2 ⟨marked, retireLast_again retired, rfl⟩

end Rules

section Tags

variable {arn : String}

theorem tag_again {added : List Tag} (done : registry.tag arn added = .ok ((), after)) :
    after.tag arn added = .ok ((), after) := by
  obtain ⟨tags, -, rfl⟩ := tag_eq_ok_iff.1 done
  refine tag_eq_ok_iff.2 ⟨tags.add added, by simp, ?_⟩
  simp [Tags.add, NameMap.insertAll_insertAll]

theorem untag_again {keys : List String} (done : registry.untag arn keys = .ok ((), after)) :
    after.untag arn keys = .ok ((), after) := by
  obtain ⟨tags, -, rfl⟩ := untag_eq_ok_iff.1 done
  refine untag_eq_ok_iff.2 ⟨tags.remove keys, by simp, ?_⟩
  simp [Tags.remove, NameMap.eraseAll_eraseAll]

end Tags

theorem perform_again (valid : registry.Valid site) {call : Call}
    (repeatable : call.isRepeatable = true) {value : call.Value}
    (done : registry.perform site now call = .ok (value, after)) (other : Site)
    (later : Timestamp) : after.perform other later call = .ok (value, after) := by
  cases call with
  | createEndpoint request => exact createEndpoint_again done
  | createRule request => exact createRule_again done
  | associateAddress id request => exact associateAddress_again done
  | disassociateAddress id ipId => exact disassociateAddress_again valid done
  | associateRule ruleId vpcId => exact associateRule_again done
  | disassociateRule ruleId vpcId => exact disassociateRule_again done
  | tag arn tags => exact tag_again done
  | untag arn keys => exact untag_again done
  | _ => cases repeatable

end Registry

namespace World

/-- A repeatable call that has succeeded once succeeds again whenever the provider serves it, with
the same answer, and changes nothing. -/
theorem repetition_settles {world : World} (reached : world.Reachable) {call : Call}
    (repeatable : call.isRepeatable = true) (bounds : Bounds) {value : call.Value}
    (succeeded : (world.serve bounds call).1 = .ok value) :
    (world.serve bounds call).2.Settles call (.ok value) := by
  have answered : Answered world.site anyRefusal call world.registry (.ok value)
      (world.serve bounds call).2.registry := succeeded ▸ answered_serve
  cases answered with
  | done now done =>
    refine .of_complete fun rest same => ?_
    have again := Registry.perform_again reached.valid.1 repeatable done rest.site rest.now
    rw [← same] at again
    rw [complete, again]

/-- A rule that has been associated with a network, and again after it had been taken away. -/
def reassociated : World :=
  let ruleId := "rslvr-rr-00000000000000001"
  still.completeAll
    [.createRule
      { creatorRequestId := "internal-0"
        name := "internal"
        domainName := "corp.example."
        ruleType := .system
        resolverEndpointId := none
        targetIps := []
        tags := [] },
      .associateRule ruleId "vpc-1", .disassociateRule ruleId "vpc-1",
      .associateRule ruleId "vpc-1"]

theorem second_disassociation_settles :
    let ruleId := "rslvr-rr-00000000000000001"
    let call := Call.disassociateRule ruleId "vpc-1"
    let retired : AssociationRecord :=
      ⟨"rslvr-rrassoc-00000000000000003", ruleId, "vpc-1", .deleting, none⟩
    reassociated.Reachable ∧ call.isRepeatable = true ∧
      (reassociated.serve .unbounded call).1 = .ok retired ∧
      (reassociated.serve .unbounded call).2.Settles call (.ok retired) := by
  intro ruleId call retired
  have reached : reassociated.Reachable := Reachable.still.completeAll _
  have succeeded : (reassociated.serve .unbounded call).1 = .ok retired := by rfl
  exact ⟨reached, rfl, succeeded, repetition_settles reached rfl .unbounded succeeded⟩

end World

end Provider

end Converge
