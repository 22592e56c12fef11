import Converge.Proofs.Registry.Additions

/-! When each operation succeeds, and what it then returns and leaves behind. -/
namespace Converge.Provider

open Converge.Resolver

theorem bind_eq_ok_iff {α β : Type} {first : Except Failure α} {next : α → Except Failure β}
    {result : β} :
    (first >>= next) = .ok result ↔ ∃ value, first = .ok value ∧ next value = .ok result := by
  cases first with
  | error failure => exact iff_of_false nofun nofun
  | ok value =>
    refine ⟨fun done => ⟨value, rfl, done⟩, fun ⟨_, same, done⟩ => ?_⟩
    cases same
    exact done

@[simp]
theorem isNotFound_missing (kind id : String) : (missing kind id).isNotFound = true := by
  simp [missing, Failure.isNotFound, Failure.code?]

@[simp]
theorem isNotFound_missingEndpoint (id : String) : (missingEndpoint id).isNotFound = true :=
  isNotFound_missing _ id

@[simp]
theorem isNotFound_missingRule (id : String) : (missingRule id).isNotFound = true :=
  isNotFound_missing _ id

namespace Registry

variable {site : Site} {now : Timestamp} {registry after : Registry}

@[simp]
theorem endpoint_eq_ok_iff {id : String} {stored : StoredEndpoint} :
    registry.endpoint id = .ok stored ↔ registry.endpoints.get? id = some stored := by
  unfold endpoint
  split <;> simp [*]

@[simp]
theorem rule_eq_ok_iff {id : String} {record : RuleRecord} :
    registry.rule id = .ok record ↔ registry.rules.get? id = some record := by
  unfold rule
  split <;> simp [*]

@[simp]
theorem tagsAt_eq_ok_iff {arn : String} {tags : Tags} :
    registry.tagsAt arn = .ok tags ↔ registry.tags.get? arn = some tags := by
  unfold tagsAt
  split <;> simp [*]

theorem look_eq_ok_iff {α : Type} {found : Except Failure α} {value : α} :
    registry.look found = .ok (value, after) ↔ found = .ok value ∧ after = registry := by
  cases found with
  | error failure => simp [look, Except.map]
  | ok other => simp [look, Except.map, eq_comm]

section Endpoints

variable {id : String} {record : EndpointRecord}

theorem createEndpoint_of_unknown {request : EndpointRequest}
    (unknown : registry.endpointTokens.get? request.creatorRequestId = none) :
    registry.createEndpoint site now request = .ok (record, after) ↔
      leastAddresses ≤ request.ipAddresses.length ∧ request.securityGroupIds ≠ [] ∧
        record = (registry.newEndpoint site now request).1.record ∧
        after = (registry.newEndpoint site now request).2.addEndpoint
          (registry.newEndpoint site now request).1 (Tags.ofTags request.tags) := by
  simp only [createEndpoint, unknown]
  split
  · next few => simp [Nat.not_le.2 few]
  · next enough =>
    split
    · next none => simp [List.isEmpty_iff.1 none]
    · next some =>
      have given : request.securityGroupIds ≠ [] := fun none => some (List.isEmpty_iff.2 none)
      simp [Nat.not_lt.1 enough, given, eq_comm]

theorem createEndpoint_of_known {request : EndpointRequest} {entry : TokenEntry}
    (known : registry.endpointTokens.get? request.creatorRequestId = some entry) :
    registry.createEndpoint site now request = .ok (record, after) ↔
      entry.name = request.name ∧ after = registry ∧
        ∃ stored, registry.endpoints.get? entry.id = some stored ∧ record = stored.record := by
  simp only [createEndpoint, known]
  split
  · next apart => simp [apart]
  · next same =>
    simp only [bind_eq_ok_iff, endpoint_eq_ok_iff, Classical.not_not.1 same, true_and]
    constructor
    · rintro ⟨stored, held, done⟩
      cases done
      exact ⟨rfl, stored, held, rfl⟩
    · rintro ⟨rfl, stored, held, rfl⟩
      exact ⟨stored, held, rfl⟩

def updatedEndpoint (now : Timestamp) (update : EndpointUpdate) (stored : StoredEndpoint) :
    StoredEndpoint :=
  { stored with
    record :=
      { stored.record with
        name := update.name.getD stored.record.name
        endpointType := update.endpointType.getD stored.record.endpointType
        modificationTime := now } }

theorem updateEndpoint_eq_ok_iff {update : EndpointUpdate} :
    registry.updateEndpoint now id update = .ok (record, after) ↔
      ∃ stored, registry.endpoints.get? id = some stored ∧
        record = (updatedEndpoint now update stored).record ∧
        after = { registry with
          endpoints := registry.endpoints.insert id (updatedEndpoint now update stored) } := by
  simp only [updateEndpoint, bind_eq_ok_iff, endpoint_eq_ok_iff]
  refine exists_congr fun stored => and_congr_right fun _ => ?_
  constructor
  · intro done
    cases done
    exact ⟨rfl, rfl⟩
  · rintro ⟨rfl, rfl⟩
    rfl

theorem deleteEndpoint_eq_ok_iff :
    registry.deleteEndpoint id = .ok ((), after) ↔
      ∃ stored, registry.endpoints.get? id = some stored ∧
        after = { registry with
          endpoints := registry.endpoints.erase id
          tags := registry.tags.erase stored.record.arn
          endpointTokens := registry.endpointTokens.filter fun _ entry => entry.id ≠ id } := by
  simp only [deleteEndpoint, bind_eq_ok_iff, endpoint_eq_ok_iff]
  refine exists_congr fun stored => and_congr_right fun _ => ?_
  constructor
  · intro done
    cases done
    rfl
  · rintro rfl
    rfl

def grownEndpoint (registry : Registry) (now : Timestamp) (request : AddressRequest)
    (stored : StoredEndpoint) : StoredEndpoint :=
  withAddresses now stored (stored.addresses ++ [(registry.allocate now request).1])

theorem associateAddress_eq_ok_iff {request : AddressRequest} :
    registry.associateAddress now id request = .ok (record, after) ↔
      ∃ stored, registry.endpoints.get? id = some stored ∧
        if request.subnetId ∈ stored.addresses.map Address.subnetId then
          record = stored.record ∧ after = registry
        else
          record = (registry.grownEndpoint now request stored).record ∧
          after = { registry with
            endpoints :=
              registry.endpoints.insert id (registry.grownEndpoint now request stored)
            serial := registry.serial + 1 } := by
  simp only [associateAddress, bind_eq_ok_iff, endpoint_eq_ok_iff]
  refine exists_congr fun stored => and_congr_right fun _ => ?_
  have present : (stored.addresses.any fun address => address.subnetId = request.subnetId) = true ↔
      request.subnetId ∈ stored.addresses.map Address.subnetId := by
    simp [List.any_eq_true]
  simp only [present]
  split
  all_goals
    constructor
    · intro done
      cases done
      exact ⟨rfl, rfl⟩
    · rintro ⟨rfl, rfl⟩
      rfl

theorem associateAddress_of_present {request : AddressRequest} {stored : StoredEndpoint}
    (held : registry.endpoints.get? id = some stored)
    (present : request.subnetId ∈ stored.addresses.map Address.subnetId) :
    registry.associateAddress now id request = .ok (stored.record, registry) := by
  refine associateAddress_eq_ok_iff.2 ⟨stored, held, ?_⟩
  rw [if_pos present]
  exact ⟨rfl, rfl⟩

theorem associateAddress_of_absent {request : AddressRequest} {stored : StoredEndpoint}
    (held : registry.endpoints.get? id = some stored)
    (absent : request.subnetId ∉ stored.addresses.map Address.subnetId) :
    registry.associateAddress now id request =
      .ok ((registry.grownEndpoint now request stored).record, { registry with
        endpoints := registry.endpoints.insert id (registry.grownEndpoint now request stored)
        serial := registry.serial + 1 }) := by
  refine associateAddress_eq_ok_iff.2 ⟨stored, held, ?_⟩
  rw [if_neg absent]
  exact ⟨rfl, rfl⟩

def shrunkEndpoint (now : Timestamp) (ipId : String) (stored : StoredEndpoint) : StoredEndpoint :=
  withAddresses now stored (stored.addresses.eraseP fun address => address.ipId = ipId)

theorem disassociateAddress_eq_ok_iff {ipId : String} :
    registry.disassociateAddress now id ipId = .ok (record, after) ↔
      ∃ stored, registry.endpoints.get? id = some stored ∧
        if ipId ∈ stored.addresses.map Address.ipId then
          leastAddresses < stored.addresses.length ∧
          record = (shrunkEndpoint now ipId stored).record ∧
          after = { registry with
            endpoints := registry.endpoints.insert id (shrunkEndpoint now ipId stored) }
        else record = stored.record ∧ after = registry := by
  simp only [disassociateAddress, bind_eq_ok_iff, endpoint_eq_ok_iff]
  refine exists_congr fun stored => and_congr_right fun _ => ?_
  have absent : (stored.addresses.all fun address => address.ipId ≠ ipId) = true ↔
      ipId ∉ stored.addresses.map Address.ipId := by
    simp only [List.all_eq_true, decide_eq_true_eq, List.mem_map, not_exists, not_and]
  simp only [absent]
  by_cases there : ipId ∈ stored.addresses.map Address.ipId
  · rw [if_neg (not_not_intro there), if_pos there]
    split
    · next few => simp [Nat.not_lt.2 few]
    · next enough =>
      refine ⟨fun done => ?_, fun ⟨_, record, after⟩ => by cases record; cases after; rfl⟩
      cases done
      exact ⟨Nat.not_le.1 enough, rfl, rfl⟩
  · rw [if_pos there, if_neg there]
    refine ⟨fun done => ?_, fun ⟨record, after⟩ => by cases record; cases after; rfl⟩
    cases done
    exact ⟨rfl, rfl⟩

theorem disassociateAddress_of_absent {ipId : String} {stored : StoredEndpoint}
    (held : registry.endpoints.get? id = some stored)
    (absent : ipId ∉ stored.addresses.map Address.ipId) :
    registry.disassociateAddress now id ipId = .ok (stored.record, registry) := by
  refine disassociateAddress_eq_ok_iff.2 ⟨stored, held, ?_⟩
  rw [if_neg absent]
  exact ⟨rfl, rfl⟩

theorem disassociateAddress_of_few {ipId : String} {stored : StoredEndpoint}
    (held : registry.endpoints.get? id = some stored)
    (present : ipId ∈ stored.addresses.map Address.ipId)
    (few : stored.addresses.length ≤ leastAddresses) :
    registry.disassociateAddress now id ipId = .error (invalidRequest
      s!"an endpoint must keep at least {leastAddresses} ip addresses") := by
  obtain ⟨address, member, named⟩ := List.mem_map.1 present
  have there : ¬(stored.addresses.all fun address => address.ipId ≠ ipId) = true := by
    intro absent
    exact of_decide_eq_true (List.all_eq_true.1 absent address member) named
  simp only [disassociateAddress, endpoint_eq_ok_iff.2 held, bind, Except.bind, if_neg there,
    if_pos few]

theorem disassociateAddress_of_present {ipId : String} {stored : StoredEndpoint}
    (held : registry.endpoints.get? id = some stored)
    (present : ipId ∈ stored.addresses.map Address.ipId)
    (spare : leastAddresses < stored.addresses.length) :
    registry.disassociateAddress now id ipId =
      .ok ((shrunkEndpoint now ipId stored).record, { registry with
        endpoints := registry.endpoints.insert id (shrunkEndpoint now ipId stored) }) := by
  refine disassociateAddress_eq_ok_iff.2 ⟨stored, held, ?_⟩
  rw [if_pos present]
  exact ⟨spare, rfl, rfl⟩

end Endpoints

section Rules

variable {id ruleId vpcId : String} {record : RuleRecord} {association : AssociationRecord}

theorem checkRule_eq_ok_iff {request : RuleRequest} :
    registry.checkRule request = .ok () ↔
      request.domainName ≠ "" ∧
        if request.ruleType = .forward then
          request.targetIps ≠ [] ∧
            ∃ endpointId ∈ request.resolverEndpointId, registry.Live endpointId .endpoint
        else request.targetIps = [] := by
  unfold checkRule
  by_cases named : request.domainName = ""
  · simp [named]
  · rw [if_neg named]
    by_cases forwards : request.ruleType = .forward
    · simp only [if_pos forwards]
      cases targets : request.targetIps with
      | nil => simp
      | cons target rest =>
        cases request.resolverEndpointId with
        | none => simp
        | some endpointId =>
          refine bind_eq_ok_iff.trans ?_
          simp [named, pure, Except.pure, Live, Option.ne_none_iff_exists']
    · simp only [if_neg forwards]
      cases request.targetIps <;> simp [named]

theorem createRule_of_unknown {request : RuleRequest}
    (unknown : registry.ruleTokens.get? request.creatorRequestId = none) :
    registry.createRule site now request = .ok (record, after) ↔
      registry.checkRule request = .ok () ∧
        record = (registry.newRule site now request).1 ∧
        after = (registry.newRule site now request).2.addRule
          (registry.newRule site now request).1 (Tags.ofTags request.tags) := by
  simp only [createRule, unknown, bind_eq_ok_iff]
  constructor
  · rintro ⟨⟨⟩, checked, done⟩
    cases done
    exact ⟨checked, rfl, rfl⟩
  · rintro ⟨checked, rfl, rfl⟩
    exact ⟨(), checked, rfl⟩

theorem createRule_of_known {request : RuleRequest} {entry : TokenEntry}
    (known : registry.ruleTokens.get? request.creatorRequestId = some entry) :
    registry.createRule site now request = .ok (record, after) ↔
      entry.name = request.name ∧ after = registry ∧
        registry.rules.get? entry.id = some record := by
  simp only [createRule, known]
  split
  · next apart => simp [apart]
  · next same =>
    simp only [bind_eq_ok_iff, rule_eq_ok_iff, Classical.not_not.1 same, true_and]
    constructor
    · rintro ⟨other, held, done⟩
      cases done
      exact ⟨rfl, held⟩
    · rintro ⟨rfl, held⟩
      exact ⟨record, held, rfl⟩

def updatedRule (now : Timestamp) (update : RuleUpdate) (record : RuleRecord) : RuleRecord :=
  { record with
    name := update.name.getD record.name
    resolverEndpointId := update.resolverEndpointId <|> record.resolverEndpointId
    targetIps := update.targetIps.getD record.targetIps
    modificationTime := now }

theorem updateRule_eq_ok_iff {update : RuleUpdate} :
    registry.updateRule now id update = .ok (record, after) ↔
      (∀ endpointId ∈ update.resolverEndpointId, registry.Live endpointId .endpoint) ∧
      ∃ old, registry.rules.get? id = some old ∧
        ¬(old.ruleType = .forward ∧ update.targetIps = some []) ∧
        record = updatedRule now update old ∧
        after = { registry with
          rules := registry.rules.insert id (updatedRule now update old) } := by
  have rest : (do
      let old ← registry.rule id
      if old.ruleType = .forward && update.targetIps = some [] then
        .error (invalidRequest "a FORWARD rule needs target ips")
      else
        pure (updatedRule now update old, { registry with
          rules := registry.rules.insert id (updatedRule now update old) }) :
        Except Failure (RuleRecord × Registry)) = .ok (record, after) ↔
      ∃ old, registry.rules.get? id = some old ∧
        ¬(old.ruleType = .forward ∧ update.targetIps = some []) ∧
        record = updatedRule now update old ∧
        after = { registry with
          rules := registry.rules.insert id (updatedRule now update old) } := by
    simp only [bind_eq_ok_iff, rule_eq_ok_iff]
    refine exists_congr fun old => and_congr_right fun _ => ?_
    split
    · next bare => simp [of_decide_eq_true, bare]
    · next fine =>
      constructor
      · intro done
        cases done
        exact ⟨by simpa using fine, rfl, rfl⟩
      · rintro ⟨-, rfl, rfl⟩
        rfl
  obtain ⟨name, endpointId, targetIps⟩ := update
  cases endpointId with
  | none =>
    refine Iff.trans rest ⟨fun done => ⟨nofun, done⟩, fun done => done.2⟩
  | some endpointId =>
    refine bind_eq_ok_iff.trans ⟨?_, ?_⟩
    · rintro ⟨stored, held, done⟩
      refine ⟨fun id same => ?_, rest.1 done⟩
      cases same
      exact Option.ne_none_iff_exists'.2 ⟨stored, endpoint_eq_ok_iff.1 held⟩
    · rintro ⟨live, done⟩
      obtain ⟨stored, held⟩ := Option.ne_none_iff_exists'.1 (live endpointId rfl)
      exact ⟨stored, endpoint_eq_ok_iff.2 held, rest.2 done⟩

theorem deleteRule_eq_ok {registry after : Registry}
    (done : registry.deleteRule id = .ok ((), after)) :
    ∃ record, registry.rules.get? id = some record ∧
      after = { registry with
        rules := registry.rules.erase id
        tags := registry.tags.erase record.arn
        associations := registry.associations.filter fun association => association.ruleId ≠ id
        ruleTokens := registry.ruleTokens.filter fun _ entry => entry.id ≠ id } := by
  unfold deleteRule at done
  split at done
  · cases done
  · obtain ⟨record, held, done⟩ := bind_eq_ok_iff.1 done
    cases done
    exact ⟨record, rule_eq_ok_iff.1 held, rfl⟩

def newAssociation (registry : Registry) (ruleId vpcId : String) : AssociationRecord :=
  ⟨idText "rslvr-rrassoc" (registry.serial + 1), ruleId, vpcId, .complete, none⟩

def Associates (registry : Registry) (ruleId vpcId : String) (association : AssociationRecord) :
    Prop :=
  association ∈ registry.associations ∧ association.ruleId = ruleId ∧
    association.vpcId = vpcId ∧ isActive association = true

theorem associateRule_eq_ok
    (done : registry.associateRule ruleId vpcId = .ok (association, after)) :
    registry.Live ruleId .rule ∧
      (registry.Associates ruleId vpcId association ∧ after = registry ∨
        (∀ other, ¬registry.Associates ruleId vpcId other) ∧
        association = registry.newAssociation ruleId vpcId ∧
        after = { registry with
          associations := registry.associations ++ [registry.newAssociation ruleId vpcId]
          serial := registry.serial + 1 }) := by
  obtain ⟨record, held, done⟩ := bind_eq_ok_iff.1 done
  refine ⟨Option.ne_none_iff_exists'.2 ⟨record, rule_eq_ok_iff.1 held⟩, ?_⟩
  simp only at done
  split at done
  · next found active =>
    cases done
    have fits := List.find?_some active
    simp only [Bool.and_eq_true, decide_eq_true_eq] at fits
    exact .inl ⟨⟨List.mem_of_find?_eq_some active, fits.1.1, fits.1.2, fits.2⟩, rfl⟩
  · next none =>
    cases done
    refine .inr ⟨fun other ⟨member, rule, vpc, active⟩ => ?_, rfl, rfl⟩
    have apart := List.find?_eq_none.1 none other member
    simp [rule, vpc, active] at apart

theorem disassociateRule_eq_ok_iff :
    registry.disassociateRule ruleId vpcId = .ok (association, after) ↔
      ∃ associations,
        retireLast ruleId vpcId registry.associations = some (association, associations) ∧
        after = { registry with associations } := by
  unfold disassociateRule
  split
  · next retired associations done =>
    simp only [done, Option.some.injEq, Prod.mk.injEq]
    constructor
    · intro same
      cases same
      exact ⟨associations, ⟨rfl, rfl⟩, rfl⟩
    · rintro ⟨_, ⟨rfl, rfl⟩, rfl⟩
      rfl
  · next none => simp [none]

end Rules

theorem tag_eq_ok_iff {arn : String} {added : List Tag} :
    registry.tag arn added = .ok ((), after) ↔
      ∃ tags, registry.tags.get? arn = some tags ∧
        after = { registry with tags := registry.tags.insert arn (tags.add added) } := by
  simp only [tag, bind_eq_ok_iff, tagsAt_eq_ok_iff]
  refine exists_congr fun tags => and_congr_right fun _ => ?_
  exact ⟨fun done => by cases done; rfl, fun after => by cases after; rfl⟩

theorem untag_eq_ok_iff {arn : String} {keys : List String} :
    registry.untag arn keys = .ok ((), after) ↔
      ∃ tags, registry.tags.get? arn = some tags ∧
        after = { registry with tags := registry.tags.insert arn (tags.remove keys) } := by
  simp only [untag, bind_eq_ok_iff, tagsAt_eq_ok_iff]
  refine exists_congr fun tags => and_congr_right fun _ => ?_
  exact ⟨fun done => by cases done; rfl, fun after => by cases after; rfl⟩

theorem setStatus_eq_ok_iff {id : String} {status : EndpointState} :
    registry.setStatus id status = .ok after ↔
      ∃ stored, registry.endpoints.get? id = some stored ∧
        after = { registry with
          endpoints := registry.endpoints.insert id
            { stored with record := { stored.record with status } } } := by
  simp only [setStatus, bind_eq_ok_iff, endpoint_eq_ok_iff]
  refine exists_congr fun stored => and_congr_right fun _ => ?_
  exact ⟨fun done => by cases done; rfl, fun after => by cases after; rfl⟩

end Registry

end Converge.Provider
