import Converge.Proofs.Differences
import Converge.Proofs.Provider.TagCalls
import Converge.Resolver.RuleManager

/-! Snapshots of rules. What an observation finds is a function of the registry alone: of the
associations that are listed only those count that are not being deleted. -/
namespace Converge

open Provider Resolver

def Resolver.RuleSpec.vpcs (desired : RuleSpec) : List String :=
  desired.associations.map RuleAssociation.vpcId

namespace Resolver.Rule

section Agreement

variable (desired : RuleSpec) (observed : Rule)

/-- The rule holds for the same networks. -/
def VpcsAgree : Prop :=
  ∀ vpc, vpc ∈ desired.vpcs ↔ vpc ∈ observed.spec.associations.map RuleAssociation.vpcId

def RecordAgrees : Prop :=
  desired.name = observed.spec.name ∧ desired.targetIps = observed.spec.targetIps ∧
    ∀ endpointId ∈ desired.resolverEndpointId, observed.spec.resolverEndpointId = some endpointId

theorem checkImmutable_eq_ok_iff :
    checkImmutable desired observed = .ok () ↔
      sameDomain desired.domainName observed.spec.domainName = true ∧
        desired.ruleType = observed.spec.ruleType := by
  simp only [checkImmutable]
  split
  · next other => exact iff_of_false nofun fun both => by simp [both.1] at other
  · next domain =>
    split
    · next other => exact iff_of_false nofun fun both => other both.2
    · next same => exact iff_of_true rfl ⟨by simpa using domain, Classical.not_not.1 same⟩

theorem differentAt_tags :
    (delta desired observed).differentAt tagsPath = false ↔ desired.tags = observed.spec.tags := by
  have covered : covers tagsPath associationsPath = false ∧ covers tagsPath namePath = false ∧
      covers tagsPath targetIpsPath = false ∧ covers tagsPath endpointPath = false := by decide
  simp [delta, Delta.compare, Delta.compareKeys, Delta.compareUnordered, Delta.compareIfSet,
    covered]

theorem differentAt_associations :
    [associationsPath].any (delta desired observed).differentAt = false ↔
      VpcsAgree desired observed := by
  have covered : covers associationsPath tagsPath = false ∧
      covers associationsPath namePath = false ∧ covers associationsPath targetIpsPath = false ∧
      covers associationsPath endpointPath = false := by decide
  simp only [List.any_cons, List.any_nil, Bool.or_false, delta, Delta.compare, Delta.compareKeys,
    Delta.compareUnordered, Delta.compareIfSet, Delta.differentAt_record, Delta.differentAt_empty,
    covered, covers_self, Bool.and_false, Bool.and_true, Bool.false_or]
  exact Delta.unordered_eq_false_iff _ _

theorem differentExcept_eq_false_iff :
    (delta desired observed).differentExcept [tagsPath, associationsPath] = false ↔
      RecordAgrees desired observed := by
  have covered : covers tagsPath namePath = false ∧ covers associationsPath namePath = false ∧
      covers tagsPath targetIpsPath = false ∧ covers associationsPath targetIpsPath = false ∧
      covers tagsPath endpointPath = false ∧ covers associationsPath endpointPath = false := by
    decide
  simp only [delta, Delta.compare, Delta.compareKeys, Delta.compareUnordered, Delta.compareIfSet,
    Delta.differentExcept_record, Delta.differentExcept_empty, covered, covers_self,
    List.any_cons, List.any_nil, Bool.or_false, Bool.or_true, Bool.not_true, Bool.not_false,
    Bool.true_or, Bool.and_false, Bool.and_true, Bool.false_or, Bool.or_eq_false_iff, and_assoc]
  exact and_congr (by simp) (and_congr (by simp) (Delta.ifSet_eq_false_iff _ _))

theorem isEmpty_delta_iff :
    (delta desired observed).isEmpty = true ↔
      desired.tags = observed.spec.tags ∧ VpcsAgree desired observed ∧
        RecordAgrees desired observed := by
  have vpcs := Delta.unordered_eq_false_iff (desired.associations.map RuleAssociation.vpcId)
    (observed.spec.associations.map RuleAssociation.vpcId)
  have endpoints := Delta.ifSet_eq_false_iff desired.resolverEndpointId
    observed.spec.resolverEndpointId
  simp only [delta, Delta.compare, Delta.compareKeys, Delta.compareUnordered, Delta.compareIfSet,
    Delta.isEmpty_record, Delta.isEmpty_empty, Bool.true_and, Bool.and_eq_true,
    Bool.not_eq_true'] at vpcs endpoints ⊢
  rw [vpcs, endpoints]
  simp only [decide_eq_false_iff_not, ne_eq, Classical.not_not, and_assoc]
  rfl

end Agreement

section Observation

variable {site : Site} {refusal : Call → Failure → Prop} {registry : Registry}

def ofStored (desired : RuleSpec) (record : RuleRecord) (vpcs : List String) (tags : Tags) :
    Rule where
  spec :=
    { name := record.name
      createdAt := desired.createdAt
      domainName := record.domainName
      ruleType := record.ruleType
      resolverEndpointId := record.resolverEndpointId
      resolverEndpointRef := desired.resolverEndpointRef
      targetIps := record.targetIps
      associations := vpcs.map RuleAssociation.mk
      tags }
  status := statusOf record

@[simp]
theorem map_vpcId_ofStored (desired : RuleSpec) (record : RuleRecord) (vpcs : List String)
    (tags : Tags) :
    (ofStored desired record vpcs tags).spec.associations.map RuleAssociation.vpcId = vpcs := by
  rw [ofStored, List.map_map]
  exact List.map_id _

def found (desired : RuleSpec) (registry : Registry) (id : String) : Option Rule := do
  let record ← registry.rules.get? id
  let tags ← registry.tags.get? record.arn
  pure (ofStored desired record (registry.associatedVpcs id) tags)

theorem found_eq (desired : RuleSpec) {id : String} {record : RuleRecord} {tags : Tags}
    (held : registry.rules.get? id = some record)
    (tagged : registry.tags.get? record.arn = some tags) :
    found desired registry id =
      some (ofStored desired record (registry.associatedVpcs id) tags) := by
  simp [found, held, tagged]

theorem held_of_found {desired : RuleSpec} {id : String} {observed : Rule}
    (same : found desired registry id = some observed) :
    ∃ record tags, registry.rules.get? id = some record ∧
      registry.tags.get? record.arn = some tags ∧
      observed = ofStored desired record (registry.associatedVpcs id) tags := by
  simp only [found, Option.bind_eq_bind, Option.bind_eq_some_iff] at same
  obtain ⟨record, held, tags, tagged, same⟩ := same
  exact ⟨record, tags, held, tagged, (Option.some.inj same).symm⟩

theorem always_listAssociations (id : String) (token : Option String) :
    (ask (.listAssociations id token)).outcome.Always (Answered site refusal) (fun reply after =>
      after = registry ∧ (reply = paginate site.pageSize (registry.associationsOf id) token ∨
        ∃ failure, reply = .error failure ∧ Refused refusal failure)) registry :=
  always_look (.listAssociations id token) _ (fun _ => rfl) ⟨rfl, .inl rfl⟩
    fun failure refused => ⟨rfl, .inr ⟨failure, rfl, _, refused⟩⟩

theorem always_observeId (valid : registry.Valid site) (sized : 0 < site.pageSize)
    (room : registry.serial ≤ Walk.pageLimit) (desired : RuleSpec) (id : String) :
    (observeId desired id).outcome.Always (Answered site refusal) (fun reply after =>
      after = registry ∧ (reply = .ok (found desired registry id) ∨
        ∃ failure, Refused refusal failure ∧ (reply = .ok none ∨ reply = .error failure)))
      registry := by
  refine (Program.always_bind _ _ _ _).2 (always_look (.getRule id) (registry.rule id)
    (fun now => rfl) ?_ ?_)
  · cases held : registry.rules.get? id with
    | none =>
      have missing : registry.rule id = .error (missingRule id) := by simp [Registry.rule, held]
      rw [missing]
      exact ⟨rfl, .inl (by simp [found, held])⟩
    | some record =>
      obtain ⟨tags, tagged⟩ := valid.tags_of_rule held
      have known : registry.rule id = .ok record := Registry.rule_eq_ok_iff.2 held
      have short : (registry.associationsOf id).length ≤ Walk.pageLimit :=
        Nat.le_trans (List.length_filter_le _ _) (Nat.le_trans valid.listed room)
      rw [known, found_eq desired held tagged]
      refine (Attempt.always_outcome_bind _ _ _ _).2
        ((Walk.always_collect sized (always_listAssociations id) short).imp ?_)
      rintro _ _ ⟨rfl, rfl | ⟨failure, rfl, why⟩⟩
      · refine (Attempt.always_outcome_bind _ _ _ _).2 ((always_fetch tagged).imp ?_)
        rintro reply _ ⟨rfl, fetched⟩
        cases reply with
        | ok observed =>
          subst fetched
          refine (Attempt.always_outcome_pure _ _ _).2 ⟨rfl, .inl ?_⟩
          rw [ofStored, Registry.associatedVpcs, List.map_map]
          rfl
        | error failure => exact ⟨rfl, .inr ⟨failure, fetched, .inr rfl⟩⟩
      · exact ⟨rfl, .inr ⟨failure, why, .inr rfl⟩⟩
  · intro failure refused
    show _ ∧ _
    refine ⟨rfl, .inr ⟨failure, ⟨_, refused⟩, ?_⟩⟩
    cases failure.isNotFound with
    | true => exact .inl rfl
    | false => exact .inr rfl

theorem always_observe (valid : registry.Valid site) (sized : 0 < site.pageSize)
    (room : registry.serial ≤ Walk.pageLimit) (desired : RuleSpec) (last : Option Rule) :
    (observe desired last).outcome.Always (Answered site refusal) (fun reply after =>
      after = registry ∧ (reply = .ok ((last.bind id?).bind (found desired registry)) ∨
        ∃ failure, Refused refusal failure ∧ (reply = .ok none ∨ reply = .error failure)))
      registry := by
  unfold observe
  cases last.bind id? with
  | none => exact ⟨rfl, .inl rfl⟩
  | some id => exact always_observeId valid sized room desired id

end Observation

end Resolver.Rule

end Converge
