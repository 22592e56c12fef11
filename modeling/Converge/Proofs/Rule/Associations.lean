import Converge.Proofs.Collections
import Converge.Proofs.Rule.Snapshot

/-! The associations of a rule. Records that are being deleted stay in the listing, but of the
records for one network only the last can be active, and it is the last that is retired. So a
network is associated after a call exactly if it was before, apart from the one that the call
names. -/
namespace Converge

open Provider Resolver

namespace Provider.Registry

variable {site : Site} {registry : Registry} {ruleId vpcId : String}

theorem mem_associatedVpcs_iff (registry : Registry) (ruleId vpc : String) :
    vpc ∈ registry.associatedVpcs ruleId ↔
      ∃ association ∈ registry.associations, association.ruleId = ruleId ∧
        association.vpcId = vpc ∧ isActive association = true := by
  simp only [associatedVpcs, associationsOf, List.mem_map, List.mem_filter, decide_eq_true_eq]
  constructor
  · rintro ⟨association, ⟨⟨member, rule⟩, active⟩, vpc⟩
    exact ⟨association, member, rule, vpc, active⟩
  · rintro ⟨association, member, rule, vpc, active⟩
    exact ⟨association, ⟨⟨member, rule⟩, active⟩, vpc⟩

theorem associateRule_succeeds (vpcId : String) (live : registry.Live ruleId .rule) :
    ∃ association after, registry.associateRule ruleId vpcId = .ok (association, after) := by
  obtain ⟨record, held⟩ := Option.ne_none_iff_exists'.1 live
  simp only [associateRule, bind_eq_ok_iff, rule_eq_ok_iff]
  cases registry.associations.find? _ with
  | some association => exact ⟨association, registry, record, held, rfl⟩
  | none => exact ⟨_, _, record, held, rfl⟩

theorem mem_associatedVpcs_associate {association : AssociationRecord} {after : Registry}
    (done : registry.associateRule ruleId vpcId = .ok (association, after)) (vpc : String) :
    vpc ∈ after.associatedVpcs ruleId ↔ vpc ∈ registry.associatedVpcs ruleId ∨ vpc = vpcId := by
  obtain ⟨-, ⟨⟨member, rule, same, active⟩, rfl⟩ | ⟨-, -, rfl⟩⟩ := associateRule_eq_ok done
  · refine ⟨.inl, ?_⟩
    rintro (there | rfl)
    · exact there
    · exact (mem_associatedVpcs_iff _ _ _).2 ⟨association, member, rule, same, active⟩
  · have active : isActive (registry.newAssociation ruleId vpcId) = true := rfl
    simp only [mem_associatedVpcs_iff, List.mem_append, List.mem_singleton]
    constructor
    · rintro ⟨other, old | rfl, rule, same, active⟩
      · exact .inl ⟨other, old, rule, same, active⟩
      · exact .inr same.symm
    · rintro (⟨other, old, rule, same, active⟩ | rfl)
      · exact ⟨other, .inl old, rule, same, active⟩
      · exact ⟨_, .inr rfl, rfl, rfl, active⟩

theorem mem_associatedVpcs_disassociate (valid : registry.Valid site)
    {association : AssociationRecord} {after : Registry}
    (done : registry.disassociateRule ruleId vpcId = .ok (association, after)) (vpc : String) :
    vpc ∈ after.associatedVpcs ruleId ↔ vpc ∈ registry.associatedVpcs ruleId ∧ vpc ≠ vpcId := by
  obtain ⟨associations, retired, rfl⟩ := disassociateRule_eq_ok_iff.1 done
  obtain ⟨before, old, rest, shape, rule, same, last, rfl⟩ := retireLast_eq_some retired
  have ordered := valid.ordered
  rw [shape, List.pairwise_append] at ordered
  simp only [mem_associatedVpcs_iff, shape, List.mem_append, List.mem_cons]
  constructor
  · rintro ⟨other, place, otherRule, rfl, active⟩
    have apart : other.vpcId ≠ vpcId := by
      intro here
      rcases place with early | rfl | late
      · have inactive := ordered.2.2 other early old List.mem_cons_self (otherRule.trans rule.symm)
          (here.trans same.symm)
        rw [inactive] at active
        cases active
      · cases active
      · exact last other late ⟨otherRule, here⟩
    refine ⟨⟨other, ?_, otherRule, rfl, active⟩, apart⟩
    rcases place with early | rfl | late
    · exact .inl early
    · cases active
    · exact .inr (.inr late)
  · rintro ⟨⟨other, place, otherRule, rfl, active⟩, apart⟩
    refine ⟨other, ?_, otherRule, rfl, active⟩
    rcases place with early | rfl | late
    · exact .inl early
    · exact absurd same apart
    · exact .inr (.inr late)

theorem notMem_associatedVpcs_of_missing {failure : Failure}
    (missing : registry.disassociateRule ruleId vpcId = .error failure) :
    vpcId ∉ registry.associatedVpcs ruleId := by
  unfold disassociateRule at missing
  split at missing
  · cases missing
  · next none =>
    intro there
    obtain ⟨association, member, rule, vpc, -⟩ := (mem_associatedVpcs_iff _ _ _).1 there
    exact (retireLast_eq_none_iff registry.associations).1 none association member ⟨rule, vpc⟩

theorem associateRule_frame {association : AssociationRecord} {after : Registry}
    (done : registry.associateRule ruleId vpcId = .ok (association, after)) :
    after.rules = registry.rules ∧ after.endpoints = registry.endpoints ∧
      after.tags = registry.tags ∧ after.serial ≤ registry.serial + 1 := by
  obtain ⟨-, ⟨-, rfl⟩ | ⟨-, -, rfl⟩⟩ := associateRule_eq_ok done
  · exact ⟨rfl, rfl, rfl, Nat.le_succ _⟩
  · exact ⟨rfl, rfl, rfl, Nat.le_refl _⟩

end Provider.Registry

namespace Resolver.Rule

variable {site : Site} {refusal : Call → Failure → Prop} {before middle : Registry} {id : String}
  {desired : RuleSpec} {observed : Rule}

/-- No refusal pretends that an association is missing, which would count as detached. -/
def Honest (refusal : Call → Failure → Prop) : Prop :=
  ∀ ruleId vpcId failure, refusal (.disassociateRule ruleId vpcId) failure →
    failure.isNotFound = false

theorem honest_noRefusal : Honest noRefusal := fun _ _ _ never => never.elim

structure Rearranged (site : Site) (before after : Registry) : Prop where
  valid : after.Valid site
  rules : after.rules = before.rules
  endpoints : after.endpoints = before.endpoints
  tags : after.tags = before.tags

namespace Rearranged

variable {after : Registry} {vpcId : String} {association : AssociationRecord}

theorem associate (rearranged : Rearranged site before middle)
    (done : middle.associateRule id vpcId = .ok (association, after)) :
    Rearranged site before after := by
  obtain ⟨rules, endpoints, tags, -⟩ := Registry.associateRule_frame done
  refine ⟨?_, ?_, ?_, ?_⟩
  · exact (Registry.perform_valid rearranged.valid default (.associateRule id vpcId) done).1
  · exact rules.trans rearranged.rules
  · exact endpoints.trans rearranged.endpoints
  · exact tags.trans rearranged.tags

theorem disassociate (rearranged : Rearranged site before middle)
    (done : middle.disassociateRule id vpcId = .ok (association, after)) :
    Rearranged site before after := by
  have valid := (Registry.perform_valid rearranged.valid default (.disassociateRule id vpcId)
    done).1
  obtain ⟨associations, -, rfl⟩ := Registry.disassociateRule_eq_ok_iff.1 done
  exact ⟨valid, rearranged.rules, rearranged.endpoints, rearranged.tags⟩

end Rearranged

theorem always_attach (rearranged : Rearranged site before middle) (live : before.Live id .rule)
    (association : RuleAssociation) :
    ((associations id).attach association).outcome.Always (Answered site refusal)
      (fun reply after => match reply with
        | .ok _ => Rearranged site before after ∧ after.serial ≤ middle.serial + 1 ∧
            ∀ vpc, vpc ∈ after.associatedVpcs id ↔
              vpc ∈ middle.associatedVpcs id ∨ vpc = association.vpcId
        | .error failure => Refused refusal failure) middle := by
  have here : middle.Live id .rule := by
    rw [Registry.Live, rearranged.rules]
    exact live
  refine (Attempt.always_outcome_bind _ _ _ _).2 (always_ask
    (.associateRule id association.vpcId) (fun now value after done => ?_)
    (fun now failure rejected => ?_) fun failure refused => ⟨_, refused⟩)
  · exact (Attempt.always_outcome_pure _ _ _).2 ⟨rearranged.associate done,
      (Registry.associateRule_frame done).2.2.2, Registry.mem_associatedVpcs_associate done⟩
  · obtain ⟨value, after, done⟩ := Registry.associateRule_succeeds association.vpcId here
    cases done.symm.trans rejected

theorem always_detach (honest : Honest refusal) (rearranged : Rearranged site before middle)
    (vpcId : String) :
    ((associations id).detach vpcId).outcome.Always (Answered site refusal)
      (fun reply after => match reply with
        | .ok _ => Rearranged site before after ∧ after.serial = middle.serial ∧
            ∀ vpc, vpc ∈ after.associatedVpcs id ↔ vpc ∈ middle.associatedVpcs id ∧ vpc ≠ vpcId
        | .error failure => Refused refusal failure) middle := by
  refine (Attempt.always_outcome_bind _ _ _ _).2 ((Program.always_bind _ _ _ _).2 (always_ask
    (.disassociateRule id vpcId) (fun now value after done => ?_)
    (fun now failure rejected => ?_) fun failure refused => ?_))
  · refine ⟨rearranged.disassociate done, ?_,
      Registry.mem_associatedVpcs_disassociate rearranged.valid done⟩
    obtain ⟨associations, -, rfl⟩ := Registry.disassociateRule_eq_ok_iff.1 done
    rfl
  · have absent := Registry.notMem_associatedVpcs_of_missing rejected
    have missing : failure.isNotFound = true := by
      have failed : middle.disassociateRule id vpcId = .error failure := rejected
      unfold Registry.disassociateRule at failed
      split at failed
      · cases failed
      · cases failed
        exact isNotFound_missing _ _
    simp only [missing, if_true]
    refine ⟨rearranged, rfl, fun vpc => ⟨fun there => ⟨there, ?_⟩, And.left⟩⟩
    rintro rfl
    exact absent there
  · simp only [honest id vpcId failure refused]
    exact ⟨_, refused⟩

def Attaching (site : Site) (id : String) (before : Registry) (done : List RuleAssociation)
    (middle : Registry) : Prop :=
  Rearranged site before middle ∧ middle.serial ≤ before.serial + done.length ∧
    ∀ vpc, vpc ∈ middle.associatedVpcs id ↔
      vpc ∈ before.associatedVpcs id ∨ vpc ∈ done.map RuleAssociation.vpcId

def Detaching (site : Site) (id : String) (before : Registry) (desired : RuleSpec)
    (observed : Rule) (done : List String) (middle : Registry) : Prop :=
  Rearranged site before middle ∧ middle.serial ≤ before.serial + desired.associations.length ∧
    ∀ vpc, vpc ∈ middle.associatedVpcs id ↔
      (vpc ∈ before.associatedVpcs id ∨ vpc ∈ desired.vpcs ∧ vpc ∉ observed.spec.vpcs) ∧
        vpc ∉ done

theorem always_attach_next (live : before.Live id .rule) {association : RuleAssociation}
    {done : List RuleAssociation} (attached : Attaching site id before done middle) :
    ((associations id).attach association).outcome.Always (Answered site refusal)
      (fun reply after => match reply with
        | .ok _ => Attaching site id before (done ++ [association]) after
        | .error failure => Refused refusal failure) middle := by
  obtain ⟨rearranged, serial, members⟩ := attached
  refine (always_attach rearranged live association).imp fun reply after given => ?_
  cases reply with
  | error failure => exact given
  | ok aggregate =>
    obtain ⟨rearranged, grown, joined⟩ := given
    refine ⟨rearranged, ?_, fun vpc => ?_⟩
    · rw [List.length_append, List.length_singleton]
      omega
    · rw [joined, members, List.map_append, List.mem_append, or_assoc, List.map_singleton,
        List.mem_singleton]

theorem always_detach_next (honest : Honest refusal) {vpcId : String} {done : List String}
    (detached : Detaching site id before desired observed done middle) :
    ((associations id).detach vpcId).outcome.Always (Answered site refusal)
      (fun reply after => match reply with
        | .ok _ => Detaching site id before desired observed (done ++ [vpcId]) after
        | .error failure => Refused refusal failure) middle := by
  obtain ⟨rearranged, serial, members⟩ := detached
  refine (always_detach honest rearranged vpcId).imp fun reply after given => ?_
  cases reply with
  | error failure => exact given
  | ok aggregate =>
    obtain ⟨rearranged, same, left⟩ := given
    refine ⟨rearranged, same ▸ serial, fun vpc => ?_⟩
    rw [left, members, List.mem_append, List.mem_singleton, and_assoc, not_or]

theorem always_syncAssociations (honest : Honest refusal) (valid : before.Valid site)
    (live : before.Live id .rule) (named : observed.id? = some id) :
    (syncAssociations desired observed).Always (Answered site refusal) (fun applied after =>
      match applied.failure with
      | some failure => Refused refusal failure
      | none => applied.observed.status = observed.status ∧ Rearranged site before after ∧
          after.serial ≤ before.serial + desired.associations.length ∧
          ∀ vpc, vpc ∈ after.associatedVpcs id ↔
            (vpc ∈ before.associatedVpcs id ∨ vpc ∈ desired.vpcs ∧ vpc ∉ observed.spec.vpcs) ∧
              ¬(vpc ∈ observed.spec.vpcs ∧ vpc ∉ desired.vpcs)) before := by
  unfold syncAssociations
  rw [named]
  let plan := diff (associations id).key desired.associations observed.spec.associations
  have added : ∀ vpc, vpc ∈ plan.added.map RuleAssociation.vpcId ↔
      vpc ∈ desired.vpcs ∧ vpc ∉ observed.spec.vpcs :=
    mem_map_added_iff RuleAssociation.vpcId desired.associations observed.spec.associations
  have removed : ∀ vpc, vpc ∈ plan.removed ↔ vpc ∈ observed.spec.vpcs ∧ vpc ∉ desired.vpcs :=
    mem_removed_iff RuleAssociation.vpcId desired.associations observed.spec.associations
  refine (Program.always_bind _ _ _ _).2 ((Collection.always_sync
    (Attaching site id before) (Detaching site id before desired observed)
    (fun failure _ => Refused refusal failure) ?_ ?_ ?_ ?_).imp ?_)
  · refine ⟨⟨valid, rfl, rfl, rfl⟩, Nat.le_refl _, fun vpc => ?_⟩
    simp only [List.map_nil, List.not_mem_nil, or_false]
  · intro done association rest middle whole attached
    refine (always_attach_next live attached).imp fun reply after given => ?_
    cases reply <;> exact given
  · rintro middle ⟨rearranged, serial, members⟩
    have few := length_added_le RuleAssociation.vpcId desired.associations
      observed.spec.associations
    refine ⟨rearranged, Nat.le_trans serial (Nat.add_le_add_left few _), fun vpc => ?_⟩
    rw [members vpc, added vpc]
    simp only [List.not_mem_nil, not_false_eq_true, and_true]
  · intro done vpcId rest middle whole detached
    refine (always_detach_next honest detached).imp fun reply after given => ?_
    cases reply <;> exact given
  · intro progress after done
    refine (Program.always_pure _ _ _).2 ?_
    cases failed : progress.failure with
    | some failure =>
      simp only [failed] at done ⊢
      exact done
    | none =>
      simp only [failed] at done ⊢
      obtain ⟨⟨rearranged, serial, members⟩, -, -⟩ := done
      refine ⟨trivial, rearranged, serial, fun vpc => (members vpc).trans ?_⟩
      rw [removed vpc]

theorem always_syncAssociations_of_seen (desired : RuleSpec) (observed : Rule)
    (honest : Honest refusal) (valid : before.Valid site)
    (live : before.Live id .rule) (named : observed.id? = some id)
    (seen : observed.spec.vpcs = before.associatedVpcs id) :
    (syncAssociations desired observed).Always (Answered site refusal) (fun applied after =>
      match applied.failure with
      | some failure => Refused refusal failure
      | none => applied.observed.status = observed.status ∧ Rearranged site before after ∧
          after.serial ≤ before.serial + desired.associations.length ∧
          ∀ vpc, vpc ∈ after.associatedVpcs id ↔ vpc ∈ desired.vpcs) before := by
  refine (always_syncAssociations honest valid live named).imp fun applied after synced => ?_
  cases failed : applied.failure with
  | some failure =>
    simp only [failed] at synced
    exact synced
  | none =>
    simp only [failed, seen] at synced
    obtain ⟨status, rearranged, serial, members⟩ := synced
    refine ⟨status, rearranged, serial, fun vpc => (members vpc).trans ?_⟩
    rw [not_and, Classical.not_not]
    exact ⟨fun ⟨either, kept⟩ => either.elim kept And.left, fun wanted =>
      ⟨(Classical.em _).imp_right fun absent => ⟨wanted, absent⟩, fun _ => wanted⟩⟩

end Resolver.Rule

end Converge
