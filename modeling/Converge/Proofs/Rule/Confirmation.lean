import Converge.Proofs.Rule.Passes

/-! What a pass over a rule is worth that has settled. The registry then holds what is desired,
unless the rule was not made by the pass but answered for by a token that was known before, or a
detachment failed as if there was nothing to detach. -/
namespace Converge.Resolver.Rule

open Converge.Provider

variable {site : Site} {refusal : Call → Failure → Prop} {registry : Registry} {id : String}
  {record : RuleRecord} {tags : Tags} {desired : RuleSpec} {last : Option Rule} {token : Token}

/-- What the registry holds under the id may stay as it is, and is as desired. -/
def Holds (desired : RuleSpec) (registry : Registry) (id : String) : Prop :=
  ∃ kept ∈ found desired registry id, ruleManager.Accepts desired kept

def Kept (desired : RuleSpec) (registry : Registry) (observed : Option Rule) : Prop :=
  ∃ id, observed.bind id? = some id ∧ Holds desired registry id

theorem Kept.confirms {world : World} {observed : Option Rule}
    (kept : Kept desired world.registry observed) (reached : world.Reachable)
    (room : world.registry.HasRoom 0) : ruleManager.Confirms desired observed world := by
  obtain ⟨valid, sized⟩ := reached.valid
  obtain ⟨id, named, seen, there, accepts⟩ := kept
  refine Manager.confirms_of_always (always_observe valid sized room.serial_le desired observed) ?_
    accepts
  rw [named]
  exact there

structure Begun (desired : RuleSpec) (registry : Registry) (id : String) (record : RuleRecord) :
    Prop where
  held : registry.rules.get? id = some record
  tagged : registry.tags.get? record.arn = some desired.tags
  domain : sameDomain desired.domainName record.domainName = true
  ruleType : desired.ruleType = record.ruleType
  name : desired.name = record.name
  targetIps : desired.targetIps = record.targetIps
  endpoint : ∀ endpointId ∈ desired.resolverEndpointId,
    record.resolverEndpointId = some endpointId
  vpcs : ∀ vpc ∈ registry.associatedVpcs id, vpc ∈ desired.vpcs

theorem Begun.holds (begun : Begun desired registry id record)
    (complete : ∀ vpc ∈ desired.vpcs, vpc ∈ registry.associatedVpcs id) :
    Holds desired registry id := by
  refine ⟨_, found_eq desired begun.held begun.tagged, ?_, ?_⟩
  · exact (checkImmutable_eq_ok_iff _ _).2 ⟨begun.domain, begun.ruleType⟩
  · refine (isEmpty_delta_iff _ _).2
      ⟨rfl, fun vpc => ?_, begun.name, begun.targetIps, begun.endpoint⟩
    rw [map_vpcId_ofStored]
    exact ⟨complete vpc, begun.vpcs vpc⟩

def TokenBegun (desired : RuleSpec) (registry : Registry) (token : Token) : Prop :=
  ∀ entry, registry.ruleTokens.get? token.text = some entry →
    ∃ record, Begun desired registry entry.id record

theorem always_update_kept (honest : Honest refusal) (valid : registry.Valid site)
    (held : registry.rules.get? id = some record)
    (tagged : registry.tags.get? record.arn = some tags) :
    (ruleManager.part desired (Pass.update [associationsPath] (ofStored desired record
      (registry.associatedVpcs id) tags))).Always (Answered site refusal)
      (fun result after => result.ending = .settled → Kept desired after result.observed)
      registry := by
  let seen := ofStored desired record (registry.associatedVpcs id) tags
  by_cases agree : RecordAgrees desired seen
  · cases immutable : checkImmutable desired seen with
    | error failure =>
      refine (Manager.always_update _ _).2 ?_
      rw [show ruleManager.checkImmutable desired _ = .error failure from immutable]
      exact nofun
    | ok =>
      obtain ⟨domain, ruleType⟩ := (checkImmutable_eq_ok_iff _ _).1 immutable
      refine (always_update_of_found honest valid held tagged immutable
        fun disagree => absurd agree disagree).imp ?_
      rintro result after (⟨failure, -, failed⟩ |
        ⟨named, -, -, retagged, members, new, kept, patched⟩) settled
      · cases failed.symm.trans settled
      · have begun : Begun desired after id new :=
          { held := kept
            tagged := patched.arn ▸ retagged
            domain := patched.domainName ▸ domain
            ruleType := ruleType.trans patched.ruleType.symm
            name := patched.name.symm
            targetIps := patched.targetIps.symm
            endpoint := patched.endpoint
            vpcs := fun vpc => (members vpc).1 }
        exact ⟨id, named, begun.holds fun vpc => (members vpc).2⟩
  · exact (always_update_of_disagree agree).imp fun result after unsettled settled =>
      absurd settled unsettled

/-- What a new rule is asked for with. Its associations come later. -/
def sentRequest (desired : RuleSpec) (token : Token) : RuleRequest where
  creatorRequestId := token.text
  name := desired.name
  domainName := desired.domainName
  ruleType := desired.ruleType
  resolverEndpointId := desired.resolverEndpointId
  targetIps := desired.targetIps
  tags := desired.tags.toTags

theorem begun_newRule (valid : registry.Valid site) (now : Timestamp) :
    let (record, after) := registry.newRule site now (sentRequest desired token)
    Begun desired (after.addRule record (Tags.ofTags desired.tags.toTags)) record.id record where
  held := (NameMap.get?_insert _ _ _ _).trans (if_pos rfl)
  tagged := by
    refine (NameMap.get?_insert _ _ _ _).trans ((if_pos rfl).trans ?_)
    exact congrArg some (Tags.ofTags_toTags desired.tags)
  domain := decide_eq_true rfl
  ruleType := rfl
  name := rfl
  targetIps := rfl
  endpoint _ asked := asked
  vpcs vpc there := by
    obtain ⟨association, member, rule, -⟩ := (Registry.mem_associatedVpcs_iff _ _ _).1 there
    obtain ⟨old, held⟩ := Option.ne_none_iff_exists'.1 (valid.owned association member)
    refine absurd rule ?_
    exact (valid.rule _ old held).issued.ne_idText _ (Nat.lt_succ_self registry.serial)

theorem always_create_begun (valid : registry.Valid site)
    (fits : TokenBegun desired registry token) :
    (create desired token).outcome.Always (Answered site refusal) (fun reply after =>
      match reply with
      | .error _ => True
      | .ok created => after.Valid site ∧ created.spec.associations = [] ∧
          ∃ id, created.id? = some id ∧ ∃ record, Begun desired after id record) registry := by
  refine (Attempt.always_outcome_bind _ _ _ _).2 (always_ask
    (.createRule (sentRequest desired token)) (fun now value after done => ?_)
    (fun now failure _ => trivial) fun failure _ => trivial)
  have kept := (Registry.perform_valid valid now (.createRule (sentRequest desired token)) done).1
  refine (Attempt.always_outcome_pure _ _ _).2 ⟨kept, rfl, value.id, rfl, ?_⟩
  cases known : registry.ruleTokens.get? token.text with
  | none =>
    obtain ⟨-, rfl, rfl⟩ := (Registry.createRule_of_unknown known).1 done
    exact ⟨_, begun_newRule valid now⟩
  | some entry =>
    obtain ⟨-, rfl, held⟩ := (Registry.createRule_of_known known).1 done
    rw [(valid.rule entry.id value held).keyed]
    exact fits entry known

theorem always_afterCreate_kept {created : Rule} (honest : Honest refusal)
    (valid : registry.Valid site) (named : created.id? = some id)
    (bare : created.spec.associations = []) (begun : Begun desired registry id record) :
    (afterCreate desired created).Always (Answered site refusal) (fun applied after =>
      applied.failure = none → Kept desired after (some applied.observed)) registry := by
  unfold afterCreate
  split
  · next nothing =>
    refine (Program.always_pure _ _ _).2 fun _ => ⟨id, named, begun.holds fun vpc wanted => ?_⟩
    rw [RuleSpec.vpcs, List.isEmpty_iff.1 nothing] at wanted
    cases wanted
  · have live : registry.Live id .rule := Option.ne_none_iff_exists'.2 ⟨record, begun.held⟩
    refine (always_syncAssociations honest valid live named).imp ?_
    intro applied after synced failed
    simp only [failed, RuleSpec.vpcs, bare, List.map_nil, List.not_mem_nil, not_false_eq_true,
      and_true, false_and] at synced
    obtain ⟨status, rearranged, -, members⟩ := synced
    have complete : Begun desired after id record :=
      { begun with
        held := rearranged.rules ▸ begun.held
        tagged := rearranged.tags ▸ begun.tagged
        vpcs := fun vpc there =>
          ((members vpc).1 there).elim (begun.vpcs vpc) fun wanted => wanted }
    refine ⟨id, ?_, complete.holds fun vpc wanted => (members vpc).2 (.inr wanted)⟩
    exact (congrArg RuleStatus.id status).trans named

theorem always_pass_kept (honest : Honest refusal) (valid : registry.Valid site)
    (sized : 0 < site.pageSize) (room : registry.serial ≤ Walk.pageLimit) :
    (ruleManager.pass desired token last).Always (Answered site refusal)
      (fun result after => result.ending = .settled →
        (result.changes.created = true → TokenBegun desired registry token) →
        Kept desired after result.observed) registry := by
  refine Manager.always_pass_of_steps ruleManager desired (TokenBegun desired registry token)
    (Refused refusal) (fun observed after => Kept desired after observed)
    (always_observe valid sized room desired last) ?_ ?_
  · intro observed finds
    obtain ⟨id, -, there⟩ := Option.bind_eq_some_iff.1 finds
    obtain ⟨record, tags, held, tagged, rfl⟩ := held_of_found there
    obtain ⟨rfl⟩ : record.id = id := (valid.rule id record held).keyed
    exact always_update_kept honest valid held tagged
  · intro fits
    refine (always_create_begun valid fits).imp fun reply after given => ?_
    cases reply with
    | error failure => trivial
    | ok created =>
      obtain ⟨valid, bare, id, named, record, begun⟩ := given
      exact always_afterCreate_kept honest valid named bare begun

end Converge.Resolver.Rule
