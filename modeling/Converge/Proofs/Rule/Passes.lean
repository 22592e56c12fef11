import Converge.Proofs.Reconcile
import Converge.Proofs.Rule.Associations

/-! A pass over a rule that was found. Tags come first, then associations, then the record, and only
a change of the record has to be read back. -/
namespace Converge.Resolver.Rule

open Converge.Provider

variable {site : Site} {refusal : Call → Failure → Prop} {registry : Registry} {id : String}
  {record : RuleRecord} {vpcs : List String} {tags : Tags} {desired : RuleSpec} {observed : Rule}
  {changes : Changes}

theorem always_syncTags (tagged : registry.tags.get? record.arn = some tags) :
    (syncTags desired (ofStored desired record vpcs tags)).outcome.Always (Answered site refusal)
      (fun reply after => match reply with
        | .ok updated => updated = ofStored desired record vpcs desired.tags ∧
            after = registry.withTags record.arn desired.tags
        | .error failure => Refused refusal failure) registry := by
  refine (Attempt.always_outcome_bind _ _ _ _).2 ?_
  refine (Attempt.always_outcome_ofExcept _ _ _).2 ?_
  refine (Attempt.always_outcome_bind _ _ _ _).2 ((always_sync tagged desired.tags).imp ?_)
  intro reply after synced
  cases reply with
  | error failure => exact synced
  | ok plan => exact ⟨rfl, synced⟩

def sentUpdate (desired : RuleSpec) : RuleUpdate :=
  ⟨some desired.name, desired.resolverEndpointId, some desired.targetIps⟩

structure Allowed (desired : RuleSpec) (registry : Registry) (record : RuleRecord) : Prop where
  live : ∀ endpointId ∈ desired.resolverEndpointId, registry.Live endpointId .endpoint
  targets : record.ruleType = .forward → desired.targetIps ≠ []

theorem always_update (held : registry.rules.get? id = some record)
    (named : observed.id? = some id) (allowed : Allowed desired registry record) :
    (update desired observed).outcome.Always (Answered site refusal)
      (fun reply after => match reply with
        | .ok updated => ∃ now, let new := Registry.updatedRule now (sentUpdate desired) record
            updated.status = statusOf new ∧
              after = { registry with rules := registry.rules.insert id new }
        | .error failure => Refused refusal failure) registry := by
  unfold update
  rw [named]
  refine (Attempt.always_outcome_bind _ _ _ _).2 ?_
  refine (Attempt.always_outcome_ofExcept _ _ _).2 ?_
  refine (Attempt.always_outcome_bind _ _ _ _).2 ?_
  refine always_succeed (.updateRule id (sentUpdate desired)) (fun now => ?_)
    fun failure refused => ⟨_, refused⟩
  have fits : ¬(record.ruleType = .forward ∧ (sentUpdate desired).targetIps = some []) :=
    fun ⟨forward, bare⟩ => allowed.targets forward (Option.some.inj bare)
  exact ⟨_, _, Registry.updateRule_eq_ok_iff.2 ⟨allowed.live, record, held, fits, rfl, rfl⟩,
    now, rfl, rfl⟩

structure Patched (desired : RuleSpec) (record new : RuleRecord) : Prop where
  arn : new.arn = record.arn
  domainName : new.domainName = record.domainName
  ruleType : new.ruleType = record.ruleType
  name : new.name = desired.name
  targetIps : new.targetIps = desired.targetIps
  endpoint : ∀ endpointId ∈ desired.resolverEndpointId, new.resolverEndpointId = some endpointId

theorem patched_updatedRule (now : Timestamp) :
    Patched desired record (Registry.updatedRule now (sentUpdate desired) record) where
  arn := rfl
  domainName := rfl
  ruleType := rfl
  name := rfl
  targetIps := rfl
  endpoint endpointId asked := by
    show (desired.resolverEndpointId <|> record.resolverEndpointId) = some endpointId
    rw [Option.mem_def.1 asked]
    rfl

theorem ending_finished (changes : Changes) (complete : record.status = .complete)
    (reported : observed.status = statusOf record) :
    (ruleManager.finished observed changes).ending =
      if changes.primary then .stale else .settled := by
  have done : settled observed = true := by
    rw [settled, reported, statusOf, complete]
    rfl
  show (if changes.primary then PassEnding.stale
    else if settled observed then .settled else .unsettled) = _
  rw [done, if_pos rfl]

theorem always_updatePrimary (refusal : Call → Failure → Prop) (desired : RuleSpec)
    (vpcs : List String) (tags : Tags) (observed : Rule) (changes : Changes)
    (valid : registry.Valid site) (held : registry.rules.get? id = some record)
    (reported : observed.status = statusOf record)
    (untouched : changes.primary = false)
    (allowed : ¬RecordAgrees desired (ofStored desired record vpcs tags) →
      Allowed desired registry record) :
    (ruleManager.part desired (Pass.updatePrimary [associationsPath]
      (delta desired (ofStored desired record vpcs tags)) observed changes)).Always
      (Answered site refusal) (fun result after => result.StoppedBy refusal ∨
        (result.observed.bind id? = some id ∧
          result.ending = (if (delta desired (ofStored desired record vpcs tags)).differentExcept
            [tagsPath, associationsPath] then .stale else .settled) ∧
          after.tags = registry.tags ∧ after.associations = registry.associations ∧
          after.serial = registry.serial ∧
          ∃ new, after.rules.get? id = some new ∧ Patched desired record new)) registry := by
  have keyed := (valid.rule id record held).keyed
  have complete := (valid.rule id record held).complete
  have named : observed.id? = some id := by
    rw [id?, reported]
    exact congrArg some keyed
  refine Manager.always_updatePrimary _ _ _ _ |>.2 ?_
  split
  · next differs =>
    have disagree : ¬RecordAgrees desired (ofStored desired record vpcs tags) := fun agrees => by
      rw [(differentExcept_eq_false_iff _ _).2 agrees] at differs
      cases differs
    refine (always_update held named (allowed disagree)).imp fun reply after given => ?_
    cases reply with
    | error failure => exact .inl ⟨failure, given, rfl⟩
    | ok updated =>
      obtain ⟨now, status, rfl⟩ := given
      have finished : (Registry.updatedRule now (sentUpdate desired) record).status = .complete :=
        complete
      have ending := ending_finished { changes with primary := true } finished status
      refine .inr ⟨?_, ending, rfl, rfl, rfl, _, (NameMap.get?_insert _ _ _ _).trans (if_pos rfl),
        patched_updatedRule now⟩
      show updated.status.id = some id
      rw [status]
      exact congrArg some keyed
  · next same =>
    have agrees := (differentExcept_eq_false_iff desired (ofStored desired record vpcs tags)).1
      (Bool.eq_false_iff.2 same)
    have ending := ending_finished changes complete reported
    rw [untouched] at ending
    exact .inr ⟨named, ending, rfl, rfl, rfl, record, held, rfl, rfl, rfl, agrees.1.symm,
      agrees.2.1.symm, agrees.2.2⟩

theorem always_update_of_disagree {σ : Type} {answers : Answers Call Call.Reply σ} {state : σ}
    (disagree : ¬RecordAgrees desired observed) :
    (ruleManager.part desired (Pass.update [associationsPath] observed)).Always answers
      (fun result _ => result.ending ≠ .settled) state := by
  have differs : (delta desired observed).differentExcept [tagsPath, associationsPath] = true :=
    Bool.ne_false_iff.1 fun same => disagree ((differentExcept_eq_false_iff _ _).1 same)
  have primary : ∀ (seen : Rule) changes state,
      (ruleManager.part desired (Pass.updatePrimary [associationsPath] (delta desired observed) seen
        changes)).Always answers (fun result _ => result.ending ≠ .settled) state := by
    intro seen changes state
    refine (Manager.always_updatePrimary _ _ _ _).2 ?_
    rw [if_pos differs]
    refine .of_forall fun reply after => ?_
    cases reply <;> exact nofun
  have collections : ∀ (seen : Rule) changes state,
      (ruleManager.part desired (Pass.updateCollections [associationsPath] (delta desired observed)
        seen changes)).Always answers (fun result _ => result.ending ≠ .settled) state := by
    intro seen changes state
    refine (Manager.always_updateCollections _ _ _ _).2 ?_
    split
    · refine .of_forall fun applied after => ?_
      cases failed : applied.failure with
      | some failure => exact nofun
      | none => exact primary _ _ _
    · exact primary _ _ _
  refine (Manager.always_update _ _).2 ?_
  split
  · exact nofun
  · have some : ¬(ruleManager.delta desired observed).isEmpty = true :=
      fun none => disagree ((isEmpty_delta_iff desired _).1 none).2.2
    rw [if_neg some]
    refine (Manager.always_updateTags _ _ _).2 ?_
    split
    · refine .of_forall fun reply after => ?_
      cases reply with
      | error failure => exact nofun
      | ok updated => exact collections _ _ _
    · exact collections _ _ _

theorem always_updateTags {paths : List String} {post : PassResult Rule → Registry → Prop}
    (tagged : registry.tags.get? record.arn = some tags)
    (next : ∀ changed,
      (ruleManager.part desired (Pass.updateCollections paths
        (delta desired (ofStored desired record vpcs tags))
        (ofStored desired record vpcs desired.tags) { Changes.none with tags := changed })).Always
        (Answered site refusal) post (registry.withTags record.arn desired.tags))
    (stopped : ∀ result after, result.StoppedBy refusal → post result after) :
    (ruleManager.part desired (Pass.updateTags paths
      (delta desired (ofStored desired record vpcs tags))
      (ofStored desired record vpcs tags))).Always (Answered site refusal) post registry := by
  refine Manager.always_updateTags_of_synced _ _ _ ((always_syncTags tagged).imp
    fun reply after given => ?_) (fun same => ?_) next
    fun failure result after refused failed => stopped result after ⟨failure, refused, failed⟩
  · cases reply <;> exact given
  have here : desired.tags = tags := (differentAt_tags desired _).1 same
  rw [here, Registry.withTags_self tagged]
  exact ⟨rfl, rfl⟩

structure Reformed (desired : RuleSpec) (id : String) (before : Registry) (record : RuleRecord)
    (tags : Tags) (result : PassResult Rule) (after : Registry) : Prop where
  named : result.observed.bind id? = some id
  ending : result.ending =
    if (delta desired (ofStored desired record (before.associatedVpcs id) tags)).differentExcept
      [tagsPath, associationsPath] then .stale else .settled
  serial : after.serial ≤ before.serial + desired.associations.length
  tagged : after.tags.get? record.arn = some desired.tags
  vpcs : ∀ vpc, vpc ∈ after.associatedVpcs id ↔ vpc ∈ desired.vpcs
  patched : ∃ new, after.rules.get? id = some new ∧ Patched desired record new

theorem always_updateCollections_of_found (honest : Honest refusal) (valid : registry.Valid site)
    (held : registry.rules.get? id = some record)
    (tagged : registry.tags.get? record.arn = some tags)
    (allowed : ¬RecordAgrees desired (ofStored desired record (registry.associatedVpcs id) tags) →
      Allowed desired registry record) (changed : Bool) :
    (ruleManager.part desired (Pass.updateCollections [associationsPath]
      (delta desired (ofStored desired record (registry.associatedVpcs id) tags))
      (ofStored desired record (registry.associatedVpcs id) desired.tags)
      { Changes.none with tags := changed })).Always (Answered site refusal) (fun result after =>
        result.StoppedBy refusal ∨ Reformed desired id registry record tags result after)
      (registry.withTags record.arn desired.tags) := by
  let seen := ofStored desired record (registry.associatedVpcs id) tags
  let retagged := ofStored desired record (registry.associatedVpcs id) desired.tags
  have valid : (registry.withTags record.arn desired.tags).Valid site :=
    valid.retag (Option.ne_none_iff_exists'.2 ⟨tags, tagged⟩) desired.tags
  have keyed := (valid.rule id record held).keyed
  have bound := (Registry.get?_withTags registry record.arn record.arn desired.tags).trans
    (if_pos rfl)
  refine (Manager.always_updateCollections _ _ _ _).2 ?_
  split
  · have live : (registry.withTags record.arn desired.tags).Live id .rule :=
      Option.ne_none_iff_exists'.2 ⟨record, held⟩
    have synced := always_syncAssociations_of_seen desired retagged honest valid live
      (congrArg some keyed) (map_vpcId_ofStored _ _ _ _)
    refine synced.imp fun applied middle done => ?_
    cases failed : applied.failure with
    | some failure =>
      simp only [failed] at done
      exact .inl ⟨failure, done, rfl⟩
    | none =>
      simp only [failed] at done
      obtain ⟨status, rearranged, serial, members⟩ := done
      have patches := always_updatePrimary refusal desired (registry.associatedVpcs id) tags
        applied.observed { Changes.none with tags := changed, collections := applied.changed }
        rearranged.valid (rearranged.rules ▸ held) status rfl fun disagree =>
          ⟨fun endpointId asked => by
            rw [Registry.Live, rearranged.endpoints]
            exact (allowed disagree).live endpointId asked, (allowed disagree).targets⟩
      refine patches.imp fun result after given => given.imp_right ?_
      rintro ⟨named, ending, sameTags, sameAssociations, sameSerial, patched⟩
      refine ⟨named, ending, sameSerial ▸ serial, ?_, fun vpc => ?_, patched⟩
      · rw [sameTags, rearranged.tags]
        exact bound
      · rw [Registry.associatedVpcs, Registry.associationsOf, sameAssociations]
        exact members vpc
  · next same =>
    have agrees := (differentAt_associations desired seen).1 (Bool.eq_false_iff.2 same)
    have patches := always_updatePrimary refusal desired (registry.associatedVpcs id) tags retagged
      { Changes.none with tags := changed } valid held rfl rfl
      fun disagree => ⟨(allowed disagree).live, (allowed disagree).targets⟩
    refine patches.imp fun result after given => given.imp_right ?_
    rintro ⟨named, ending, sameTags, sameAssociations, sameSerial, patched⟩
    refine ⟨named, ending, sameSerial ▸ Nat.le_add_right _ _, ?_, fun vpc => ?_, patched⟩
    · rw [sameTags]
      exact bound
    · have mem := agrees vpc
      rw [map_vpcId_ofStored] at mem
      rw [Registry.associatedVpcs, Registry.associationsOf, sameAssociations]
      exact mem.symm

theorem always_update_of_found (honest : Honest refusal) (valid : registry.Valid site)
    (held : registry.rules.get? id = some record)
    (tagged : registry.tags.get? record.arn = some tags)
    (immutable : checkImmutable desired (ofStored desired record (registry.associatedVpcs id)
      tags) = .ok ())
    (allowed : ¬RecordAgrees desired (ofStored desired record (registry.associatedVpcs id) tags) →
      Allowed desired registry record) :
    (ruleManager.part desired (Pass.update [associationsPath] (ofStored desired record
      (registry.associatedVpcs id) tags))).Always (Answered site refusal) (fun result after =>
        result.StoppedBy refusal ∨ Reformed desired id registry record tags result after)
      registry := by
  let seen := ofStored desired record (registry.associatedVpcs id) tags
  refine (Manager.always_update _ _).2 ?_
  rw [show ruleManager.checkImmutable desired seen = .ok () from immutable]
  simp only
  split
  · next same =>
    obtain ⟨sameTags, sameVpcs, agrees⟩ := (isEmpty_delta_iff desired seen).1 same
    have stored := valid.rule id record held
    refine .inr
      { named := congrArg some stored.keyed
        ending := ?_
        serial := Nat.le_add_right _ _
        tagged := tagged.trans (congrArg some sameTags.symm)
        vpcs := fun vpc => ?_
        patched := ⟨record, held, rfl, rfl, rfl, agrees.1.symm, agrees.2.1.symm, agrees.2.2⟩ }
    · rw [(differentExcept_eq_false_iff desired seen).2 agrees]
      exact ending_finished .none stored.complete rfl
    · have mem := sameVpcs vpc
      rw [map_vpcId_ofStored] at mem
      exact mem.symm
  · exact always_updateTags tagged
      (always_updateCollections_of_found honest valid held tagged allowed)
      fun result after stopped => .inl stopped

end Converge.Resolver.Rule
