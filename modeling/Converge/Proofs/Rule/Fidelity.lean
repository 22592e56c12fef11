import Converge.Proofs.Provider.Holdings
import Converge.Proofs.Provider.Transcripts
import Converge.Proofs.Resumption
import Converge.Proofs.Rule.Confirmation
import Converge.Proofs.Rule.Tracking
import Converge.Proofs.Tagging

/-! What a pass over a rule returns, wherever it stops: the record and the networks that the
provider has for the rule. Associations are said to have changed exactly if a call that changes them
was carried out. -/
namespace Converge

open Provider Resolver Program

namespace Provider

/-- The call changes for which networks some rule holds. -/
def Call.isAssociating : Call → Bool
  | associateRule _ _ | disassociateRule _ _ => true
  | _ => false

def Call.createsRule : Call → Bool
  | createRule _ => true
  | _ => false

section Registry

variable {α : Type} {site : Site} {refusal : Call → Failure → Prop} {registry : Registry}

theorem always_sameRules {program : Program Call Call.Reply α}
    (asks : program.Asks fun call => call.isTagging = true) :
    program.Always (Answered site refusal) (fun _ after =>
      after.rules = registry.rules ∧ after.associations = registry.associations) registry := by
  refine Asks.always_kept (fun after : Registry =>
    after.rules = registry.rules ∧ after.associations = registry.associations) asks
    (fun call before reply after tags kept answered => ?_) ⟨rfl, rfl⟩
  cases answered with
  | rejected | refused => exact kept
  | done now done =>
    cases call with
    | tag =>
      obtain ⟨old, -, rfl⟩ := Registry.tag_eq_ok_iff.1 done
      exact kept
    | untag =>
      obtain ⟨old, -, rfl⟩ := Registry.untag_eq_ok_iff.1 done
      exact kept
    | _ => cases tags

theorem Registry.associatedVpcs_congr {after : Registry}
    (same : after.associations = registry.associations) (id : String) :
    after.associatedVpcs id = registry.associatedVpcs id := by
  rw [associatedVpcs, associatedVpcs, associationsOf, associationsOf, same]

theorem Registry.Valid.associatedVpcs_eq_nil (valid : registry.Valid site) {id : String}
    (dead : ¬registry.Live id .rule) : registry.associatedVpcs id = [] := by
  refine List.eq_nil_iff_forall_not_mem.2 fun vpc there => dead ?_
  obtain ⟨association, member, rule, -⟩ := (mem_associatedVpcs_iff _ _ _).1 there
  exact rule ▸ valid.owned association member

end Registry

end Provider

namespace Resolver.Rule

variable {site : Site} {refusal : Call → Failure → Prop} {registry before middle : Registry}
  {log : Log} {id : String} {desired : RuleSpec} {token : Token} {seen updated : Rule}
  {changes others : Changes}

structure Shown (site : Site) (id : String) (seen : Rule) (registry : Registry) : Prop where
  valid : registry.Valid site
  named : seen.id? = some id
  record : ∃ record, registry.rules.get? id = some record ∧ seen.spec.name = record.name ∧
    seen.spec.targetIps = record.targetIps ∧
    seen.spec.resolverEndpointId = record.resolverEndpointId
  vpcs : ∀ vpc, vpc ∈ seen.spec.vpcs ↔ vpc ∈ registry.associatedVpcs id

theorem Shown.live (shown : Shown site id seen registry) : registry.Live id .rule := by
  obtain ⟨record, held, -⟩ := shown.record
  exact Option.ne_none_iff_exists'.2 ⟨record, held⟩

theorem Shown.retain (shown : Shown site id seen registry) (valid : middle.Valid site)
    (rules : middle.rules = registry.rules)
    (associations : middle.associations = registry.associations) : Shown site id seen middle where
  valid
  named := shown.named
  record := rules ▸ shown.record
  vpcs vpc := by rw [Registry.associatedVpcs_congr associations, shown.vpcs]

/-- The snapshot is right, and the changes tell whether a call for networks was carried out and
whether the networks are others than before. -/
structure Faithful (site : Site) (before : Registry) (id : String) (seen : Rule)
    (changes : Changes) (after : Registry × Log) : Prop where
  shown : Shown site id seen after.1
  moved : changes.collections = true ↔ CarriedOut Call.isAssociating after.2
  differs : changes.collections = true ↔
    ¬∀ vpc, vpc ∈ after.1.associatedVpcs id ↔ vpc ∈ before.associatedVpcs id

theorem Shown.faithful (shown : Shown site id seen registry)
    (still : ¬CarriedOut Call.isAssociating log)
    (same : ∀ vpc, vpc ∈ registry.associatedVpcs id ↔ vpc ∈ before.associatedVpcs id)
    (fresh : changes.collections = false) :
    Faithful site before id seen changes (registry, log) := by
  have unset : ¬changes.collections = true := fun set => by simp [fresh] at set
  exact ⟨shown, iff_of_false unset still, iff_of_false unset (not_not_intro same)⟩

theorem Faithful.retain (faithful : Faithful site before id seen changes (middle, log))
    {after : Registry × Log} (shown : Shown site id updated after.1)
    (associations : after.1.associations = middle.associations)
    (quiet : about Call.isAssociating after.2 = about Call.isAssociating log)
    (flag : others.collections = changes.collections) :
    Faithful site before id updated others after where
  shown
  moved := by
    rw [flag, carriedOut_congr quiet]
    exact faithful.moved
  differs := by
    rw [flag, Registry.associatedVpcs_congr associations]
    exact faithful.differs

structure Syncing (site : Site) (before : Registry) (id : String) (desired : RuleSpec) (seen : Rule)
    (progress : Progress RuleAssociation String Unit) (after : Registry × Log) : Prop where
  rearranged : Rearranged site before after.1
  attached : ∀ item ∈ progress.attached, item ∈
    (diff RuleAssociation.vpcId desired.associations seen.spec.associations).added
  detached : ∀ vpc ∈ progress.detached, vpc ∈
    (diff RuleAssociation.vpcId desired.associations seen.spec.associations).removed
  vpcs : ∀ vpc, vpc ∈ (progress.mergeInto RuleAssociation.vpcId
      seen.spec.associations).map RuleAssociation.vpcId ↔ vpc ∈ after.1.associatedVpcs id
  moved : progress.changed = true ↔ CarriedOut Call.isAssociating after.2

variable {progress : Progress RuleAssociation String Unit}

theorem Syncing.fail (syncing : Syncing site before id desired seen progress (middle, log))
    (call : Call) (associates : call.isAssociating = true) (failure : Failure) :
    Syncing site before id desired seen (progress.fail failure)
      (middle, log ++ [⟨call, .error failure⟩]) := by
  refine ⟨syncing.rearranged, syncing.attached, syncing.detached, syncing.vpcs, ?_⟩
  refine syncing.moved.trans ((carriedOut_concat_iff _ _ associates).trans (or_iff_left ?_)).symm
  rintro ⟨value, same⟩
  cases same

theorem Syncing.attach (syncing : Syncing site before id desired seen progress (middle, log))
    {item : RuleAssociation} {association : AssociationRecord} {after : Registry}
    (planned : item ∈
      (diff RuleAssociation.vpcId desired.associations seen.spec.associations).added)
    (done : middle.associateRule id item.vpcId = .ok (association, after)) :
    Syncing site before id desired seen (progress.attach item none)
      (after, log ++ [⟨.associateRule id item.vpcId, .ok association⟩]) := by
  refine ⟨syncing.rearranged.associate done, ?_, syncing.detached, fun vpc => ?_, ?_⟩
  · simpa [Progress.attach, or_imp, forall_and, planned] using syncing.attached
  · have members := Registry.mem_associatedVpcs_associate done vpc
    rw [members, ← syncing.vpcs, mem_mergeInto_iff, mem_mergeInto_iff]
    simp [Progress.attach, or_assoc, eq_comm]
  · refine iff_of_true (by simp [Progress.attach, Progress.changed]) ?_
    exact (carriedOut_concat_iff _ _ rfl).2 (.inr ⟨association, rfl⟩)

theorem Syncing.notMem_attached
    (syncing : Syncing site before id desired seen progress (middle, log)) {vpcId : String}
    (planned : vpcId ∈
      (diff RuleAssociation.vpcId desired.associations seen.spec.associations).removed) :
    vpcId ∉ progress.attached.map RuleAssociation.vpcId := by
  intro attached
  obtain ⟨item, member, rfl⟩ := List.mem_map.1 attached
  have added := (mem_map_added_iff RuleAssociation.vpcId desired.associations
    seen.spec.associations item.vpcId).1 (List.mem_map_of_mem (syncing.attached item member))
  exact ((mem_removed_iff RuleAssociation.vpcId desired.associations seen.spec.associations
    item.vpcId).1 planned).2 added.1

theorem Syncing.detach (syncing : Syncing site before id desired seen progress (middle, log))
    {vpcId : String} {association : AssociationRecord} {after : Registry}
    (planned : vpcId ∈
      (diff RuleAssociation.vpcId desired.associations seen.spec.associations).removed)
    (done : middle.disassociateRule id vpcId = .ok (association, after)) :
    Syncing site before id desired seen (progress.detach vpcId none)
      (after, log ++ [⟨.disassociateRule id vpcId, .ok association⟩]) := by
  refine ⟨syncing.rearranged.disassociate done, syncing.attached, ?_, fun vpc => ?_, ?_⟩
  · simpa [Progress.detach, or_imp, forall_and, planned] using syncing.detached
  · have members := Registry.mem_associatedVpcs_disassociate syncing.rearranged.valid done vpc
    have apart : vpc ∈ progress.attached.map RuleAssociation.vpcId → vpc ≠ vpcId := by
      rintro attached rfl
      exact syncing.notMem_attached planned attached
    rw [members, ← syncing.vpcs, mem_mergeInto_iff, mem_mergeInto_iff, or_and_right, and_assoc]
    simp only [Progress.detach, List.mem_append, List.mem_singleton, not_or]
    exact or_congr_right (and_iff_left_of_imp apart).symm
  · refine iff_of_true (by simp [Progress.detach, Progress.changed]) ?_
    exact (carriedOut_concat_iff _ _ rfl).2 (.inr ⟨association, rfl⟩)

theorem always_attach_syncing (live : before.Live id .rule) {item : RuleAssociation}
    (planned : item ∈
      (diff RuleAssociation.vpcId desired.associations seen.spec.associations).added)
    (syncing : Syncing site before id desired seen progress (middle, log)) :
    ((associations id).attach item).outcome.Always (traced (Answered site refusal))
      (fun reply after => match reply with
        | .ok aggregate =>
          Syncing site before id desired seen (progress.attach item aggregate) after
        | .error failure => Syncing site before id desired seen (progress.fail failure) after)
      (middle, log) := by
  refine (Attempt.always_outcome_bind _ _ _ _).2 ?_
  rintro reply ⟨after, longer⟩ ⟨answered, record⟩
  obtain rfl : longer = log ++ [⟨.associateRule id item.vpcId, reply⟩] := record
  cases answered with
  | done now done =>
    exact (Attempt.always_outcome_pure _ _ _).2 (syncing.attach planned done)
  | rejected now rejected =>
    have here : middle.Live id .rule := by
      rw [Registry.Live, syncing.rearranged.rules]
      exact live
    obtain ⟨value, after, done⟩ := Registry.associateRule_succeeds item.vpcId here
    cases done.symm.trans rejected
  | refused => exact syncing.fail _ rfl _

theorem always_detach_syncing (honest : Honest refusal) {vpcId : String} {rest : List String}
    (planned : (diff RuleAssociation.vpcId desired.associations seen.spec.associations).removed =
      progress.detached ++ vpcId :: rest)
    (syncing : Syncing site before id desired seen progress (middle, log)) :
    ((associations id).detach vpcId).outcome.Always (traced (Answered site refusal))
      (fun reply after => match reply with
        | .ok aggregate =>
          Syncing site before id desired seen (progress.detach vpcId aggregate) after
        | .error failure => Syncing site before id desired seen (progress.fail failure) after)
      (middle, log) := by
  -- The provider has what is to be detached, so only a refusal can say that it is missing.
  have removed : vpcId ∈
      (diff RuleAssociation.vpcId desired.associations seen.spec.associations).removed := by
    simp [planned]
  refine (Attempt.always_outcome_bind _ _ _ _).2 ((always_bind _ _ _ _).2 ?_)
  rintro reply ⟨after, longer⟩ ⟨answered, record⟩
  obtain rfl : longer = log ++ [⟨.disassociateRule id vpcId, reply⟩] := record
  cases answered with
  | done now done => exact (always_pure _ _ _).2 (syncing.detach removed done)
  | rejected now rejected =>
    obtain ⟨⟨observed, -⟩, apart⟩ := of_removed_eq planned
    have there := (syncing.vpcs vpcId).1 ((mem_mergeInto_iff _).2 (.inl ⟨observed, apart⟩))
    exact absurd there (Registry.notMem_associatedVpcs_of_missing rejected)
  | @refused failure refused =>
    have missing := honest id vpcId failure refused
    refine (always_pure _ _ _).2 ?_
    simp only [missing, Bool.false_eq_true, if_false]
    exact syncing.fail (.disassociateRule id vpcId) rfl failure

theorem always_syncAssociations_faithful (honest : Honest refusal)
    (fresh : changes.collections = false)
    (faithful : Faithful site before id seen changes (middle, log)) :
    (syncAssociations desired seen).Always (traced (Answered site refusal))
      (fun applied after => Faithful site before id applied.observed
        { changes with collections := applied.changed } after) (middle, log) := by
  have shown : Shown site id seen middle := faithful.shown
  have still : ¬CarriedOut Call.isAssociating log := fun moved => by
    simp [faithful.moved.2 moved] at fresh
  have start : Syncing site middle id desired seen .none (middle, log) :=
    { rearranged := ⟨shown.valid, rfl, rfl, rfl⟩
      attached := nofun
      detached := nofun
      vpcs := fun vpc => by
        rw [mem_mergeInto_iff, ← shown.vpcs vpc]
        simp [Progress.none, RuleSpec.vpcs]
      moved := iff_of_false (by simp [Progress.none, Progress.changed]) still }
  unfold syncAssociations
  rw [shown.named]
  refine (always_bind _ _ _ _).2 ((Collection.always_sync_of_kept
    (Syncing site middle id desired seen) ?_ ?_ start).imp ?_)
  · rintro progress item rest ⟨registry, log⟩ planned syncing
    have member := planned ▸ List.mem_append_right _ List.mem_cons_self
    refine (always_attach_syncing shown.live member syncing).imp fun reply after given => ?_
    cases reply <;> exact given
  · rintro progress vpcId rest ⟨registry, log⟩ planned syncing
    refine (always_detach_syncing honest planned syncing).imp fun reply after given => ?_
    cases reply <;> exact given
  · intro progress after syncing
    have unmoved : ∀ vpc, vpc ∈ middle.associatedVpcs id ↔ vpc ∈ before.associatedVpcs id :=
      Classical.not_not.1 fun moved => by simp [faithful.differs.2 moved] at fresh
    refine (always_pure _ _ _).2 ⟨⟨syncing.rearranged.valid, shown.named, ?_, syncing.vpcs⟩,
      syncing.moved, ?_⟩
    · rw [syncing.rearranged.rules]
      exact shown.record
    · refine (changed_iff syncing.attached syncing.detached).trans (not_congr ?_)
      refine forall_congr' fun vpc => iff_congr (syncing.vpcs vpc) ?_
      exact (shown.vpcs vpc).trans (unmoved vpc)

/-- The networks are as before, and the rule is shown as it is, in a new snapshot if there is
one. -/
def Reshown (site : Site) (id : String) (seen : Rule) (registry : Registry)
    (reply : Except Failure Rule) (after : Registry) : Prop :=
  after.associations = registry.associations ∧ match reply with
    | .error _ => Shown site id seen after
    | .ok updated => Shown site id updated after

theorem always_syncTags_reshown (shown : Shown site id seen registry) :
    (syncTags desired seen).outcome.Always (Answered site refusal) (Reshown site id seen registry)
      registry := by
  have tags : (syncTags desired seen).outcome.Asks fun call => call.isTagging = true :=
    asks_syncTags (fun _ => rfl) fun _ => rfl
  refine (((always_valid _ shown.valid).and (always_sameRules tags)).and
    always_syncTags_rest).imp ?_
  rintro reply after ⟨⟨valid, rules, associations⟩, rest⟩
  have shown := shown.retain valid rules associations
  refine ⟨associations, ?_⟩
  cases reply with
  | error failure => exact shown
  | ok updated =>
    rw [rest updated rfl]
    exact ⟨shown.valid, shown.named, shown.record, shown.vpcs⟩

theorem always_update_reshown (shown : Shown site id seen registry) :
    (update desired seen).outcome.Always (Answered site refusal) (Reshown site id seen registry)
      registry := by
  unfold update
  rw [shown.named]
  refine (Attempt.always_outcome_bind _ _ _ _).2 ?_
  refine (Attempt.always_outcome_ofExcept _ _ _).2 ?_
  refine (Attempt.always_outcome_bind _ _ _ _).2 (always_ask (.updateRule id _)
    (fun now record after done => ?_) (fun now failure _ => ⟨rfl, shown⟩)
    fun failure _ => ⟨rfl, shown⟩)
  have valid := (Registry.perform_valid shown.valid now (.updateRule id _) done).1
  obtain ⟨-, old, held, -, rfl, rfl⟩ := Registry.updateRule_eq_ok_iff.1 done
  refine (Attempt.always_outcome_pure _ _ _).2 ⟨rfl, valid, ?_, ?_, shown.vpcs⟩
  · exact congrArg some (shown.valid.rule id old held).keyed
  · exact ⟨_, (NameMap.get?_insert _ _ _ _).trans (if_pos rfl), rfl, rfl, rfl⟩

theorem Faithful.always_step {step : Request Rule}
    (faithful : Faithful site before id seen changes (middle, log)) (others : Changes)
    (asks : step.outcome.Asks fun call => call.isAssociating = false)
    (reshows : step.outcome.Always (Answered site refusal) (Reshown site id seen middle) middle)
    (flag : others.collections = changes.collections) :
    step.outcome.Always (traced (Answered site refusal))
      (fun reply after => match reply with
        | .error _ => Faithful site before id seen changes after
        | .ok updated => Faithful site before id updated others after) (middle, log) := by
  refine ((reshows.traced log).and (always_about_same asks)).imp ?_
  rintro reply after ⟨⟨associations, shown⟩, quiet⟩
  cases reply with
  | error failure => exact faithful.retain shown associations quiet rfl
  | ok updated => exact faithful.retain shown associations quiet flag

theorem always_update_faithful {paths : List String} (honest : Honest refusal)
    (faithful : Faithful site before id seen .none (middle, log)) :
    (ruleManager.part desired (Pass.update paths seen)).Always (traced (Answered site refusal))
      (fun result after => ∃ seen, result.observed = some seen ∧
        Faithful site before id seen result.changes after) (middle, log) := by
  have tags : (syncTags desired seen).outcome.Asks fun call => call.isAssociating = false :=
    asks_syncTags (fun _ => rfl) fun _ => rfl
  refine Manager.always_update_of_tracked paths (Faithful site before id) ?_ ?_ ?_ faithful
  · refine (faithful.always_step { Changes.none with tags := true } tags
      (always_syncTags_reshown faithful.shown) rfl).imp fun reply after given => ?_
    cases reply <;> exact given
  · rintro seen changes delta ⟨middle, log⟩ fresh faithful
    exact always_syncAssociations_faithful honest fresh faithful
  · rintro seen changes delta ⟨middle, log⟩ faithful
    refine (faithful.always_step { changes with primary := true } (asks_update fun _ => rfl)
      (always_update_reshown faithful.shown) rfl).imp fun reply after given => ?_
    cases reply <;> exact given

theorem always_create_shown (valid : registry.Valid site)
    (unknown : registry.ruleTokens.get? token.text = none) :
    (create desired token).outcome.Always (Answered site refusal) (fun reply after =>
      ∀ created, reply = .ok created → ∃ id, Shown site id created after ∧
        after.associatedVpcs id = [] ∧ registry.associatedVpcs id = []) registry := by
  refine (Attempt.always_outcome_bind _ _ _ _).2 (always_ask
    (.createRule (sentRequest desired token)) (fun now record after done => ?_)
    (fun now failure _ created same => nomatch same) fun failure _ created same => nomatch same)
  have lasting := (Registry.perform_valid valid now (.createRule (sentRequest desired token))
    done).1
  obtain ⟨-, rfl, left⟩ := (Registry.createRule_of_unknown unknown).1 done
  refine (Attempt.always_outcome_pure _ _ _).2 fun created same => ?_
  cases same
  have dead :
      ¬registry.Live (registry.newRule site now (sentRequest desired token)).1.id .rule := by
    intro live
    obtain ⟨old, held⟩ := Option.ne_none_iff_exists'.1 live
    exact (valid.rule _ old held).issued.ne_idText _ (Nat.lt_succ_self registry.serial) rfl
  have none := valid.associatedVpcs_eq_nil dead
  have bare := (Registry.associatedVpcs_congr (congrArg Registry.associations left) _).trans none
  refine ⟨_, ⟨lasting, rfl, ?_, fun vpc => ?_⟩, bare, none⟩
  · exact ⟨_, left ▸ (begun_newRule valid now).held, rfl, rfl, rfl⟩
  · rw [bare]
    rfl

theorem always_create_told {σ : Type} {answers : Answers Call Call.Reply σ} {state : σ}
    (uncreated : ¬CarriedOut Call.createsRule log) :
    (create desired token).outcome.Always (traced answers) (fun reply after =>
      ∀ failure, reply = .error failure → ¬CarriedOut Call.createsRule after.2) (state, log) := by
  refine (Attempt.always_outcome_bind _ _ _ _).2 ?_
  rintro reply ⟨after, longer⟩ ⟨-, rfl⟩
  cases reply with
  | error failure =>
    rintro _ - created
    rcases (carriedOut_concat_iff log ⟨.createRule _, .error failure⟩ rfl).1 created with old | new
    · exact uncreated old
    · obtain ⟨record, same⟩ := new
      cases same
  | ok record => exact (Attempt.always_outcome_pure _ _ _).2 nofun

theorem always_create_faithful (honest : Honest refusal) (valid : registry.Valid site)
    (unknown : registry.ruleTokens.get? token.text = none)
    (still : ¬CarriedOut Call.isAssociating log) (uncreated : ¬CarriedOut Call.createsRule log)
    (last : Option Rule) :
    (ruleManager.part desired (Pass.create last token)).Always (traced (Answered site refusal))
      (fun result after => CarriedOut Call.createsRule after.2 → ∃ id seen,
        result.observed = some seen ∧ Faithful site registry id seen result.changes after)
      (registry, log) := by
  have asks : (create desired token).outcome.Asks fun call => call.isAssociating = false :=
    Attempt.asks_bind (asks_ask rfl) fun _ => trivial
  refine (Manager.always_create last token).2 (((((always_create_shown valid unknown).traced
    log).and (always_about_same asks)).and (always_create_told uncreated)).imp ?_)
  rintro reply ⟨middle, longer⟩ ⟨⟨made, quiet⟩, failed⟩
  cases reply with
  | error failure => exact fun created => absurd created (failed failure rfl)
  | ok created =>
    obtain ⟨id, shown, bare, none⟩ := made created rfl
    have faithful : Faithful site registry id created { Changes.none with created := true }
        (middle, longer) :=
      shown.faithful (fun moved => still ((carriedOut_congr quiet).1 moved))
        (fun vpc => by rw [bare, none]) rfl
    have attached : (afterCreate desired created).Always (traced (Answered site refusal))
        (fun applied after => Faithful site registry id applied.observed
          { Changes.none with created := true, collections := applied.changed } after)
        (middle, longer) := by
      unfold afterCreate
      split
      · exact faithful
      · exact always_syncAssociations_faithful honest rfl faithful
    refine attached.imp fun applied after faithful _ => ?_
    unfold Manager.applied
    cases applied.failure with
    | some failure => exact ⟨id, applied.observed, rfl, faithful⟩
    | none => exact ⟨id, applied.observed, rfl, faithful⟩

structure Looked (site : Site) (registry : Registry) (reply : Except Failure (Option Rule))
    (after : Registry × Log) : Prop where
  same : after.1 = registry
  still : ¬CarriedOut Call.isAssociating after.2
  uncreated : ¬CarriedOut Call.createsRule after.2
  shows : ∀ seen, reply = .ok (some seen) → ∃ id, Shown site id seen registry

theorem always_observe_looked (valid : registry.Valid site) (sized : 0 < site.pageSize)
    (room : registry.serial ≤ Walk.pageLimit) (desired : RuleSpec) (last : Option Rule) :
    (observe desired last).outcome.Always (traced (Answered site refusal)) (Looked site registry)
      (registry, []) := by
  have still : (observe desired last).outcome.Asks fun call => call.isAssociating = false :=
    asks_observe (fun _ => rfl) (fun _ _ => rfl) (fun _ => rfl) last
  have uncreated : (observe desired last).outcome.Asks fun call => call.createsRule = false :=
    asks_observe (fun _ => rfl) (fun _ _ => rfl) (fun _ => rfl) last
  refine ((((always_observe valid sized room desired last).traced []).and
    (always_about_same still)).and (always_about_same uncreated)).imp ?_
  rintro reply ⟨after, log⟩ ⟨⟨⟨same, found⟩, still⟩, uncreated⟩
  refine ⟨same, not_carriedOut_of_none still, not_carriedOut_of_none uncreated,
    fun seen shows => ?_⟩
  obtain found | ⟨failure, -, none | failed⟩ := found
  · obtain ⟨id, -, there⟩ := Option.bind_eq_some_iff.1 (Except.ok.inj (found.symm.trans shows))
    obtain ⟨record, tags, held, tagged, rfl⟩ := held_of_found there
    refine ⟨id, valid, congrArg some (valid.rule id record held).keyed,
      ⟨record, held, rfl, rfl, rfl⟩, fun vpc => ?_⟩
    rw [RuleSpec.vpcs, map_vpcId_ofStored]
  · cases none.symm.trans shows
  · cases failed.symm.trans shows

theorem always_found_faithful {paths : List String} (honest : Honest refusal)
    (looked : Looked site before (.ok (some seen)) (registry, log)) :
    (ruleManager.part desired (Pass.update paths seen)).Always (traced (Answered site refusal))
      (fun result after => ∃ id shown, seen.id? = some id ∧ result.observed = some shown ∧
        Faithful site before id shown result.changes after) (registry, log) := by
  obtain ⟨rfl, still, -, shows⟩ := looked
  obtain ⟨id, shown⟩ := shows seen rfl
  refine (always_update_faithful honest (shown.faithful still (fun _ => Iff.rfl) rfl)).imp ?_
  exact fun result after ⟨last, ends⟩ => ⟨id, last, shown.named, ends⟩

theorem always_pass_faithful (honest : Honest refusal) (valid : registry.Valid site)
    (sized : 0 < site.pageSize) (room : registry.serial ≤ Walk.pageLimit)
    (unknown : registry.ruleTokens.get? token.text = none) (last : Option Rule) :
    (ruleManager.pass desired token last).Always (traced (Answered site refusal))
      (fun result after => CarriedOut Call.createsRule after.2 → ∃ id seen,
        result.observed = some seen ∧ Faithful site registry id seen result.changes after)
      (registry, []) := by
  refine (Manager.always_pass token last).2
    ((always_observe_looked valid sized room desired last).imp ?_)
  rintro reply ⟨middle, log⟩ looked
  rcases reply with failure | none | found
  · exact fun created => absurd created looked.uncreated
  · obtain ⟨rfl, still, uncreated, -⟩ := looked
    exact always_create_faithful honest valid unknown still uncreated last
  · refine (always_found_faithful honest looked).imp ?_
    rintro result after ⟨id, seen, -, ends⟩ -
    exact ⟨id, seen, ends⟩

/-- Whatever fails in a pass over a rule, it returns the rule with its networks as the provider has
it in the end, and says that the networks have changed exactly if a call that changes them was
carried out. The rule was found, or was made under a token that was new; and no failure that was
arranged makes something seem to be missing. -/
theorem snapshot_faithful {world : World} (reached : world.Reachable)
    (room : world.registry.HasRoom 0)
    (candid : ∀ fault ∈ world.journal.faults, fault.code ≠ Failure.notFoundCode)
    (delays : PassDelays) (desired : RuleSpec) (bounds : Bounds) (last : Option Rule)
    (prior : Conditions) :
    let pass := ruleManager.reconcile delays desired bounds last prior world
    let calls := ruleManager.calls desired bounds last world
    let token := ruleManager.token desired world.now
    let look := (ruleManager.observe desired last).outcome.run (World.serve bounds) world
    (∀ found, look.1 = .ok (some found) → ∃ id seen, found.id? = some id ∧
      pass.1.observed = some seen ∧
      Faithful world.site world.registry id seen pass.1.changes (pass.2.registry, calls)) ∧
    (CarriedOut Call.createsRule calls → world.registry.ruleTokens.get? token.text = none →
      ∃ id seen, pass.1.observed = some seen ∧
        Faithful world.site world.registry id seen pass.1.changes (pass.2.registry, calls)) := by
  intro pass calls token look
  -- Only a failure that says so makes something seem to be missing.
  let refusal (_ : Call) (failure : Failure) : Prop := failure.isNotFound = false
  have cut : ∀ call failure, failure = .cancelled ∨ failure = .deadlineExceeded →
      refusal call failure := fun call failure cut => by rcases cut with rfl | rfl <;> rfl
  have faulted : ∀ fault ∈ world.journal.faults, ∀ call message,
      refusal call (.provider fault.code message) := fun fault member call message => by
    simp [refusal, Failure.isNotFound, Failure.code?, candid fault member]
  have honest : Honest refusal := fun _ _ _ refused => refused
  obtain ⟨valid, sized⟩ := reached.valid
  have changes : pass.1.changes = _ := PassResult.changes_conclude _ _ _ _ _
  rw [changes]
  constructor
  · intro found finds
    obtain ⟨id, seen, named, shown, faithful⟩ := Manager.post_pass_of_found refusal cut faulted
      bounds finds (always_observe_looked valid sized room.serial_le desired last)
      fun after looked => always_found_faithful honest looked
    exact ⟨id, seen, named, (PassResult.observed_conclude _ _ _ _ _).trans shown, faithful⟩
  · intro created unknown
    obtain ⟨id, seen, shown, faithful⟩ := World.post_run_traced refusal cut faulted bounds _ []
      (always_pass_faithful honest valid sized room.serial_le unknown last) created
    exact ⟨id, seen, (PassResult.observed_conclude _ _ _ _ _).trans shown, faithful⟩

def networkRule (vpcIds : List String) : RuleSpec where
  name := "internal"
  createdAt := some .epoch
  domainName := "corp.example."
  ruleType := .system
  resolverEndpointId := none
  resolverEndpointRef := none
  targetIps := []
  associations := vpcIds.map RuleAssociation.mk
  tags := ∅

/-- A provider at which one association will fail. -/
def crowded (number : Nat) (world : World) : World :=
  { world with
    journal := world.journal.failNth ⟨.associateRule, number, "LimitExceededException"⟩ }

/-- A pass that makes a rule and can associate it with the first of two networks only. -/
def firstPass : Reconciled Rule × World :=
  ruleManager.reconcile {} (networkRule ["vpc-1", "vpc-2"]) .unbounded none ∅ (crowded 2 .still)

/-- A pass that is to move the rule elsewhere, and can associate it with one of two networks. -/
def secondPass : Reconciled Rule × World :=
  ruleManager.reconcile {} (networkRule ["vpc-3", "vpc-4"]) .unbounded firstPass.1.observed ∅
    (crowded 4 firstPass.2)

theorem crowded_faithful :
    (firstPass.1.changes.collections = true ∧ ∃ id seen, firstPass.1.observed = some seen ∧
      ∀ vpc, vpc ∈ seen.spec.vpcs ↔ vpc ∈ firstPass.2.registry.associatedVpcs id) ∧
    secondPass.1.changes.collections = true ∧ ∃ id seen, secondPass.1.observed = some seen ∧
      ∀ vpc, vpc ∈ seen.spec.vpcs ↔ vpc ∈ secondPass.2.registry.associatedVpcs id := by
  have first : (crowded 2 .still).Reachable := World.Reachable.still.arranged _
  have second : (crowded 4 firstPass.2).Reachable :=
    (Manager.reachable_reconcile _ _ _ first).arranged _
  constructor
  · obtain ⟨id, seen, shown, faithful⟩ := (snapshot_faithful first (by decide +kernel)
      (by decide +kernel) {} (networkRule ["vpc-1", "vpc-2"]) .unbounded none ∅).2
      (by decide +kernel) (by decide +kernel)
    exact ⟨by decide +kernel, id, seen, shown, faithful.shown.vpcs⟩
  · let look := (ruleManager.observe (networkRule ["vpc-3", "vpc-4"])
      firstPass.1.observed).outcome.run (World.serve .unbounded) (crowded 4 firstPass.2)
    let found := (look.1.toOption.bind fun found => found).getD default
    obtain ⟨id, seen, -, shown, faithful⟩ := (snapshot_faithful second (by decide +kernel)
      (by decide +kernel) {} (networkRule ["vpc-3", "vpc-4"]) .unbounded
      firstPass.1.observed ∅).1 found (by decide +kernel)
    exact ⟨by decide +kernel, id, seen, shown, faithful.shown.vpcs⟩

end Resolver.Rule

end Converge
