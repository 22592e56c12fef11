import Converge.Proofs.Endpoint.Snapshot
import Converge.Proofs.Endpoint.Tracking
import Converge.Proofs.Reconcile
import Converge.Proofs.Rule.Tracking
import Converge.Proofs.Tagging

/-! What passes over endpoints and rules report of tags. If a call about tags was carried out and
none failed, the report shows the tags that the provider has; if one was carried out and the next
one failed, it shows the old tags as if nothing had been done. -/
namespace Converge

open Provider Resolver Program

variable {site : Site}

namespace Resolver.Endpoint

variable {desired : EndpointSpec}

theorem always_observe_tagged {registry : Registry} (valid : registry.Valid site)
    (last : Option Endpoint) :
    (observe desired last).outcome.Always (Answered site anyRefusal)
      (fun reply _ => ∀ seen, reply = .ok (some seen) → ∃ id, last.bind id? = some id ∧
        seen.id? = some id ∧ seen.status.arn = some (site.arn ArnKind.endpoint.label id) ∧
        registry.tags.get? (site.arn ArnKind.endpoint.label id) = some seen.spec.tags)
      registry := by
  refine (always_observe_shown valid desired last).imp ?_
  rintro reply after ⟨-, shown⟩ seen same
  obtain ⟨id, stored, addresses, tags, named, held, tagged, -, rfl⟩ := shown seen same
  have kept := valid.endpoint id stored held
  exact ⟨id, named, congrArg some kept.keyed, congrArg some kept.arn, kept.arn ▸ tagged⟩

theorem handlesTags :
    endpointManager.HandlesTags site .endpoint id? (·.status.arn) (·.spec.tags) desired where
  observe last registry valid := always_observe_tagged valid last
  looks := asks_observe (fun _ => ⟨rfl, rfl⟩) (fun _ _ => ⟨rfl, rfl⟩) fun _ => ⟨rfl, rfl⟩
  creates token := Attempt.asks_bind (asks_ask rfl) fun _ => trivial
  completes created := trivial
  syncs seen := ⟨"endpoint ARN", desired.tags,
    { seen with spec := { seen.spec with tags := desired.tags } }, rfl, rfl, rfl⟩
  collects seen delta := asks_syncAddresses (fun _ _ => ⟨rfl, rfl⟩) fun _ _ _ _ _ => ⟨rfl, rfl⟩
  collected seen delta registry := by
    show (syncAddresses desired seen).Always _ _ _
    unfold syncAddresses
    split
    · exact ⟨rfl, rfl⟩
    · exact (always_bind _ _ _ _).2 (.of_forall fun progress _ => ⟨rfl, rfl⟩)
  updates seen delta := asks_update (fun _ _ => ⟨rfl, rfl⟩) delta
  updated seen delta registry valid := by
    refine (Attempt.always_outcome_bind _ _ _ _).2 ?_
    cases named : seen.id? with
    | none => rintro updated ⟨⟩
    | some id =>
      refine (Attempt.always_outcome_bind _ _ _ _).2 (always_ask (.updateEndpoint id _) ?_ ?_ ?_)
      · intro now record after done
        obtain ⟨stored, held, rfl, -⟩ := Registry.updateEndpoint_eq_ok_iff.1 done
        refine (Attempt.always_outcome_pure _ _ _).2 fun updated same => ?_
        cases same
        exact ⟨congrArg some (valid.endpoint id stored held).keyed, rfl⟩
      · rintro now failure - updated ⟨⟩
      · rintro failure - updated ⟨⟩

end Resolver.Endpoint

namespace Resolver.Rule

variable {desired : RuleSpec}

theorem always_observe_tagged {registry : Registry} (valid : registry.Valid site)
    (last : Option Rule) :
    (observe desired last).outcome.Always (Answered site anyRefusal)
      (fun reply _ => ∀ seen, reply = .ok (some seen) → ∃ id, last.bind id? = some id ∧
        seen.id? = some id ∧ seen.status.arn = some (site.arn ArnKind.rule.label id) ∧
        registry.tags.get? (site.arn ArnKind.rule.label id) = some seen.spec.tags)
      registry := by
  unfold observe
  cases named : last.bind id? with
  | none => exact fun seen same => nomatch same
  | some id =>
    refine (always_bind _ _ _ _).2 (always_ask (.getRule id) (fun now record after done => ?_)
      (fun now failure _ seen same => absurd same (lookup_ne_some failure seen))
      fun failure _ seen same => absurd same (lookup_ne_some failure seen))
    obtain ⟨got, unchanged⟩ := Registry.look_eq_ok_iff.1 done
    rw [unchanged]
    have held := Registry.rule_eq_ok_iff.1 got
    have kept := valid.rule id record held
    obtain ⟨tags, tagged⟩ := valid.tags_of_rule held
    refine (always_fetch_shown tagged (Walk.asks_collect fun token => asks_ask ⟨rfl, rfl⟩) _).imp ?_
    intro reply after fetched seen same
    obtain ⟨listed, rfl⟩ := fetched seen same
    exact ⟨id, rfl, congrArg some kept.keyed, congrArg some kept.arn, kept.arn ▸ tagged⟩

theorem handlesTags :
    ruleManager.HandlesTags site .rule id? (·.status.arn) (·.spec.tags) desired where
  observe last registry valid := always_observe_tagged valid last
  looks := asks_observe (fun _ => ⟨rfl, rfl⟩) (fun _ _ => ⟨rfl, rfl⟩) fun _ => ⟨rfl, rfl⟩
  creates token := Attempt.asks_bind (asks_ask rfl) fun _ => trivial
  completes created := asks_afterCreate (fun _ _ => rfl) fun _ _ => rfl
  syncs seen := ⟨"rule ARN", desired.tags,
    { seen with spec := { seen.spec with tags := desired.tags } }, rfl, rfl, rfl⟩
  collects seen delta := asks_syncAssociations (fun _ _ => ⟨rfl, rfl⟩) fun _ _ _ => ⟨rfl, rfl⟩
  collected seen delta registry := by
    refine always_syncAssociations_rest.imp ?_
    rintro applied after ⟨associations, same⟩
    simp [same, id?]
  updates seen delta := asks_update fun _ => ⟨rfl, rfl⟩
  updated seen delta registry valid := by
    refine (Attempt.always_outcome_bind _ _ _ _).2 ?_
    cases named : seen.id? with
    | none => rintro updated ⟨⟩
    | some id =>
      refine (Attempt.always_outcome_bind _ _ _ _).2 (always_ask (.updateRule id _) ?_ ?_ ?_)
      · intro now record after done
        obtain ⟨-, old, held, -, rfl, -⟩ := Registry.updateRule_eq_ok_iff.1 done
        refine (Attempt.always_outcome_pure _ _ _).2 fun updated same => ?_
        cases same
        exact ⟨congrArg some (valid.rule id old held).keyed, rfl⟩
      · rintro now failure - updated ⟨⟩
      · rintro failure - updated ⟨⟩

end Resolver.Rule

namespace Manager

variable {D O : Type}

/-- What a pass that a provider serves on its own says of tags, if any call about them was carried
out: the tags that are stored in the end if none of them failed, and otherwise those of before. -/
def ReportsTags (kind : ArnKind) (id? : O → Option String) (tags : O → Tags)
    (manager : Manager Call Call.Reply D O) (delays : PassDelays) (desired : D) (bounds : Bounds)
    (last : Option O) (prior : Conditions) (world : World) : Prop :=
  let (result, after) := manager.reconcile delays desired bounds last prior world
  let calls := manager.calls desired bounds last world
  CarriedOut Call.isTagging calls →
    ∃ id seen, last.bind id? = some id ∧ result.observed = some seen ∧ id? seen = some id ∧
      let arn := world.site.arn kind.label id
      if Spotless calls then
        result.changes.tags = true ∧ after.registry.tags.get? arn = some (tags seen)
      else result.changes.tags = false ∧ world.registry.tags.get? arn = some (tags seen)

theorem HandlesTags.reportsTags {manager : Manager Call Call.Reply D O} {desired : D}
    {world : World} {kind : ArnKind} {id? arn? : O → Option String} {tags : O → Tags}
    (handles : manager.HandlesTags world.site kind id? arn? tags desired)
    (reached : world.Reachable) (delays : PassDelays) (bounds : Bounds) (last : Option O)
    (prior : Conditions) :
    manager.ReportsTags kind id? tags delays desired bounds last prior world := by
  intro carried
  rcases World.post_run_traced anyRefusal (fun _ _ _ => trivial) (fun _ _ _ _ => trivial) bounds _
    [] (handles.always_pass reached.valid.1) with none | ⟨id, seen, asked, shown, report⟩
  · exact absurd carried (not_carriedOut_of_none none)
  · refine ⟨id, seen, asked, (PassResult.observed_conclude _ _ _ _ _).trans shown, report.named, ?_⟩
    simp only [PassResult.changes_conclude]
    split
    · next spotless =>
      obtain ⟨stored, flag⟩ := report.shown spotless
      exact ⟨flag.resolve_right fun none => not_carriedOut_of_none none carried, stored⟩
    · next stained => exact report.kept stained

/-- Changed tags are reported if all calls about them were carried out, whatever else failed in the
pass, and only then. -/
theorem tags_reported {world : World} (reached : world.Reachable) (delays : PassDelays)
    (bounds : Bounds) (prior : Conditions) :
    (∀ (desired : EndpointSpec) (last : Option Endpoint),
      endpointManager.ReportsTags .endpoint Endpoint.id? (·.spec.tags) delays desired bounds last
        prior world) ∧
    ∀ (desired : RuleSpec) (last : Option Rule),
      ruleManager.ReportsTags .rule Rule.id? (·.spec.tags) delays desired bounds last prior world :=
  ⟨fun _ last => Endpoint.handlesTags.reportsTags reached delays bounds last prior,
    fun _ last => Rule.handlesTags.reportsTags reached delays bounds last prior⟩

def taggedEndpoint (name : String) (tag : Tag) : EndpointSpec where
  name
  createdAt := some .epoch
  direction := .inbound
  endpointType := none
  securityGroupIds := ["sg-1"]
  ipAddresses := [⟨"subnet-a", none, none⟩, ⟨"subnet-b", none, none⟩]
  tags := Tags.ofTags [tag]

/-- The pass that creates it. -/
def tagPass : Reconciled Endpoint × World :=
  endpointManager.reconcile {} (taggedEndpoint "inbound" ⟨"team", "net"⟩) .unbounded none ∅ .still

def tagArn : String := tagPass.2.site.arn ArnKind.endpoint.label "rslvr-in-00000000000000001"

/-- The provider after it, at which the next call of a kind will fail. -/
def throttled (operation : Operation) : World :=
  { tagPass.2 with
    journal := tagPass.2.journal.failNth ⟨operation, 1, "ThrottlingException"⟩ }

theorem throttled_reachable (operation : Operation) : (throttled operation).Reachable :=
  (reachable_reconcile _ _ _ .still).arranged _

/-- The endpoint with another tag under another name. -/
def retagged : EndpointSpec := taggedEndpoint "renamed" ⟨"env", "prod"⟩

def retagPass (operation : Operation) : Reconciled Endpoint × World :=
  endpointManager.reconcile {} retagged .unbounded tagPass.1.observed ∅ (throttled operation)

def retagCalls (operation : Operation) : Log :=
  endpointManager.calls retagged .unbounded tagPass.1.observed (throttled operation)

theorem tags_reported_throttled :
    ((retagPass .updateEndpoint).1.changes.tags = true ∧
      ∃ seen, (retagPass .updateEndpoint).1.observed = some seen ∧
        (retagPass .updateEndpoint).2.registry.tags.get? tagArn = some seen.spec.tags) ∧
    (retagPass .untag).1.changes.tags = false := by
  constructor
  · obtain ⟨id, seen, asked, shown, -, report⟩ :=
      (tags_reported (throttled_reachable .updateEndpoint) {} .unbounded ∅).1 retagged
        tagPass.1.observed
        (show CarriedOut Call.isTagging (retagCalls .updateEndpoint) by decide +kernel)
    have spotless : Spotless (retagCalls .updateEndpoint) := by decide +kernel
    obtain rfl : "rslvr-in-00000000000000001" = id := by
      refine Option.some.inj (Eq.trans ?_ asked)
      decide +kernel
    obtain ⟨flag, stored⟩ := (if_pos spotless).mp report
    exact ⟨flag, seen, shown, stored⟩
  · obtain ⟨id, seen, asked, shown, -, report⟩ :=
      (tags_reported (throttled_reachable .untag) {} .unbounded ∅).1 retagged
        tagPass.1.observed
        (show CarriedOut Call.isTagging (retagCalls .untag) by decide +kernel)
    have stained : ¬Spotless (retagCalls .untag) := by decide +kernel
    exact ((if_neg stained).mp report).1

/-- A tag has been added, but the pass knows nothing of it. -/
theorem tags_unreported :
    (throttled .untag).Reachable ∧ CarriedOut Call.isTagging (retagCalls .untag) ∧
      (retagPass .untag).1.changes.tags = false ∧
      (retagPass .untag).1.observed.map (·.spec.tags) ≠
        (retagPass .untag).2.registry.tags.get? tagArn := by
  refine ⟨throttled_reachable .untag, ?_, ?_, ?_⟩
  all_goals decide +kernel

end Manager

end Converge
