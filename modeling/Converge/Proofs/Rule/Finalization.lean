import Converge.Proofs.Agent.Teardown
import Converge.Proofs.Moves

/-! Deleting a rule again and again. An attempt may be stopped anywhere, and may be told that
something is missing when it is not; it only ever takes away what belongs to the rule, and the rule
last of all. So the same snapshot does for every further attempt, and the first one that is served
throughout leaves the provider as it was, without the rule. -/
namespace Converge

open Provider Resolver Program

namespace Provider.Registry

variable {site : Site} {now : Timestamp} {registry after : Registry} {id : String}

def withoutRule (registry : Registry) (site : Site) (id : String) : Registry :=
  { registry with
    rules := registry.rules.erase id
    tags := registry.tags.erase (site.arn ArnKind.rule.label id)
    associations := registry.associations.filter fun association => association.ruleId ≠ id
    ruleTokens := registry.ruleTokens.filter fun _ entry => entry.id ≠ id }

structure Forgets (registry : Registry) (site : Site) (id : String) : Prop where
  gone : ¬registry.Live id .rule
  untagged : registry.tags.get? (site.arn ArnKind.rule.label id) = none
  unassociated : registry.associationsOf id = []
  unknown : ∀ token entry, registry.ruleTokens.get? token = some entry → entry.id ≠ id

theorem Valid.forgets (valid : registry.Valid site) (gone : ¬registry.Live id .rule) :
    registry.Forgets site id where
  gone := gone
  untagged := by
    by_cases bound : registry.tags.get? (site.arn ArnKind.rule.label id) = none
    · exact bound
    · obtain ⟨kind, other, live, same⟩ := (valid.tagged _).1 bound
      obtain ⟨rfl, rfl⟩ := arn_inj site same
      exact absurd live gone
  unassociated := by
    refine List.filter_eq_nil_iff.2 fun association member own => ?_
    have live := valid.owned association member
    rw [of_decide_eq_true own] at live
    exact gone live
  unknown token entry known own := by
    have owner := (valid.ruleTokens token id).1 ⟨entry.name, by rw [known, ← own]⟩
    cases held : registry.rules.get? id with
    | none => simp [ruleToken, held] at owner
    | some record => exact gone (by simp [Live, held])

theorem Forgets.withoutRule_eq (forgets : registry.Forgets site id) :
    registry.withoutRule site id = registry := by
  have rules : registry.rules.erase id = registry.rules :=
    NameMap.erase_of_get?_eq_none (Classical.not_not.1 forgets.gone)
  have tags := NameMap.erase_of_get?_eq_none forgets.untagged
  have associations : (registry.associations.filter fun association => association.ruleId ≠ id) =
      registry.associations := by
    refine List.filter_eq_self.2 fun association member => decide_eq_true fun own => ?_
    have none := List.filter_eq_nil_iff.1 forgets.unassociated association member
    exact none (decide_eq_true own)
  have tokens : (registry.ruleTokens.filter fun _ entry => entry.id ≠ id) = registry.ruleTokens :=
    NameMap.filter_eq_self fun token entry known =>
      decide_eq_true (forgets.unknown token entry known)
  rw [withoutRule, rules, tags, associations, tokens]

theorem withoutRule_disassociateRule {vpcId : String} {association : AssociationRecord}
    (done : registry.disassociateRule id vpcId = .ok (association, after)) :
    after.withoutRule site id = registry.withoutRule site id := by
  obtain ⟨associations, retired, rfl⟩ := disassociateRule_eq_ok_iff.1 done
  obtain ⟨before, old, rest, shape, own, -, -, rfl⟩ := retireLast_eq_some retired
  simp [withoutRule, shape, own]

theorem deleteRule_eq_withoutRule (valid : registry.Valid site)
    (done : registry.deleteRule id = .ok ((), after)) : after = registry.withoutRule site id := by
  obtain ⟨record, held, rfl⟩ := deleteRule_eq_ok done
  rw [(valid.rule id record held).arn, withoutRule]

end Provider.Registry

namespace Resolver.Rule

/-- The calls that delete a rule. -/
def isDeletion (id : String) : Call → Bool
  | .disassociateRule ruleId _ => ruleId = id
  | .deleteRule ruleId => ruleId = id
  | _ => false

structure Deleting (id : String) (start middle : World) : Prop where
  site : middle.site = start.site
  shrinks : start.registry.Shrinks start.site middle.registry
  others : middle.registry.withoutRule start.site id = start.registry.withoutRule start.site id

namespace Deleting

variable {id : String} {start middle : World} {bounds : Bounds} {call : Call}

theorem refl (valid : start.registry.Valid start.site) : Deleting id start start :=
  ⟨rfl, .refl valid, rfl⟩

theorem serve (deleting : Deleting id start middle) (own : isDeletion id call = true) :
    Deleting id start (middle.serve bounds call).2 := by
  suffices kept : start.registry.Shrinks start.site (middle.serve bounds call).2.registry ∧
      (middle.serve bounds call).2.registry.withoutRule start.site id =
        start.registry.withoutRule start.site id from
    ⟨World.serve_later.site.trans deleting.site, kept.1, kept.2⟩
  by_cases same : (middle.serve bounds call).2.registry = middle.registry
  · rw [same]
    exact ⟨deleting.shrinks, deleting.others⟩
  · obtain ⟨now, value, done⟩ := World.registry_serve same
    have valid := deleting.shrinks.valid
    rw [deleting.site] at done
    cases call with
    | disassociateRule ruleId vpcId =>
      obtain rfl := of_decide_eq_true own
      exact ⟨deleting.shrinks.trans (Registry.shrinks_of_removal rfl valid done),
        (Registry.withoutRule_disassociateRule done).trans deleting.others⟩
    | deleteRule ruleId =>
      obtain rfl := of_decide_eq_true own
      have shrinks := Registry.shrinks_of_removal rfl valid done
      have gone : ¬(middle.serve bounds (.deleteRule ruleId)).2.registry.Live ruleId .rule :=
        fun live => ((Registry.live_deleteRule done).1 live).2 rfl rfl
      refine ⟨deleting.shrinks.trans shrinks, ?_⟩
      -- A second erasure finds nothing, so what is left is what the deletion has left.
      rw [(shrinks.valid.forgets gone).withoutRule_eq,
        Registry.deleteRule_eq_withoutRule valid done, deleting.others]
    | _ => cases own

theorem eq_withoutRule (deleting : Deleting id start middle)
    (gone : ¬middle.registry.Live id .rule) :
    middle.registry.Forgets start.site id ∧
      middle.registry = start.registry.withoutRule start.site id := by
  have forgets := deleting.shrinks.valid.forgets gone
  exact ⟨forgets, forgets.withoutRule_eq.symm.trans deleting.others⟩

end Deleting

/-- One attempt to delete what a snapshot shows: when it is made, on which terms, and which failures
are arranged before it. -/
structure Trial where
  time : Nat
  bounds : Bounds
  faults : List Fault

namespace Trial

variable (trial : Trial) (observed : Rule) (world : World)

def prepare : World :=
  { world with time := trial.time, journal := trial.faults.foldl Journal.failNth world.journal }

def run : Except Failure Unit × World :=
  (ruleManager.finalize (some observed)).run (World.serve trial.bounds) (trial.prepare world)

def states : List World :=
  (ruleManager.finalize (some observed)).states (World.serve trial.bounds) (trial.prepare world)

end Trial

def attempted (observed : Rule) (trials : List Trial) (world : World) : World :=
  trials.foldl (fun world trial => (trial.run observed world).2) world

def attemptStates (observed : Rule) : List Trial → World → List World
  | [], world => [world]
  | trial :: rest, world =>
    world :: trial.states observed world ++ attemptStates observed rest (trial.run observed world).2

section Attempts

variable {id : String} {observed : Rule} {start world : World}

theorem asks_finalize (named : observed.id? = some id) :
    (ruleManager.finalize (some observed)).Asks (isDeletion id · = true) := by
  refine Manager.asks_finalize fun snapshot same => ?_
  cases same
  have own : ∀ other ∈ observed.id?, other = id := by simp [named]
  exact asks_delete (fun other member _ => decide_eq_true (own other member))
    fun other member => decide_eq_true (own other member)

theorem Deleting.trial (deleting : Deleting id start world) (named : observed.id? = some id)
    (trial : Trial) : ∀ middle ∈ trial.states observed world, Deleting id start middle :=
  (asks_finalize named).forall_states (Deleting id start)
    (fun _ _ own deleting => deleting.serve own)
    ⟨deleting.site, deleting.shrinks, deleting.others⟩

theorem Deleting.attempts (deleting : Deleting id start world) (named : observed.id? = some id)
    (trials : List Trial) :
    Deleting id start (attempted observed trials world) ∧
      ∀ middle ∈ attemptStates observed trials world, Deleting id start middle := by
  -- The induction is on the attempts; each begins where the one before it has ended.
  induction trials generalizing world with
  | nil => exact ⟨deleting, fun middle there => List.mem_singleton.1 there ▸ deleting⟩
  | cons trial rest ih =>
    have within := deleting.trial named trial
    obtain ⟨ends, later⟩ := ih (within _ (run_mem_states _ _))
    refine ⟨ends, fun middle there => ?_⟩
    rcases List.mem_cons.1 there with rfl | there
    · exact deleting
    · exact (List.mem_append.1 there).elim (within middle) (later middle)

/-- Whatever has happened to earlier attempts to delete a rule with a snapshot that shows all its
networks, one that is served throughout succeeds, and the provider is as it was before all of them,
without the rule, its tags, its associations and its token. At no time was the rule gone and
anything of it left, and at no time had anything else changed. -/
theorem finalize_retried (reached : world.Reachable) (named : observed.id? = some id)
    (covers : ∀ vpc ∈ world.registry.associatedVpcs id, vpc ∈ observed.spec.vpcs)
    (trials : List Trial) (last : Trial)
    (served : World.servesAll last.bounds (ruleManager.finalize (some observed))
      (last.prepare (attempted observed trials world)) = true) :
    let result := last.run observed (attempted observed trials world)
    result.1 = .ok () ∧ result.2.registry.Forgets world.site id ∧
      result.2.registry = world.registry.withoutRule world.site id ∧
      ∀ middle ∈ attemptStates observed (trials ++ [last]) world,
        (middle.registry.Live id .rule ∨ middle.registry.Forgets world.site id) ∧
          middle.registry.withoutRule world.site id = world.registry.withoutRule world.site id := by
  intro result
  have valid := reached.valid.1
  have begun := (Deleting.refl valid).attempts named trials
  have covered : ArnKind.rule.Covers world.registry observed := by
    intro other named' vpc member
    cases named.symm.trans named'
    exact covers vpc member
  have site : (last.prepare (attempted observed trials world)).site = world.site := begun.1.site
  obtain ⟨done, -, gone⟩ := World.post_run_of_servesAll served
    (clears.always_finalize (site.symm ▸ begun.1.shrinks.valid) fun snapshot same => by
      cases same
      exact covered.of_shrinks begun.1.shrinks)
  have ended : Deleting id world result.2 := begun.1.trial named last _ (run_mem_states _ _)
  obtain ⟨forgets, same⟩ := ended.eq_withoutRule (gone id named)
  refine ⟨done, forgets, same, fun middle there => ?_⟩
  have deleting := ((Deleting.refl valid).attempts named (trials ++ [last])).2 middle there
  refine ⟨?_, deleting.others⟩
  by_cases live : middle.registry.Live id .rule
  · exact .inl live
  · exact .inr (deleting.eq_withoutRule live).1

end Attempts

/-- A rule for three networks, besides one that has been detached already, and another rule. -/
def laden : World :=
  let system (name : String) : RuleRequest :=
    { creatorRequestId := name
      name
      domainName := "corp.example."
      ruleType := .system
      resolverEndpointId := none
      targetIps := []
      tags := [] }
  World.still.completeAll
    [.createRule (system "west"), .associateRule "rslvr-rr-00000000000000001" "vpc-1",
      .createRule (system "east"), .associateRule "rslvr-rr-00000000000000003" "vpc-0",
      .disassociateRule "rslvr-rr-00000000000000003" "vpc-0",
      .associateRule "rslvr-rr-00000000000000003" "vpc-1",
      .associateRule "rslvr-rr-00000000000000003" "vpc-2",
      .associateRule "rslvr-rr-00000000000000003" "vpc-3"]

def ladenSnapshot : Rule where
  spec := { (default : RuleSpec) with associations := [⟨"vpc-1"⟩, ⟨"vpc-2"⟩, ⟨"vpc-3"⟩] }
  status := { (default : RuleStatus) with id := some "rslvr-rr-00000000000000003" }

/-- One attempt is throttled between two networks, one is told that a network that is there is
missing, one comes too late, and one is told so of the rule itself. -/
def setbacks : List Trial :=
  [⟨0, .unbounded, [⟨.disassociateRule, 2, "ThrottlingException"⟩]⟩,
    ⟨0, .unbounded, [⟨.disassociateRule, 4, Failure.notFoundCode⟩]⟩, ⟨0, ⟨some 0, none⟩, []⟩,
    ⟨0, .unbounded, [⟨.deleteRule, 2, Failure.notFoundCode⟩]⟩]

theorem finalize_retried_laden :
    let before := attempted ladenSnapshot setbacks laden
    let result := Trial.run ⟨0, .unbounded, []⟩ ladenSnapshot before
    before.registry.rules.size = 2 ∧ before.registry.associations.length = 5 ∧
      result.1 = .ok () ∧ result.2.registry.Forgets laden.site "rslvr-rr-00000000000000003" ∧
      result.2.registry.rules.size = 1 ∧ result.2.registry.associations =
        laden.registry.associationsOf "rslvr-rr-00000000000000001" := by
  intro before result
  obtain ⟨done, forgets, same, -⟩ := finalize_retried (World.Reachable.still.completeAll _) rfl
    (show ∀ vpc ∈ laden.registry.associatedVpcs "rslvr-rr-00000000000000003",
      vpc ∈ ladenSnapshot.spec.vpcs by decide +kernel)
    setbacks ⟨0, .unbounded, []⟩ (by decide +kernel)
  refine ⟨by decide +kernel, by decide +kernel, done, forgets, ?_⟩
  rw [show result.2.registry = _ from same]
  exact ⟨by decide +kernel, by decide +kernel⟩

end Resolver.Rule

end Converge
