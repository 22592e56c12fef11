import Converge.Proofs.Rule.Passes

/-! Convergence of rules. One pass does everything; a second one reads the record back if the first
has changed it. -/
namespace Converge.Resolver.Rule

open Converge.Provider

variable {site : Site} {registry : Registry} {id : String} {record : RuleRecord} {tags : Tags}
  {desired : RuleSpec}

def RecordDiffers (desired : RuleSpec) (record : RuleRecord) : Prop :=
  desired.name ≠ record.name ∨ desired.targetIps ≠ record.targetIps ∨
    ∃ endpointId ∈ desired.resolverEndpointId, record.resolverEndpointId ≠ some endpointId

theorem recordDiffers_iff (vpcs : List String) (tags : Tags) :
    RecordDiffers desired record ↔
      (delta desired (ofStored desired record vpcs tags)).differentExcept
        [tagsPath, associationsPath] = true := by
  have agrees := differentExcept_eq_false_iff desired (ofStored desired record vpcs tags)
  rw [← Bool.ne_false_iff, ne_eq, agrees, RecordAgrees, RecordDiffers]
  simp only [ofStored, Classical.not_and_iff_not_or_not, Classical.not_forall, ne_eq, exists_prop]

structure Realized (desired : RuleSpec) (id : String) (registry : Registry)
    (record : RuleRecord) : Prop where
  held : registry.rules.get? id = some record
  tags : registry.tags.get? record.arn = some desired.tags
  name : record.name = desired.name
  targetIps : record.targetIps = desired.targetIps
  endpoint : ∀ endpointId ∈ desired.resolverEndpointId,
    record.resolverEndpointId = some endpointId
  vpcs : ∀ vpc, vpc ∈ registry.associatedVpcs id ↔ vpc ∈ desired.vpcs

theorem always_pass_of_held {token : Token} {last : Option Rule}
    {post : PassResult Rule → Registry → Prop} (valid : registry.Valid site)
    (sized : 0 < site.pageSize) (room : registry.serial ≤ Walk.pageLimit)
    (named : last.bind id? = some id) (held : registry.rules.get? id = some record)
    (tagged : registry.tags.get? record.arn = some tags)
    (next : (ruleManager.part desired (Pass.update [associationsPath] (ofStored desired record
      (registry.associatedVpcs id) tags))).Always (Answered site noRefusal) post registry) :
    (ruleManager.pass desired token last).Always (Answered site noRefusal) post registry := by
  refine (Manager.always_pass token last).2
    ((always_observe valid sized room desired last).imp ?_)
  rintro reply after ⟨rfl, same | ⟨failure, refused, -⟩⟩
  · rw [named] at same
    have there : reply = .ok (some (ofStored desired record (after.associatedVpcs id) tags)) :=
      same.trans (congrArg Except.ok (found_eq desired held tagged))
    rw [there]
    exact next
  · exact absurd refused (not_refused failure)

structure Underway (desired : RuleSpec) (id : String) (measure : Nat) (last : Option Rule)
    (world : World) (record : RuleRecord) : Prop where
  reached : world.Reachable
  calm : world.IsCalm
  named : last.bind id? = some id
  held : world.registry.rules.get? id = some record
  domain : sameDomain desired.domainName record.domainName = true
  ruleType : desired.ruleType = record.ruleType
  counted : world.registry.HasRoom 0
  pending : RecordDiffers desired record → 0 < measure ∧ Allowed desired world.registry record ∧
    world.registry.HasRoom desired.associations.length

theorem Underway.at {measure : Nat} {last : Option Rule} {world : World}
    (underway : Underway desired id measure last world record) (time : Nat) :
    Underway desired id measure last { world with time } record :=
  { underway with reached := underway.reached.elapsed time }

theorem Underway.step (delays : PassDelays) (prior : Conditions) {measure : Nat}
    {last : Option Rule} {world : World}
    (underway : Underway desired id measure last world record) :
    let (result, after) := ruleManager.reconcile delays desired .unbounded last prior world
    (¬RecordDiffers desired record ∧ result.outcome = .converged ∧
        ∃ new, Realized desired id after.registry new) ∨
      (RecordDiffers desired record ∧
        result.outcome = .retry (some delays.refresh) refreshReason ∧
        ∃ new, Underway desired id 0 result.observed after new) := by
  let pass := ruleManager.pass desired (ruleManager.token desired world.now) last
  obtain ⟨valid, sized⟩ := underway.reached.valid
  obtain ⟨tags, tagged⟩ := valid.tags_of_rule underway.held
  let seen := ofStored desired record (world.registry.associatedVpcs id) tags
  have immutable : checkImmutable desired seen = .ok () :=
    (checkImmutable_eq_ok_iff _ _).2 ⟨underway.domain, underway.ruleType⟩
  have allowed : ¬RecordAgrees desired seen → Allowed desired world.registry record := by
    intro disagree
    have differs : (delta desired seen).differentExcept [tagsPath, associationsPath] = true :=
      Bool.ne_false_iff.1 fun same => disagree ((differentExcept_eq_false_iff _ _).1 same)
    exact (underway.pending ((recordDiffers_iff _ tags).2 differs)).2.1
  have post := World.post_run_unbounded pass underway.calm
    (always_pass_of_held valid sized underway.counted.serial_le underway.named underway.held tagged
      (always_update_of_found honest_noRefusal valid underway.held tagged immutable allowed))
  obtain ⟨named, ending, serial, tags, members, new, held, patched⟩ :=
    post.resolve_left (PassResult.not_stoppedBy _)
  by_cases differs : RecordDiffers desired record
  · obtain ⟨-, -, room⟩ := underway.pending differs
    rw [if_pos ((recordDiffers_iff _ _).1 differs)] at ending
    refine .inr ⟨differs, Manager.outcome_of_stale ending, new, ?_⟩
    exact
      { reached := underway.reached.run .unbounded pass
        calm := underway.calm.later World.run_later
        named := by
          rw [PassResult.observed_conclude]
          exact named
        held
        domain := patched.domainName ▸ underway.domain
        ruleType := underway.ruleType.trans patched.ruleType.symm
        counted := Nat.lt_of_le_of_lt serial room
        pending := fun again => by
          rcases again with name | targets | ⟨endpointId, asked, endpoint⟩
          · exact absurd patched.name.symm name
          · exact absurd patched.targetIps.symm targets
          · exact absurd (patched.endpoint endpointId asked) endpoint }
  · rw [if_neg fun found => differs ((recordDiffers_iff _ _).2 found)] at ending
    exact .inl ⟨differs, Manager.outcome_of_settled ending, new, held, patched.arn ▸ tags,
      patched.name, patched.targetIps, patched.endpoint, members⟩

/-- Passes that nothing disturbs make a live rule what is desired, whatever snapshot of it they
start from and however its associations came about. The first pass has to be read back exactly if
the record itself was not as desired, and then the second one converges. -/
theorem rule_series_realizes {world : World} (reached : world.Reachable) (calm : world.IsCalm)
    (held : world.registry.rules.get? id = some record)
    (domain : sameDomain desired.domainName record.domainName = true)
    (ruleType : desired.ruleType = record.ruleType)
    (live : ∀ endpointId ∈ desired.resolverEndpointId, world.registry.Live endpointId .endpoint)
    (targets : record.ruleType = .forward → desired.targetIps ≠ [])
    (room : world.registry.HasRoom desired.associations.length)
    {last : Rule} (named : last.id? = some id)
    (delays : PassDelays) (begins : Nat → Nat) (prior : Conditions) :
    let pass := ruleManager.series delays desired begins (some last) prior world
    ((pass 0).1.outcome = .retry (some delays.refresh) refreshReason ↔
        RecordDiffers desired record) ∧
      ∃ count ≤ 1,
        (∀ earlier < count,
          (pass earlier).1.outcome = .retry (some delays.refresh) refreshReason) ∧
        (pass count).1.outcome = .converged ∧
        ∃ new, Realized desired id (pass count).2.registry new := by
  have counted : world.registry.HasRoom 0 :=
    Nat.lt_of_le_of_lt (Nat.add_le_add_left (Nat.zero_le _) _) room
  have start : Underway desired id 1 (some last) world record :=
    { reached, calm, named, held, domain, ruleType, counted
      pending := fun _ => ⟨Nat.one_pos, ⟨live, targets⟩, room⟩ }
  constructor
  · rcases (start.at (begins 0)).step delays prior with ⟨agrees, converged, -⟩ | ⟨differs, retry, -⟩
    · refine iff_of_false (fun retry => ?_) agrees
      cases converged.symm.trans retry
    · exact iff_of_true retry differs
  · refine Manager.series_converges
      (fun measure last world => ∃ record, Underway desired id measure last world record)
      (fun world => ∃ new, Realized desired id world.registry new)
      (fun measure last prior world time good => ?_) 1 begins (some last) prior world
      ⟨record, start⟩
    obtain ⟨record, underway⟩ := good
    rcases (underway.at time).step delays prior with ⟨-, done⟩ | ⟨differs, retry, next⟩
    · exact .inl done
    · exact .inr ⟨retry, 0, (underway.pending differs).1, next⟩

def trailCalls : List Call :=
  [.createEndpoint
      { creatorRequestId := "outbound-0"
        name := "outbound"
        direction := .outbound
        endpointType := none
        securityGroupIds := ["sg-1"]
        ipAddresses := [⟨"subnet-a", none, none⟩, ⟨"subnet-b", none, none⟩]
        tags := [] },
    .createRule
      { creatorRequestId := "internal-0"
        name := "internal"
        domainName := "corp.example."
        ruleType := .forward
        resolverEndpointId := some "rslvr-out-00000000000000001"
        targetIps := [⟨some "10.1.0.2", none, none⟩]
        tags := [⟨"team", "net"⟩] },
    .associateRule "rslvr-rr-00000000000000004" "vpc-1",
    .associateRule "rslvr-rr-00000000000000004" "vpc-2",
    .disassociateRule "rslvr-rr-00000000000000004" "vpc-1",
    .disassociateRule "rslvr-rr-00000000000000004" "vpc-2",
    .associateRule "rslvr-rr-00000000000000004" "vpc-1"]

def trailWorld : World := World.still.completeAll trailCalls

/-- The same rule as it should be, for another network. -/
def movedRule : RuleSpec where
  name := "internal"
  createdAt := none
  domainName := "Corp.Example"
  ruleType := .forward
  resolverEndpointId := some "rslvr-out-00000000000000001"
  resolverEndpointRef := none
  targetIps := [⟨some "10.1.0.3", none, some 53⟩]
  associations := [⟨"vpc-2"⟩, ⟨"vpc-3"⟩, ⟨"vpc-2"⟩]
  tags := ∅

theorem trail_series_realizes :
    let id := "rslvr-rr-00000000000000004"
    let known : Rule := { (default : Rule) with status := { (default : RuleStatus) with
      id := some id } }
    let pass := ruleManager.series {} movedRule (fun pass => 5000 * pass) (some known) ∅ trailWorld
    (pass 0).1.outcome = .retry (some 5000) refreshReason ∧ ∃ count ≤ 1,
      (∀ earlier < count, (pass earlier).1.outcome = .retry (some 5000) refreshReason) ∧
      (pass count).1.outcome = .converged ∧
      ∃ new, Realized movedRule id (pass count).2.registry new := by
  intro id known pass
  let record := (trailWorld.registry.rules.get? id).getD default
  have held : trailWorld.registry.rules.get? id = some record := by decide +kernel
  have live : ∀ endpointId ∈ movedRule.resolverEndpointId,
      trailWorld.registry.Live endpointId .endpoint := by
    intro endpointId asked
    cases asked
    show trailWorld.registry.endpoints.get? _ ≠ none
    decide +kernel
  have reached : trailWorld.Reachable := World.Reachable.still.completeAll trailCalls
  have calm : trailWorld.IsCalm := by
    show trailWorld.journal.faults = []
    decide +kernel
  have domain : sameDomain movedRule.domainName record.domainName = true := by decide +kernel
  have ruleType : movedRule.ruleType = record.ruleType := by decide +kernel
  have room : trailWorld.registry.HasRoom movedRule.associations.length := by decide +kernel
  have series := rule_series_realizes reached calm held domain ruleType live
    (fun _ => by decide +kernel) room (show known.id? = some id from rfl) {}
    (fun pass => 5000 * pass) ∅
  have differs : RecordDiffers movedRule record := .inr (.inl (by decide +kernel))
  exact ⟨series.1.2 differs, series.2⟩

end Converge.Resolver.Rule
