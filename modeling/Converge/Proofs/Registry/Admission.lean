import Converge.Proofs.Agent.Integrity

/-! Which rules may be made, and what an update may make of one. An update looks at what it is given
and not at the rule that comes of it. So it gives targets to a rule that does not forward, and lets
a rule that forwards keep an endpoint that is gone; every other rule that it leaves could be made. -/
namespace Converge.Provider

open Resolver

structure RuleRequest.IsFor (request : RuleRequest) (record : RuleRecord) : Prop where
  ruleType : request.ruleType = record.ruleType
  domainName : request.domainName = record.domainName
  targetIps : request.targetIps = record.targetIps
  resolverEndpointId : request.resolverEndpointId = record.resolverEndpointId

namespace Registry

variable {site : Site} {now : Timestamp} {registry after : Registry} {record : RuleRecord}
  {request : RuleRequest} {update : RuleUpdate}

def Domained (registry : Registry) : Prop :=
  ∀ id record, registry.rules.get? id = some record → record.domainName ≠ ""

theorem Domained.perform (domained : registry.Domained) {call : Call} {value : call.Value}
    (done : registry.perform site now call = .ok (value, after)) : after.Domained := by
  intro id record held
  rcases stored_perform done held with before | ⟨request, checked, rfl⟩ | ⟨update, old, there, -,
    rfl⟩
  · exact domained id record before
  · exact (checkRule_eq_ok_iff.1 checked).1
  · exact domained id old there

theorem checkRule_of_isFor (same : request.IsFor record) :
    registry.checkRule request = .ok () ↔
      record.domainName ≠ "" ∧ (record.ruleType = .forward ↔ record.targetIps ≠ []) ∧
        registry.Anchors record := by
  obtain ⟨ruleType, domainName, targetIps, resolverEndpointId⟩ := same
  rw [checkRule_eq_ok_iff, ruleType, domainName, targetIps, resolverEndpointId]
  by_cases forwards : record.ruleType = .forward
  · simp [forwards, Anchors]
  · simp [forwards, Anchors]

/-- What an update does not look at: targets of a rule that does not forward, and the endpoint that
a rule keeps. -/
def Strays (registry : Registry) (update : RuleUpdate) (old : RuleRecord) : Prop :=
  (old.ruleType ≠ .forward ∧ update.targetIps.getD old.targetIps ≠ []) ∨
    (update.resolverEndpointId = none ∧ ¬registry.Anchors old)

theorem checkRule_updatedRule_iff {id : String} {old : RuleRecord}
    (domained : registry.Domained) (valid : registry.Valid site)
    (held : registry.rules.get? id = some old)
    (live : ∀ endpointId ∈ update.resolverEndpointId, registry.Live endpointId .endpoint)
    (kept : ¬(old.ruleType = .forward ∧ update.targetIps = some []))
    (same : request.IsFor (updatedRule now update old)) :
    registry.checkRule request = .ok () ↔ ¬registry.Strays update old := by
  have domain : (updatedRule now update old).domainName ≠ "" := domained id old held
  have targets : (updatedRule now update old).targetIps = update.targetIps.getD old.targetIps := rfl
  have ruleType : (updatedRule now update old).ruleType = old.ruleType := rfl
  have forwards : old.ruleType = .forward → update.targetIps.getD old.targetIps ≠ [] := by
    intro forwards
    cases given : update.targetIps with
    | none => exact ((valid.rule id old held).forwards forwards).2
    | some targetIps =>
      intro none
      exact kept ⟨forwards, given.trans (congrArg some none)⟩
  rw [checkRule_of_isFor same, anchors_updatedRule_iff live, targets, ruleType, Strays]
  constructor
  · rintro ⟨-, agree, anchors⟩ (⟨other, some⟩ | ⟨none, adrift⟩)
    · exact other (agree.2 some)
    · exact anchors.elim (fun given => given none) adrift
  · intro stays
    refine ⟨domain, ⟨forwards, fun some => ?_⟩, ?_⟩
    · exact Classical.not_not.1 fun other => stays (.inl ⟨other, some⟩)
    · exact Classical.or_iff_not_imp_left.2 fun none =>
        Classical.not_not.1 fun adrift => stays (.inr ⟨Classical.not_not.1 none, adrift⟩)

end Registry

namespace World

variable {world : World} {bounds : Bounds} {id : String} {update : RuleUpdate}
  {record : RuleRecord} {request : RuleRequest}

theorem Reachable.domained (reached : world.Reachable) : world.registry.Domained := by
  induction reached with
  | new sized bare => exact bare ▸ fun id record held => by cases held
  | @begun world bounds call reached ih =>
    have same : (world.begin bounds call).2.registry = world.registry := begin_registry
    exact same ▸ ih
  | @completed world call reached ih =>
    unfold complete
    split
    · next value registry done => exact ih.perform done
    · exact ih
  | elapsed | arranged | cleared => assumption
  | forced forced reached ih =>
    obtain ⟨stored, -, rfl⟩ := Registry.setStatus_eq_ok_iff.1 forced
    exact ih

theorem complete_createRule_iff
    (unused : world.registry.ruleTokens.get? request.creatorRequestId = none) :
    (∃ made, (world.complete (.createRule request)).1 = .ok made) ↔
      world.registry.checkRule request = .ok () := by
  have performs : world.registry.perform world.site world.now (.createRule request) =
      world.registry.createRule world.site world.now request := rfl
  unfold complete
  rw [performs]
  split
  · next made registry done =>
    exact iff_of_true ⟨made, rfl⟩ ((Registry.createRule_of_unknown unused).1 done).1
  · next failure rejected =>
    refine iff_of_false (fun ⟨made, same⟩ => by cases same) fun checked => ?_
    rw [(Registry.createRule_of_unknown unused).2 ⟨checked, rfl, rfl⟩] at rejected
    cases rejected

/-- An update that succeeds is kept as it is returned, and it makes a rule of which another one
could be made, with the same type and domain and the same targets and endpoint, unless it gives
targets to a rule that does not forward or leaves one that does with an endpoint that is gone. -/
theorem update_admitted_iff (reached : world.Reachable)
    (done : (world.serve bounds (.updateRule id update)).1 = .ok record) :
    let after := (world.serve bounds (.updateRule id update)).2
    ∃ old, world.registry.rules.get? id = some old ∧
      after.registry.rules.get? id = some record ∧
      ∀ request : RuleRequest, request.IsFor record →
        after.registry.ruleTokens.get? request.creatorRequestId = none →
        ((∃ made, (after.complete (.createRule request)).1 = .ok made) ↔
          ¬world.registry.Strays update old) := by
  intro after
  have answered : Answered world.site anyRefusal (.updateRule id update) world.registry
      (world.serve bounds (.updateRule id update)).1 after.registry := answered_serve
  rw [done] at answered
  generalize same : after.registry = registry at answered
  cases answered with
  | done now done =>
    obtain ⟨live, old, held, kept, rfl, rfl⟩ := Registry.updateRule_eq_ok_iff.1 done
    refine ⟨old, held, ?_, fun request isFor unused => ?_⟩
    · exact (NameMap.get?_insert _ _ _ _).trans (if_pos rfl)
    · rw [← same] at unused
      rw [complete_createRule_iff unused, same]
      -- No endpoint has come or gone, so the check says what it would have said before.
      change world.registry.checkRule request = .ok () ↔ _
      exact Registry.checkRule_updatedRule_iff reached.domained reached.valid.1 held live kept isFor

/-- A rule that forwards through the first of two endpoints, which is then deleted. -/
def adrift : World :=
  let endpoint (name : String) : EndpointRequest :=
    { creatorRequestId := name
      name
      direction := .outbound
      endpointType := none
      securityGroupIds := ["sg-1"]
      ipAddresses := [⟨"subnet-a", none, none⟩, ⟨"subnet-b", none, none⟩]
      tags := [] }
  still.completeAll
    [.createEndpoint (endpoint "east"), .createEndpoint (endpoint "west"),
      .createRule
        { creatorRequestId := "outward-0"
          name := "outward"
          domainName := "corp.example."
          ruleType := .forward
          resolverEndpointId := some "rslvr-out-00000000000000001"
          targetIps := [⟨some "10.0.0.53", none, none⟩]
          tags := [] },
      .deleteEndpoint "rslvr-out-00000000000000001"]

theorem adrift_reachable : adrift.Reachable := Reachable.still.completeAll _

def requestFor (record : RuleRecord) (token : String) : RuleRequest :=
  { creatorRequestId := token
    name := record.name
    domainName := record.domainName
    ruleType := record.ruleType
    resolverEndpointId := record.resolverEndpointId
    targetIps := record.targetIps
    tags := [] }

theorem requestFor_isFor (record : RuleRecord) (token : String) :
    (requestFor record token).IsFor record := ⟨rfl, rfl, rfl, rfl⟩

theorem update_admitted_iff_adrift :
    let renamed := adrift.serve .unbounded
      (.updateRule "rslvr-rr-00000000000000007" ⟨some "onward", none, none⟩)
    let moored := adrift.serve .unbounded (.updateRule "rslvr-rr-00000000000000007"
      ⟨none, some "rslvr-out-00000000000000004", none⟩)
    (∃ record, renamed.1 = .ok record ∧
      ¬∃ made, (renamed.2.complete (.createRule (requestFor record "onward-0"))).1 = .ok made) ∧
    ∃ record, moored.1 = .ok record ∧
      ∃ made, (moored.2.complete (.createRule (requestFor record "onward-0"))).1 = .ok made := by
  intro renamed moored
  have ruleType : (adrift.registry.rules.get? "rslvr-rr-00000000000000007").map
      RuleRecord.ruleType = some .forward := by decide +kernel
  have target : (adrift.registry.rules.get? "rslvr-rr-00000000000000007").map
      RuleRecord.resolverEndpointId = some (some "rslvr-out-00000000000000001") := by
    decide +kernel
  refine ⟨⟨_, rfl, ?_⟩, ⟨_, rfl, ?_⟩⟩
  · obtain ⟨old, held, -, made⟩ := update_admitted_iff adrift_reachable
      (show renamed.1 = .ok _ from rfl)
    rw [held] at ruleType target
    rw [made _ (requestFor_isFor _ _) (by decide +kernel)]
    refine not_not_intro (.inr ⟨rfl, fun anchors => ?_⟩)
    obtain ⟨endpointId, kept, live⟩ := anchors (Option.some.inj ruleType)
    cases (Option.some.inj target).symm.trans kept
    exact live (by decide +kernel)
  · obtain ⟨old, held, -, made⟩ := update_admitted_iff adrift_reachable
      (show moored.1 = .ok _ from rfl)
    rw [held] at ruleType
    rw [made _ (requestFor_isFor _ _) (by decide +kernel)]
    rintro (⟨other, -⟩ | ⟨none, -⟩)
    · exact other (Option.some.inj ruleType)
    · cases none

/-- A rule that keeps queries within. -/
def inward : World :=
  still.completeAll
    [.createRule
      { creatorRequestId := "inward-0"
        name := "inward"
        domainName := "corp.example."
        ruleType := .system
        resolverEndpointId := none
        targetIps := []
        tags := [] }]

/-- A rule that does not forward may be given targets, with which it could not be made. -/
theorem not_always_admitted :
    ¬∀ (world : World) (bounds : Bounds) (id : String) (update : RuleUpdate) (record : RuleRecord)
      (request : RuleRequest), world.Reachable →
      (world.serve bounds (.updateRule id update)).1 = .ok record → request.IsFor record →
      let after := (world.serve bounds (.updateRule id update)).2
      after.registry.ruleTokens.get? request.creatorRequestId = none →
      ∃ made, (after.complete (.createRule request)).1 = .ok made := by
  intro always
  have admitted := always inward .unbounded "rslvr-rr-00000000000000001"
    ⟨none, none, some [⟨some "10.0.0.53", none, none⟩]⟩ _ _ (Reachable.still.completeAll _) rfl
    (requestFor_isFor _ "inward-1") (by decide +kernel)
  rw [complete_createRule_iff (by decide +kernel)] at admitted
  cases admitted

end World

end Converge.Provider
