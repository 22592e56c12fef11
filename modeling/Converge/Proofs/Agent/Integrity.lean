import Converge.Proofs.Agent.References
import Converge.Proofs.Agent.Teardown
import Converge.Proofs.Moves

/-! Rules and the endpoints that they forward through. A rule can only be made or changed while its
endpoint is live, so it takes the deletion of an endpoint to leave a rule without one. A teardown
begins with the rules, and as long as it deletes rules every rule left has its endpoint. -/
namespace Converge

open Provider Resolver Program

/-- The call changes which rules there are, or what one of them is. -/
def Provider.Call.changesRules : Call → Bool
  | createRule _ | updateRule _ _ | deleteRule _ => true
  | _ => false

namespace Provider.Registry

variable {site : Site} {now : Timestamp} {registry after : Registry} {record : RuleRecord}

def Anchors (registry : Registry) (record : RuleRecord) : Prop :=
  record.ruleType = .forward →
    ∃ endpointId, record.resolverEndpointId = some endpointId ∧ registry.Live endpointId .endpoint

def Anchored (registry : Registry) : Prop :=
  ∀ id record, registry.rules.get? id = some record → registry.Anchors record

def NoneForwards (registry : Registry) : Prop :=
  ∀ id record, registry.rules.get? id = some record → record.ruleType ≠ .forward

theorem NoneForwards.anchored (none : registry.NoneForwards) : registry.Anchored :=
  fun id record held forwards => absurd forwards (none id record held)

theorem Anchors.mono (anchors : registry.Anchors record)
    (lives : ∀ id, registry.Live id .endpoint → after.Live id .endpoint) :
    after.Anchors record := fun forwards =>
  (anchors forwards).imp fun id target => target.imp_right (lives id)

theorem anchors_newRule {request : RuleRequest} (checked : registry.checkRule request = .ok ()) :
    registry.Anchors (registry.newRule site now request).1 := by
  intro forwards
  obtain ⟨-, checked⟩ := checkRule_eq_ok_iff.1 checked
  rw [if_pos (show request.ruleType = .forward from forwards)] at checked
  exact checked.2

theorem anchors_updatedRule_iff {update : RuleUpdate}
    (live : ∀ endpointId ∈ update.resolverEndpointId, registry.Live endpointId .endpoint) :
    registry.Anchors (updatedRule now update record) ↔
      update.resolverEndpointId ≠ none ∨ registry.Anchors record := by
  cases given : update.resolverEndpointId with
  | none => simp [Anchors, updatedRule, given]
  | some endpointId =>
    have target : (updatedRule now update record).resolverEndpointId = some endpointId := by
      simp [updatedRule, given]
    simp only [ne_eq, reduceCtorEq, not_false_eq_true, true_or, iff_true]
    exact fun _ => ⟨endpointId, target, live endpointId given⟩

theorem rules_perform {call : Call} {value : call.Value} (other : call.changesRules = false)
    (done : registry.perform site now call = .ok (value, after)) :
    after.rules = registry.rules := by
  cases call with
  | createRule | updateRule | deleteRule => cases other
  | getEndpoint | getRule | listAddresses | listAssociations | listTags =>
    obtain ⟨-, rfl⟩ := look_eq_ok_iff.1 done
    rfl
  | createEndpoint request =>
    cases known : registry.endpointTokens.get? request.creatorRequestId with
    | some entry =>
      obtain ⟨-, rfl, -⟩ := (createEndpoint_of_known known).1 done
      rfl
    | none =>
      obtain ⟨-, -, -, rfl⟩ := (createEndpoint_of_unknown known).1 done
      simp [newEndpoint, addEndpoint, putEndpoint, issue]
  | updateEndpoint =>
    obtain ⟨stored, -, -, rfl⟩ := updateEndpoint_eq_ok_iff.1 done
    rfl
  | deleteEndpoint =>
    obtain ⟨stored, -, rfl⟩ := deleteEndpoint_eq_ok_iff.1 done
    rfl
  | associateAddress =>
    obtain ⟨stored, -, effect⟩ := associateAddress_eq_ok_iff.1 done
    split at effect <;> simp [effect.2]
  | disassociateAddress =>
    obtain ⟨stored, -, effect⟩ := disassociateAddress_eq_ok_iff.1 done
    split at effect
    · simp [effect.2.2]
    · simp [effect.2]
  | associateRule =>
    obtain ⟨-, ⟨-, rfl⟩ | ⟨-, -, rfl⟩⟩ := associateRule_eq_ok done <;> rfl
  | disassociateRule =>
    obtain ⟨associations, -, rfl⟩ := disassociateRule_eq_ok_iff.1 done
    rfl
  | tag =>
    obtain ⟨tags, -, rfl⟩ := tag_eq_ok_iff.1 done
    rfl
  | untag =>
    obtain ⟨tags, -, rfl⟩ := untag_eq_ok_iff.1 done
    rfl

theorem stored_perform {call : Call} {value : call.Value}
    (done : registry.perform site now call = .ok (value, after)) {id : String}
    (held : after.rules.get? id = some record) :
    registry.rules.get? id = some record ∨
      (∃ request, registry.checkRule request = .ok () ∧
        record = (registry.newRule site now request).1) ∨
      ∃ update old, registry.rules.get? id = some old ∧
        (∀ endpointId ∈ update.resolverEndpointId, registry.Live endpointId .endpoint) ∧
        record = updatedRule now update old := by
  cases rules : call.changesRules with
  | false => exact .inl (rules_perform rules done ▸ held)
  | true =>
    cases call with
    | createRule request =>
      cases known : registry.ruleTokens.get? request.creatorRequestId with
      | some entry =>
        obtain ⟨-, rfl, -⟩ := (createRule_of_known known).1 done
        exact .inl held
      | none =>
        obtain ⟨checked, -, rfl⟩ := (createRule_of_unknown known).1 done
        replace held := (NameMap.get?_insert _ _ _ _).symm.trans held
        split at held
        · exact .inr (.inl ⟨request, checked, (Option.some.inj held).symm⟩)
        · exact .inl held
    | updateRule other update =>
      obtain ⟨live, old, there, -, -, rfl⟩ := updateRule_eq_ok_iff.1 done
      rw [NameMap.get?_insert] at held
      split at held
      · next same =>
        exact .inr (.inr ⟨update, old, same ▸ there, live, (Option.some.inj held).symm⟩)
      · exact .inl held
    | deleteRule other =>
      obtain ⟨gone, -, rfl⟩ := deleteRule_eq_ok done
      rw [NameMap.get?_erase] at held
      split at held
      · cases held
      · exact .inl held
    | _ => cases rules

/-- A rule that is there after a call was there before, or had a live endpoint when it was made or
updated. -/
theorem Anchored.anchors_perform (anchored : registry.Anchored) {call : Call} {value : call.Value}
    (done : registry.perform site now call = .ok (value, after)) {id : String}
    (held : after.rules.get? id = some record) : registry.Anchors record := by
  rcases stored_perform done held with before | ⟨request, checked, rfl⟩ | ⟨update, old, there, live,
    rfl⟩
  · exact anchored id record before
  · exact anchors_newRule checked
  · exact (anchors_updatedRule_iff live).2 (.inr (anchored id old there))

theorem live_endpoint_perform (valid : registry.Valid site) {call : Call} {value : call.Value}
    (spares : call.operation ≠ .deleteEndpoint)
    (done : registry.perform site now call = .ok (value, after)) {id : String}
    (live : registry.Live id .endpoint) : after.Live id .endpoint := by
  by_cases keeps : call.operation = .deleteRule
  · cases call with
    | deleteRule => exact (live_deleteRule done).2 ⟨live, nofun⟩
    | _ => cases keeps
  · exact ((perform_growth valid ⟨spares, keeps⟩ done).keeps valid).live live

/-- Only the deletion of an endpoint can leave a rule without one. -/
theorem Anchored.perform (anchored : registry.Anchored) (valid : registry.Valid site) {call : Call}
    {value : call.Value} (spares : call.operation ≠ .deleteEndpoint)
    (done : registry.perform site now call = .ok (value, after)) : after.Anchored :=
  fun _ _ held => (anchored.anchors_perform done held).mono fun _ =>
    live_endpoint_perform valid spares done

theorem Anchored.answered {refusal : Call → Failure → Prop} {call : Call} {reply : call.Reply}
    (anchored : registry.Anchored) (valid : registry.Valid site)
    (spares : call.operation ≠ .deleteEndpoint)
    (answered : Answered site refusal call registry reply after) : after.Anchored := by
  cases answered with
  | done now done => exact anchored.perform valid spares done
  | rejected | refused => exact anchored

end Provider.Registry

namespace Run

variable {agent : Agent} {world : World} {shutdownAt : Option Nat} {log : List Made}
  {run after : Run} {worker moved : Worker}

theorem Turn.anchored (turn : Turn run worker after moved) (reached : run.world.Reachable)
    (tracked : worker.Tracked run.world run.table) (anchored : run.registry.Anchored) :
    after.registry.Anchored := by
  cases turn with
  | rests | departs | reports => exact anchored
  | @waits errand world phase asks goes onward same =>
    show world.registry.Anchored
    rw [same]
    exact anchored
  | hears asks goes onward answered =>
    have keeping := (tracked.flying _ asks).proper.1.keeping
    exact Registry.Anchored.answered anchored reached.valid.1 keeping.1 answered

theorem Reached.anchored (steady : Steady agent.jobs) (new : world.Reachable)
    (blank : agent.table = ∅) (start : world.registry.Anchored)
    (reached : Reached agent world shutdownAt log run) : run.registry.Anchored := by
  induction reached with
  | start => exact start
  | elapsed | arranged => assumption
  | @acted log run number worker here reached ih =>
    exact (turn_act run worker).anchored (reached.reachable new)
      (reached.tracked steady new blank worker (List.mem_of_getElem? here)) ih

end Run

namespace Agent

section Deletions

variable {D O : Type} {manager : Manager Call Call.Reply D O} {timeout : Option Nat}
  {world : World}

/-- A provider before, between and after the calls that delete some resources, each in its own
time. -/
def deletionWorlds (manager : Manager Call Call.Reply D O) (timeout : Option Nat) :
    List (String × Entry O) → World → List World
  | [], world => [world]
  | (_, entry) :: rest, world =>
    (manager.finalize entry.observed).states (World.serve ⟨timeout.map (world.time + ·), none⟩)
      world ++ deletionWorlds manager timeout rest (deleteOne manager timeout entry world).2

theorem exists_deleteAll_cons (name : String) (entry : Entry O) (rest : List (String × Entry O))
    (left : NameMap (Entry O)) (world : World) :
    ∃ others, deleteAll manager timeout ((name, entry) :: rest) left world =
      deleteAll manager timeout rest others (deleteOne manager timeout entry world).2 := by
  unfold deleteOne
  rw [deleteAll]
  split
  · next after same => exact ⟨left.erase name, by rw [same]⟩
  · next failure after same => exact ⟨left, by rw [same]⟩

theorem deleteAll_mem_deletionWorlds (entries : List (String × Entry O))
    (left : NameMap (Entry O)) (world : World) :
    (deleteAll manager timeout entries left world).2 ∈
      deletionWorlds manager timeout entries world := by
  induction entries generalizing left world with
  | nil => exact List.mem_singleton_self _
  | cons item rest ih =>
    obtain ⟨name, entry⟩ := item
    obtain ⟨others, same⟩ := exists_deleteAll_cons name entry rest left world
    rw [same, deletionWorlds]
    exact List.mem_append_right _ (ih others _)

theorem reachable_deleteAll (reached : world.Reachable) {entries : List (String × Entry O)}
    {left : NameMap (Entry O)} : (deleteAll manager timeout entries left world).2.Reachable := by
  induction entries generalizing left world with
  | nil => exact reached
  | cons item rest ih =>
    obtain ⟨name, entry⟩ := item
    obtain ⟨others, same⟩ := exists_deleteAll_cons name entry rest left world
    rw [same]
    exact ih (reached.run _ _)

theorem forall_deletionWorlds (allowed : Call → Prop) (kept : Registry → Prop)
    {entries : List (String × Entry O)}
    (valid : world.registry.Valid world.site)
    (asks : ∀ observed, (manager.finalize observed).Asks allowed)
    (keeps : ∀ {now call value before after}, allowed call → before.Valid world.site →
      kept before → before.perform world.site now call = .ok (value, after) → kept after)
    (start : kept world.registry) :
    ∀ middle ∈ deletionWorlds manager timeout entries world, kept middle.registry := by
  -- The induction is on the entries; each deletion begins with what the one before has left.
  induction entries generalizing world with
  | nil => exact fun middle there => List.mem_singleton.1 there ▸ start
  | cons item rest ih =>
    obtain ⟨name, entry⟩ := item
    intro middle there
    have fine := World.forall_states kept ⟨timeout.map (world.time + ·), none⟩ valid
      (asks entry.observed) keeps start
    rcases List.mem_append.1 there with own | later
    · exact (fine middle own).2
    · have site : (deleteOne manager timeout entry world).2.site = world.site :=
        World.run_later.site
      obtain ⟨valid, holds⟩ := fine _ (run_mem_states _ _)
      exact ih (site.symm ▸ valid) (site.symm ▸ keeps) holds middle later

end Deletions

variable (agent : Agent) (world : World)

def ruleWorlds : List World :=
  deletionWorlds ruleManager agent.config.callTimeout agent.table.rules.entries world

def afterRules : World :=
  (deleteAll ruleManager agent.config.callTimeout agent.table.rules.entries agent.table.rules
    world).2

def endpointWorlds : List World :=
  deletionWorlds endpointManager agent.config.callTimeout agent.table.endpoints.entries
    (agent.afterRules world)

theorem teardown_mem_endpointWorlds :
    agent.afterRules world ∈ agent.ruleWorlds world ∧
      (agent.teardown world).2.2 ∈ agent.endpointWorlds world :=
  ⟨deleteAll_mem_deletionWorlds _ _ _, deleteAll_mem_deletionWorlds _ _ _⟩

variable {agent world}

theorem reachable_afterRules (reached : world.Reachable) : (agent.afterRules world).Reachable :=
  reachable_deleteAll reached

theorem anchored_ruleWorlds (reached : world.Reachable) (anchored : world.registry.Anchored) :
    ∀ middle ∈ agent.ruleWorlds world, middle.registry.Anchored :=
  forall_deletionWorlds (fun call => call.operation ≠ .deleteEndpoint)
    Registry.Anchored reached.valid.1
    (fun _ => Manager.asks_finalize fun _ _ =>
      Rule.asks_delete (fun _ _ _ => nofun) fun _ _ => nofun)
    (fun spares valid anchored done => anchored.perform valid spares done) anchored

theorem anchored_endpointWorlds (reached : world.Reachable)
    (none : (agent.afterRules world).registry.NoneForwards) :
    ∀ middle ∈ agent.endpointWorlds world, middle.registry.Anchored := by
  -- No rule is made while endpoints are deleted, so none is left to lose its endpoint.
  have left : ∀ middle ∈ agent.endpointWorlds world, middle.registry.NoneForwards :=
    forall_deletionWorlds (fun call => call.changesRules = false)
      Registry.NoneForwards (reachable_afterRules reached).valid.1
      (fun _ => Manager.asks_finalize fun _ _ => Endpoint.asks_delete (fun _ => rfl) _)
      (fun other _ none done id record held =>
        none id record (Registry.rules_perform other done ▸ held)) none
  exact fun middle there => (left middle there).anchored

end Agent

namespace Run

variable {world : World} {shutdownAt : Option Nat} {log : List Made} {run : Run}

/-- However the workers of an agent take turns at an empty provider, and whatever fails, every rule
that forwards has a live endpoint at every moment of a run and, in a teardown after it, for as long
as rules are deleted. It stays so to the end, whatever fails then, if no rule that forwards is left
by that time; and so it is if the run has finished and no call for the rules was refused or cut off,
unless a look at a rule was refused as if the rule were missing. -/
theorem anchored_throughout {manifest : Manifest} {config : AgentConfig} {now : Timestamp}
    (valid : manifest.validate = .ok ()) (new : world.Reachable) (empty : world.registry = ∅)
    (reached : Reached (.new manifest config now) world shutdownAt log run) :
    let agent := { Agent.new manifest config now with table := run.table }
    run.registry.Anchored ∧
    (∀ middle ∈ agent.ruleWorlds run.world, middle.registry.Anchored) ∧
    ((agent.afterRules run.world).registry.NoneForwards →
      ∀ middle ∈ agent.endpointWorlds run.world, middle.registry.Anchored) ∧
    (run.isFinished = true → IsCandid log → run.registry.HasRoom 0 →
      Agent.deletionsServed ruleManager config.callTimeout run.table.rules.entries run.world =
        true →
      ∀ middle ∈ agent.endpointWorlds run.world, middle.registry.Anchored) := by
  intro agent
  have steady := Agent.steady_jobs valid config now
  have reachable := reached.reachable new
  have start : world.registry.Anchored := empty ▸ fun id record held => by cases held
  have anchored := reached.anchored steady new rfl start
  refine ⟨anchored, agent.anchored_ruleWorlds reachable anchored,
    agent.anchored_endpointWorlds reachable, fun finished candid room served => ?_⟩
  have stopped := (Bool.and_eq_true_iff.1 finished).1
  have covers := reached.covers steady new empty rfl candid room.serial_le stopped
  have cleared : Agent.Cleared .rule (run.table.entries .rule).entries run.table.rules
      run.world _ :=
    Agent.cleared_deleteAll Rule.clears reachable.valid.1 (fun _ => covers.covers_of_mem) served
  refine agent.anchored_endpointWorlds reachable fun id record held => ?_
  exact absurd (Option.ne_none_iff_exists'.2 ⟨record, held⟩) (covers.not_live cleared id)

def forwarder : Agent := .new referring { once := true } .epoch

def stalling (operation : Operation) : World :=
  { World.still with
    journal := World.still.journal.failNth ⟨operation, 1, "ThrottlingException"⟩ }

def forwarded (operation : Operation) : List Made × Run :=
  (Run.start forwarder (stalling operation) none).play
    (List.replicate 10 0 ++ List.replicate 10 1)

theorem anchored_throughout_stalling :
    let run := (forwarded .deleteEndpoint).2
    let agent := { forwarder with table := run.table }
    run.registry.rules.size = 1 ∧ (agent.teardown run.world).1 = .error ⟨1⟩ ∧
      ∀ middle ∈ agent.endpointWorlds run.world, middle.registry.Anchored := by
  intro run agent
  refine ⟨by decide +kernel, by decide +kernel, ?_⟩
  exact (anchored_throughout (show referring.validate = .ok () by decide +kernel)
    (.arranged _ .still) rfl (Reached.start.play _)).2.2.2 (by decide +kernel) (by decide +kernel)
    (by decide +kernel) (by decide +kernel)

/-- The rule cannot be deleted, but its endpoint is. -/
theorem not_always_anchored :
    ¬∀ (manifest : Manifest) (config : AgentConfig) (now : Timestamp) (world : World)
      (shutdownAt : Option Nat) (log : List Made) (run : Run), manifest.validate = .ok () →
      world.Reachable → world.registry = ∅ →
      Reached (.new manifest config now) world shutdownAt log run → run.isFinished = true →
      ∀ middle ∈ { Agent.new manifest config now with table := run.table }.endpointWorlds run.world,
        middle.registry.Anchored := by
  intro always
  let agent := { forwarder with table := (forwarded .deleteRule).2.table }
  let left := (agent.teardown (forwarded .deleteRule).2.world).2.2.registry
  have anchored : left.Anchored := always referring { once := true } .epoch (stalling .deleteRule)
    none _ _ (by decide +kernel) (.arranged _ .still) rfl (Reached.start.play _)
    (by decide +kernel) _ (agent.teardown_mem_endpointWorlds _).2
  let record := (left.rules.get? "rslvr-rr-00000000000000004").getD default
  obtain ⟨endpointId, -, live⟩ := anchored "rslvr-rr-00000000000000004" record
    (by decide +kernel) (by decide +kernel)
  have bare : left.endpoints = ∅ := by decide +kernel
  refine live ?_
  rw [bare]
  rfl

end Run

end Converge
