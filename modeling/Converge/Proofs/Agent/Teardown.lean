import Converge.Agent.Teardown
import Converge.Proofs.Agent.Upkeep
import Converge.Proofs.Provider.Removal

/-! The end of a run. If the table shows all that is there, and no call is refused or cut off, a
teardown leaves nothing behind, neither at the provider nor in the table. -/
namespace Converge

open Provider Resolver Program

namespace Provider.World

/-- None of the calls that the program comes to make is refused or cut off. -/
def servesAll {α : Type} (bounds : Bounds) : Program Call Call.Reply α → World → Bool
  | .done _, _ => true
  | .ask call next, world =>
    let (reply, after) := world.serve bounds call
    world.serves bounds call && servesAll bounds (next reply) after

variable {world : World} {bounds : Bounds}

theorem post_run_of_servesAll {α : Type} {program : Program Call Call.Reply α}
    {post : α → Registry → Prop} (served : servesAll bounds program world = true)
    (always : program.Always (Answered world.site noRefusal) post world.registry) :
    post (program.run (World.serve bounds) world).1
      (program.run (World.serve bounds) world).2.registry := by
  induction program generalizing world with
  | done value => exact always
  | ask call next ih =>
    obtain ⟨first, rest⟩ := Bool.and_eq_true_iff.1 served
    have site : (world.serve bounds call).2.site = world.site := serve_later.site
    exact ih _ rest (site ▸ always _ _ (answered_of_serves first))

end Provider.World

namespace Agent

/-- The provider after the deletion of one resource, and whether that succeeded. -/
def deleteOne {D O : Type} (manager : Manager Call Call.Reply D O) (timeout : Option Nat)
    (entry : Entry O) (world : World) : Except Failure Unit × World :=
  (manager.finalize entry.observed).run
    (World.serve ⟨timeout.map (world.time + ·), none⟩) world

def deletionsServed {D O : Type} (manager : Manager Call Call.Reply D O) (timeout : Option Nat) :
    List (String × Entry O) → World → Bool
  | [], _ => true
  | (_, entry) :: rest, world =>
    World.servesAll ⟨timeout.map (world.time + ·), none⟩ (manager.finalize entry.observed) world &&
      deletionsServed manager timeout rest (deleteOne manager timeout entry world).2

/-- No call of a teardown is refused or cut off. -/
def teardownServed (agent : Agent) (world : World) : Bool :=
  let timeout := agent.config.callTimeout
  let rules := agent.table.rules
  deletionsServed ruleManager timeout rules.entries world &&
    deletionsServed endpointManager timeout agent.table.endpoints.entries
      (deleteAll ruleManager timeout rules.entries rules world).2

section Deletions

variable {kind : ArnKind} {D : Type} {manager : Manager Call Call.Reply D kind.Snapshot}
  {timeout : Option Nat} {name : String} {entry : Entry kind.Snapshot}
  {rest entries : List (String × Entry kind.Snapshot)} {left : NameMap (Entry kind.Snapshot)}
  {world : World}

theorem deleteAll_cons_of_ok (done : (deleteOne manager timeout entry world).1 = .ok ()) :
    deleteAll manager timeout ((name, entry) :: rest) left world =
      deleteAll manager timeout rest (left.erase name)
        (deleteOne manager timeout entry world).2 := by
  unfold deleteOne at done ⊢
  rw [deleteAll]
  split
  · next after same => rw [same]
  · next failed => rw [failed] at done; cases done

structure Cleared (kind : ArnKind) (entries : List (String × Entry kind.Snapshot))
    (left : NameMap (Entry kind.Snapshot)) (world : World)
    (result : NameMap (Entry kind.Snapshot) × World) : Prop where
  left : result.1 = left.eraseAll (entries.map Prod.fst)
  site : result.2.site = world.site
  shrinks : world.registry.Shrinks world.site result.2.registry
  gone : ∀ item ∈ entries, ∀ id ∈ item.2.observed.bind kind.id?, ¬result.2.registry.Live id kind

theorem cleared_deleteAll (clears : manager.Clears kind) (valid : world.registry.Valid world.site)
    (covers : ∀ item ∈ entries, ∀ observed ∈ item.2.observed, kind.Covers world.registry observed)
    (served : deletionsServed manager timeout entries world = true) :
    Cleared kind entries left world (deleteAll manager timeout entries left world) := by
  induction entries generalizing left world with
  | nil => exact ⟨rfl, rfl, .refl valid, by simp⟩
  | cons item rest ih =>
    obtain ⟨name, entry⟩ := item
    simp only [deletionsServed, Bool.and_eq_true] at served
    obtain ⟨done, shrinks, gone⟩ := World.post_run_of_servesAll served.1
      (clears.always_finalize valid (covers _ List.mem_cons_self))
    have site : (deleteOne manager timeout entry world).2.site = world.site := World.run_later.site
    have covers' : ∀ item ∈ rest, ∀ observed ∈ item.2.observed,
        kind.Covers (deleteOne manager timeout entry world).2.registry observed :=
      fun item member observed seen =>
        (covers item (List.mem_cons_of_mem _ member) observed seen).of_shrinks shrinks
    have cleared : Cleared kind rest (left.erase name)
        (deleteOne manager timeout entry world).2 _ := ih (site ▸ shrinks.valid) covers' served.2
    rw [deleteAll_cons_of_ok done]
    refine ⟨cleared.left, cleared.site.trans site, shrinks.trans (site ▸ cleared.shrinks), ?_⟩
    intro item member id shown live
    rcases List.mem_cons.1 member with rfl | later
    · exact gone id shown (cleared.shrinks.live live)
    · exact cleared.gone item later id shown live

end Deletions

end Agent

structure StatusTable.Covers (table : StatusTable) (registry : Registry) : Prop where
  live : ∀ {kind id}, registry.Live id kind → ∃ name, table.id? (kind, name) = some id
  covers : ∀ identity, ∀ observed ∈ (table.entry identity).observed,
    identity.1.Covers registry observed

namespace StatusTable.Covers

variable {table : StatusTable} {site : Site} {registry after : Registry}

theorem of_shrinks (covers : table.Covers registry) (shrinks : registry.Shrinks site after) :
    table.Covers after where
  live live := covers.live (shrinks.live live)
  covers identity observed seen := (covers.covers identity observed seen).of_shrinks shrinks

theorem covers_of_mem {kind : ArnKind} {item : String × Entry kind.Snapshot}
    (covers : table.Covers registry) (member : item ∈ (table.entries kind).entries) :
    ∀ observed ∈ item.2.observed, kind.Covers registry observed := by
  obtain ⟨name, entry⟩ := item
  have same := table.entry_of_mem member
  exact fun observed seen => covers.covers (kind, name) observed (same ▸ seen)

theorem not_live {kind : ArnKind} {left : NameMap (Entry kind.Snapshot)} {world : World}
    {result : NameMap (Entry kind.Snapshot) × World} (covers : table.Covers world.registry)
    (cleared : Agent.Cleared kind (table.entries kind).entries left world result) (id : String) :
    ¬result.2.registry.Live id kind := by
  intro live
  obtain ⟨name, shown⟩ := covers.live (cleared.shrinks.live live)
  obtain ⟨observed, seen, -⟩ := Option.bind_eq_some_iff.1 shown
  exact cleared.gone _ (table.mem_of_observed seen) id shown live

end StatusTable.Covers

structure Agent.TornDown (ended : Except TeardownError Unit × Agent × World) : Prop where
  succeeds : ended.1 = .ok ()
  table : ended.2.1.table = ∅
  endpoints : ended.2.2.registry.endpoints = ∅
  rules : ended.2.2.registry.rules = ∅

theorem Agent.tornDown_of_covers {agent : Agent} {world : World}
    (valid : world.registry.Valid world.site) (covers : agent.table.Covers world.registry)
    (served : agent.teardownServed world = true) : TornDown (agent.teardown world) := by
  simp only [teardownServed, Bool.and_eq_true] at served
  have rules : Cleared .rule (agent.table.entries .rule).entries agent.table.rules world _ :=
    cleared_deleteAll Rule.clears valid (fun _ => covers.covers_of_mem) served.1
  have covers' := covers.of_shrinks rules.shrinks
  have endpoints : Cleared .endpoint (agent.table.entries .endpoint).entries
      agent.table.endpoints _ _ :=
    cleared_deleteAll Endpoint.clears (rules.site ▸ rules.shrinks.valid)
      (fun _ => covers'.covers_of_mem) served.2
  have table : (agent.deleteHeld world).1.table = ∅ := by
    have noRules := rules.left.trans (NameMap.eraseAll_keys _)
    have noEndpoints := endpoints.left.trans (NameMap.eraseAll_keys _)
    exact congrArg₂ StatusTable.mk noEndpoints noRules
  refine ⟨?_, table, ?_, ?_⟩
  · change (if (agent.deleteHeld world).1.held = 0 then _ else _) = _
    rw [held, table]
    rfl
  · exact NameMap.ext_get? fun id => Classical.not_not.1 (covers'.not_live endpoints id)
  · refine NameMap.ext_get? fun id => Classical.not_not.1 fun live => ?_
    have live : Registry.Live _ id .rule := live
    exact covers.not_live rules id (endpoints.shrinks.live live)

namespace Run

variable {agent : Agent} {world : World} {shutdownAt : Option Nat} {log : List Made} {run : Run}

theorem Reached.covers (steady : Steady agent.jobs) (new : world.Reachable)
    (empty : world.registry = ∅) (blank : agent.table = ∅)
    (reached : Reached agent world shutdownAt log run) (candid : IsCandid log)
    (room : run.world.registry.serial ≤ Walk.pageLimit) (stopped : run.allStopped = true) :
    run.table.Covers run.world.registry := by
  -- A worker that has stopped has no pass under way, so its entry shows all that is held.
  obtain ⟨accounts, minds⟩ := reached.minds steady new empty blank candid room
  have valid := (reached.reachable new).valid.1
  have mirrors : ∀ job ∈ agent.jobs,
      run.table.Mirrors (run.world.registry.held job.charge) job := by
    intro job listed
    obtain ⟨worker, member, rfl⟩ := List.mem_map.1 (reached.staffed ▸ listed)
    have rests := (Phase.isStopped_iff _).1 (List.all_eq_true.1 stopped worker member)
    exact (minds worker member).idle (by rw [rests]; rfl)
  refine ⟨fun {kind id} live => ?_, fun ⟨kind, name⟩ observed seen => ?_⟩
  · obtain ⟨token, name, known⟩ := valid.known_of_live live
    obtain ⟨job, listed, own, rfl⟩ := accounts.created known
    have own' : (run.world.registry.tokens job.identity.1).get? job.charge.token =
        some ⟨id, job.identity.2⟩ := by rwa [own]
    have named := (mirrors job listed).named
    rw [Registry.held_of_known own', own] at named
    exact ⟨name, named⟩
  · cases kind with
    | endpoint => trivial
    | rule =>
      intro id named vpc there
      by_cases listed : ∃ job ∈ agent.jobs, job.identity = (.rule, name)
      · obtain ⟨job, listed, own⟩ := listed
        exact (mirrors job listed).vpcs own seen named there
      · have empty := accounts.blank (.rule, name) fun job member same => listed ⟨job, member, same⟩
        rw [empty] at seen
        cases seen

/-- Whatever has failed in a run at an empty provider and however its workers took turns, a teardown
after it leaves nothing behind, unless a look at a rule was refused as if the rule were missing. -/
theorem teardown_complete {manifest : Manifest} {config : AgentConfig} {now : Timestamp}
    (valid : manifest.validate = .ok ()) (new : world.Reachable) (empty : world.registry = ∅)
    (reached : Reached (.new manifest config now) world shutdownAt log run)
    (finished : run.isFinished = true) (candid : IsCandid log) (room : run.registry.HasRoom 0)
    (served : { Agent.new manifest config now with table := run.table }.teardownServed run.world =
      true) :
    Agent.TornDown
      ({ Agent.new manifest config now with table := run.table }.teardown run.world) := by
  have steady := Agent.steady_jobs valid config now
  have stopped := (Bool.and_eq_true_iff.1 finished).1
  have covers := reached.covers steady new empty rfl candid room.serial_le stopped
  exact Agent.tornDown_of_covers (reached.reachable new).valid.1 covers served

def internal : Manifest where
  endpoints := []
  rules := [
    { (default : RuleSpec) with
      name := "internal"
      domainName := "corp.example."
      ruleType := .system
      associations := [⟨"vpc-1"⟩] }]

def single : Agent := .new internal { once := true } .epoch

def throttling : World :=
  { World.still with
    journal := World.still.journal.failNth ⟨.associateRule, 1, "ThrottlingException"⟩ }

/-- The rule is created in one pass and associated in the next. -/
def delayed : List Made × Run := (Run.start single throttling none).play (List.replicate 20 0)

theorem teardown_complete_delayed :
    delayed.2.registry.rules.size = 1 ∧
      Agent.TornDown ({ single with table := delayed.2.table }.teardown delayed.2.world) := by
  refine ⟨by decide +kernel, ?_⟩
  exact teardown_complete (by decide +kernel) (.arranged _ .still) rfl
    (Reached.start.play (List.replicate 20 0)) (by decide +kernel) (by decide +kernel)
    (by decide +kernel) (by decide +kernel)

/-- A provider that takes a rule for missing when it is looked at first, and fails the second time
one is to be associated. -/
def forgetting : World :=
  { World.still with
    journal := (World.still.journal.failNth ⟨.getRule, 1, Failure.notFoundCode⟩).failNth
      ⟨.associateRule, 2, invalidParameterCode⟩ }

/-- The rule has its network from the first pass, but the second one starts again without it. -/
def forgotten : Run :=
  ((Schedule.start (.start (.new internal {} .epoch) forgetting (some 90000))).advanceTo
    100000 40).run

/-- What is wrongly taken for missing is created again under its token, and its networks are no
longer known. The deletion of such a rule is refused. -/
theorem not_always_tornDown :
    ¬∀ (manifest : Manifest) (config : AgentConfig) (now : Timestamp) (world : World)
      (shutdownAt : Option Nat) (log : List Made) (run : Run), manifest.validate = .ok () →
      world.Reachable → world.registry = ∅ →
      Reached (.new manifest config now) world shutdownAt log run → run.isFinished = true →
      run.registry.HasRoom 0 →
      { Agent.new manifest config now with table := run.table }.teardownServed run.world = true →
      Agent.TornDown
        ({ Agent.new manifest config now with table := run.table }.teardown run.world) := by
  intro always
  obtain ⟨log, reached⟩ := Schedule.reached_advanceTo 100000 40 (Schedule.covers_start _)
    (Reached.start : Reached (.new internal {} .epoch) forgetting (some 90000) [] _)
  have torn := always internal {} .epoch forgetting (some 90000) log forgotten
    (by decide +kernel) (.arranged _ (.arranged _ .still)) rfl reached (by decide +kernel)
    (by decide +kernel) (by decide +kernel)
  have left : ({ Agent.new internal {} .epoch with
      table := forgotten.table }.teardown forgotten.world).1 = .error ⟨1⟩ := by decide +kernel
  cases left.symm.trans torn.succeeds

end Run

end Converge
