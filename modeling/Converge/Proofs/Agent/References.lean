import Converge.Proofs.Agent.Tracking
import Converge.Proofs.Rule.Snapshot

/-! References from rules to endpoints in a run. Once an endpoint has an id in the table it keeps
it, so a rule is only ever sent to the endpoint of the name it refers to, and a rule that has
converged says so. -/
namespace Converge

open Provider Resolver Program

namespace Provider.Call

def target? : Call → Option (Option String)
  | createRule request => some request.resolverEndpointId
  | updateRule _ update => some update.resolverEndpointId
  | _ => none

end Provider.Call

section Passes

variable {token : Token}

namespace Resolver.Endpoint

variable {desired : EndpointSpec}

def IsNamed (observed : Endpoint) : Prop := observed.id?.isSome = true

theorem always_observe_isNamed (last : Option Endpoint) :
    (observe desired last).outcome.Always anyReply (fun reply _ => ∀ result, reply = .ok result →
      ∀ found ∈ result, found.IsNamed) () := by
  unfold observe
  split
  · simp [Attempt.always_outcome_pure]
  · refine (always_bind _ _ _ _).2 (.of_forall fun reply _ => ?_)
    cases reply with
    | error failure =>
      refine (always_pure _ _ _).2 fun result same => ?_
      split at same <;> cases same
      simp
    | ok record =>
      refine Attempt.always_ok_bind fun addresses _ => Attempt.always_ok_bind fun tags _ => ?_
      refine (Attempt.always_outcome_pure _ _ _).2 fun result same => ?_
      cases same
      simp [IsNamed, id?, statusOf]

theorem always_updatePrimary_isNamed {paths : List String} {delta : Delta} {observed : Endpoint}
    (changes : Changes) (named : observed.IsNamed) :
    (endpointManager.part desired (Pass.updatePrimary paths delta observed changes)).Always anyReply
      (fun result _ => ∀ observed ∈ result.observed, observed.IsNamed) () := by
  refine (Manager.always_updatePrimary _ _ _ _).2 ?_
  split
  · refine (Attempt.always_outcome_bind _ _ _ _).2 ?_
    cases known "endpoint id" observed.id? with
    | error failure => simpa [Attempt.always_outcome_ofExcept] using named
    | ok id =>
      refine (Attempt.always_outcome_bind _ _ _ _).2 (.of_forall fun reply _ => ?_)
      cases reply with
      | error failure => simpa using named
      | ok record =>
        refine (Attempt.always_outcome_pure _ _ _).2 ?_
        simp [Manager.finished, IsNamed, id?, statusOf]
  · simpa [Manager.finished] using named

theorem always_pass_isNamed {last : Option Endpoint} (named : ∀ observed ∈ last, observed.IsNamed) :
    (endpointManager.pass desired token last).Always anyReply
      (fun result _ => ∀ observed ∈ result.observed, observed.IsNamed) () := by
  refine (Manager.always_pass token last).2 ((always_observe_isNamed last).imp ?_)
  intro reply _ seen
  match reply with
  | .error failure => exact named
  | .ok none =>
    refine (Manager.always_create last token).2 ?_
    refine (Attempt.always_outcome_bind _ _ _ _).2 (.of_forall fun reply _ => ?_)
    cases reply with
    | error failure => exact named
    | ok record =>
      refine (Attempt.always_outcome_pure _ _ _).2 ((always_pure _ _ _).2 ?_)
      simp [Manager.applied, Manager.finished, Applied.unchanged, IsNamed, id?, statusOf]
  | .ok (some observed) =>
    have shows : observed.IsNamed := seen _ rfl observed rfl
    refine Manager.always_update_of_kept (fun seen _ => seen.IsNamed) ?_ ?_ ?_ ?_ ?_ shows
    · refine fun seen _ holds => always_syncTags_rest.imp fun reply _ rest => ?_
      cases reply with
      | error failure => exact holds
      | ok updated => simpa [rest updated rfl, IsNamed, id?] using holds
    · exact fun seen _ _ holds => always_syncAddresses_named.imp fun applied _ same => by
        rwa [IsNamed, same]
    · simp
    · simpa [Manager.finished] using fun _ => shows
    · exact fun seen changes _ holds => always_updatePrimary_isNamed changes holds

end Resolver.Endpoint

namespace Resolver.Rule

theorem always_pass_aimed {desired : RuleSpec} {id : String}
    (aimed : desired.resolverEndpointId = some id) (last : Option Rule) :
    (ruleManager.pass desired token last).Always anyReply (fun result _ =>
      result.ending = .settled → ∃ observed, result.observed = some observed ∧
        observed.spec.resolverEndpointId = some id) () := by
  refine (Manager.always_pass token last).2 (.of_forall fun reply _ => ?_)
  match reply with
  | .error failure => simp
  | .ok none =>
    refine (Manager.always_create last token).2 ?_
    refine (Attempt.always_outcome_bind _ _ _ _).2 (.of_forall fun reply _ => ?_)
    cases reply with
    | error failure => simp
    | ok record =>
      refine (Attempt.always_outcome_pure _ _ _).2
        (always_afterCreate_rest.imp ?_)
      rintro applied _ ⟨associations, same⟩
      cases failed : applied.failure <;>
        simp [Manager.applied, Manager.finished, failed, same, aimed]
  | .ok (some observed) =>
    -- a record that is not updated is as desired
    have agrees : (delta desired observed).differentExcept [tagsPath, associationsPath] = false →
        observed.spec.resolverEndpointId = some id := fun same =>
      ((differentExcept_eq_false_iff desired observed).1 same).2.2 id aimed
    refine Manager.always_update_of_kept (fun seen _ =>
      (delta desired observed).differentExcept [tagsPath, associationsPath] = false →
        seen.spec.resolverEndpointId = some id) ?_ ?_ ?_ ?_ ?_ agrees
    · refine fun seen _ holds => always_syncTags_rest.imp fun reply _ rest => ?_
      cases reply with
      | error failure => exact holds
      | ok updated => simpa [rest updated rfl] using holds
    · refine fun seen _ _ holds => always_syncAssociations_rest.imp fun applied _ rest => ?_
      obtain ⟨associations, same⟩ := rest
      simpa [same] using holds
    · simp
    · intro empty _
      exact ⟨observed, rfl, ((isEmpty_delta_iff desired observed).1 empty).2.2.2.2 id aimed⟩
    · refine fun seen changes _ holds => (Manager.always_updatePrimary _ _ _ _).2 ?_
      split
      · refine .of_forall fun reply _ => ?_
        cases reply <;> simp [Manager.finished, ruleManager]
      · next same => exact fun _ => ⟨seen, rfl, holds (Bool.eq_false_iff.2 same)⟩

end Resolver.Rule

end Passes

namespace StatusTable

/-- The id that is written down for the endpoint of a name. -/
def recorded (table : StatusTable) (name : String) : Option String := table.id? (.endpoint, name)

def Sends (table : StatusTable) (name : String) (target : Option String) : Prop :=
  ∃ id, table.recorded name = some id ∧ target = some id

/-- No id is forgotten or changed. -/
def Keeps (table after : StatusTable) : Prop :=
  ∀ name id, table.recorded name = some id → after.recorded name = some id

theorem Keeps.refl (table : StatusTable) : table.Keeps table := fun _ _ => id

theorem Sends.of_keeps {table after : StatusTable} {name : String} {target : Option String}
    (sends : table.Sends name target) (keeps : table.Keeps after) : after.Sends name target := by
  obtain ⟨id, recorded, same⟩ := sends
  exact ⟨id, keeps name id recorded, same⟩

theorem sends_of_resolve {table : StatusTable} {spec resolved : RuleSpec} {name : String}
    (refers : spec.resolverEndpointRef = some name) (done : table.resolve spec = .ok resolved) :
    table.Sends name resolved.resolverEndpointId := by
  unfold resolve at done
  rw [refers] at done
  obtain ⟨id, found, same⟩ := bind_eq_ok_iff.1 done
  cases same
  refine ⟨id, ?_, rfl⟩
  unfold endpointId at found
  simp only at found
  split at found
  · cases found
  · split at found
    · next named =>
      cases found
      exact named
    · cases found

end StatusTable

def Job.reference? : Job → Option String
  | endpoint _ => none
  | rule spec => spec.resolverEndpointRef

/-- An endpoint that is reported on has an id, and a rule that has converged is sent to the endpoint
that it refers to. -/
def Report.Honours (table : StatusTable) (reference : Option String) : Report → Prop
  | endpoint _ result => ∀ observed ∈ result.observed, observed.IsNamed
  | rule _ result => result.outcome.isConverged = true → ∀ name ∈ reference,
    ∃ observed, result.observed = some observed ∧
      table.Sends name observed.spec.resolverEndpointId

def StatusTable.Honours (table : StatusTable) : Job → Prop
  | .endpoint spec => ∀ observed ∈ (table.endpoint spec.name).observed, observed.IsNamed
  | .rule spec => (table.rule spec.name).outcome = some .converged →
    ∀ name ∈ spec.resolverEndpointRef, ∃ observed, (table.rule spec.name).observed = some observed ∧
      table.Sends name observed.spec.resolverEndpointId

/-- A call made for the job sends its rule nowhere but to the endpoint that it refers to. -/
def StatusTable.Permits (table : StatusTable) (job : Job) (call : Call) : Prop :=
  ∀ name ∈ job.reference?, ∀ target ∈ call.target?, table.Sends name target

theorem StatusTable.Permits.of_keeps {table after : StatusTable} {job : Job} {call : Call}
    (permits : table.Permits job call) (keeps : table.Keeps after) : after.Permits job call :=
  fun name refers target aims => (permits name refers target aims).of_keeps keeps

structure StatusTable.Guides (table : StatusTable) (job : Job) (errand : Errand) : Prop where
  asks : errand.Asks (table.Permits job)
  reports : errand.Always anyReply
    (fun dated _ => ∀ stop, (dated stop).Honours table job.reference?) ()

section Departures

variable {table : StatusTable} {token : Token}

theorem Resolver.Rule.target_of_makes {resolved : RuleSpec} {call : Call}
    (makes : Rule.Makes resolved token call) :
    ∀ target ∈ call.target?, target = resolved.resolverEndpointId := by
  cases makes with
  | creates | updates => simp [Call.target?]
  | others plain other => cases call <;> simp_all [Call.target?, Call.isPlain, Call.operation]

theorem guides_errandOf_endpoint {spec : EndpointSpec} {entry : Entry Endpoint}
    (named : ∀ observed ∈ entry.observed, observed.IsNamed) (delays : PassDelays)
    (start : Timestamp) :
    table.Guides (.endpoint spec)
      (errandOf endpointManager delays (.endpoint spec.name) entry spec start) where
  asks := ((Endpoint.asks_pass _).imp fun _ _ _ refers => nomatch refers).bind fun _ => trivial
  reports := by
    refine (always_bind _ _ _ _).2 ((Endpoint.always_pass_isNamed named).imp ?_)
    intro result _ holds
    refine (always_pure _ _ _).2 fun stop observed member => ?_
    rw [PassResult.observed_conclude] at member
    exact holds observed member

theorem guides_errandOf_rule {spec resolved : RuleSpec}
    (done : table.resolve spec = .ok resolved) (delays : PassDelays) (entry : Entry Rule)
    (start : Timestamp) :
    table.Guides (.rule spec)
      (errandOf ruleManager delays (.rule spec.name) entry resolved start) where
  asks := by
    refine ((Rule.asks_pass_makes _).imp fun call makes name refers target member => ?_).bind
      fun _ => trivial
    rw [Rule.target_of_makes makes target member]
    exact StatusTable.sends_of_resolve refers done
  reports := by
    refine (always_bind _ _ _ _).2 ?_
    cases refers : spec.resolverEndpointRef with
    | none =>
      refine .of_forall fun result _ => (always_pure _ _ _).2 fun stop _ name member => ?_
      simp [Job.reference?, refers] at member
    | some name =>
      have sends := StatusTable.sends_of_resolve refers done
      obtain ⟨id, recorded, aimed⟩ := sends
      refine (Rule.always_pass_aimed aimed _).imp fun result _ shows => ?_
      refine (always_pure _ _ _).2 fun stop converged other member => ?_
      obtain rfl : name = other := by simpa [Job.reference?, refers] using member
      have settled := (PassResult.isConverged_conclude_iff ..).1 converged
      obtain ⟨observed, same, target⟩ := shows settled
      exact ⟨observed, (PassResult.observed_conclude ..).trans same, id, recorded, target⟩

theorem Job.guides_errand {job : Job} (honours : table.Honours job) (delays : PassDelays)
    (start : Timestamp) : table.Guides job (job.errand delays table start) := by
  cases job with
  | endpoint spec => exact guides_errandOf_endpoint honours delays start
  | rule spec =>
    simp only [errand]
    split
    · next resolved done => exact guides_errandOf_rule done delays _ start
    · next failure _ =>
      refine ⟨trivial, fun stop converged => ?_⟩
      simp only [Reconciled.ofFailure] at converged
      split at converged <;> cases converged

end Departures

section Changes

variable {table after : StatusTable} {job : Job}

theorem Report.Honours.of_keeps {reference : Option String} {report : Report}
    (honours : report.Honours table reference) (keeps : table.Keeps after) :
    report.Honours after reference := by
  cases report with
  | endpoint name result => exact honours
  | rule name result =>
    intro converged name member
    obtain ⟨observed, same, sends⟩ := honours converged name member
    exact ⟨observed, same, sends.of_keeps keeps⟩

theorem StatusTable.Guides.of_keeps {errand : Errand} (guides : table.Guides job errand)
    (keeps : table.Keeps after) : after.Guides job errand where
  asks := guides.asks.imp fun _ permits => permits.of_keeps keeps
  reports := guides.reports.imp fun _ _ fine stop => (fine stop).of_keeps keeps

theorem StatusTable.Guides.next {call : Call} {next : call.Reply → Errand}
    (guides : table.Guides job (.ask call next)) (reply : call.Reply) :
    table.Guides job (next reply) :=
  ⟨guides.asks.2 reply, guides.reports reply () trivial⟩

theorem StatusTable.Honours.of_keeps (honours : table.Honours job) (keeps : table.Keeps after)
    (same : after.entry job.identity = table.entry job.identity) : after.Honours job := by
  cases job with
  | endpoint spec =>
    have same : after.endpoint spec.name = table.endpoint spec.name := same
    simpa [StatusTable.Honours, same] using honours
  | rule spec =>
    have same : after.rule spec.name = table.rule spec.name := same
    intro converged name member
    rw [same] at converged ⊢
    obtain ⟨observed, shown, sends⟩ := honours converged name member
    exact ⟨observed, shown, sends.of_keeps keeps⟩

theorem StatusTable.Honours.record {report : Report} {now : Timestamp}
    (honours : table.Honours job) (own : report.identity = job.identity)
    (fine : report.Honours table job.reference?) (keeps : table.Keeps (report.record now table)) :
    (report.record now table).Honours job := by
  cases job with
  | endpoint spec =>
    cases report with
    | rule => cases (Prod.mk.inj own).1
    | endpoint name result =>
      obtain rfl : name = spec.name := (Prod.mk.inj own).2
      intro observed shown
      rw [Report.endpoint_record] at shown
      cases found : result.observed with
      | none => exact honours observed (by simpa [Entry.record, found] using shown)
      | some new => exact fine observed (by simpa [Entry.record, found] using shown)
  | rule spec =>
    cases report with
    | endpoint => cases (Prod.mk.inj own).1
    | rule name result =>
      obtain rfl : name = spec.name := (Prod.mk.inj own).2
      intro converged other refers
      rw [Report.rule_record] at converged ⊢
      have settled : result.outcome = .converged := by simpa [Entry.record] using converged
      obtain ⟨observed, shown, sends⟩ := fine (by simp [settled, Outcome.isConverged]) other refers
      exact ⟨observed, by simp [Entry.record, shown], sends.of_keeps keeps⟩

end Changes

structure Worker.Linked (shutdownAt : Option Nat) (world : World) (table : StatusTable)
    (worker : Worker) : Prop where
  honours : table.Honours worker.job
  guided : ∀ errand ∈ worker.phase.errand?, table.Guides worker.job errand
  decided : worker.phase = .stopped → (shutdownAt.any fun time => time ≤ world.time) = true ∨
    ∃ outcome, table.outcome worker.job.identity = some outcome ∧
      (outcome.isConverged = true ∨ outcome.isFatal = true)

theorem Worker.Linked.later {shutdownAt : Option Nat} {world later : World}
    {table after : StatusTable} {worker : Worker} (linked : worker.Linked shutdownAt world table)
    (keeps : table.Keeps after)
    (same : after.entry worker.job.identity = table.entry worker.job.identity)
    (time : world.time ≤ later.time) : worker.Linked shutdownAt later after where
  honours := linked.honours.of_keeps keeps same
  guided errand there := (linked.guided errand there).of_keeps keeps
  decided stopped := by
    rw [StatusTable.outcome, same]
    refine (linked.decided stopped).imp_left fun past => ?_
    cases shutdownAt with
    | none => exact past
    | some moment => simpa using Nat.le_trans (of_decide_eq_true past) time

namespace Run

variable {agent : Agent} {world : World} {shutdownAt : Option Nat} {log : List Made}
  {run after : Run}
  {worker moved : Worker}

theorem Turn.keepsTable (turn : Turn run worker after moved) (reached : run.world.Reachable)
    (tracked : worker.Tracked run.world run.table)
    (linked : worker.Linked shutdownAt run.world run.table) : run.table.Keeps after.table := by
  cases turn with
  | rests | departs | waits | hears => exact .refl _
  | @reports dated backoff phase done rests stops =>
    obtain ⟨own, shows⟩ := tracked.reports done run.world.now
    intro name id recorded
    by_cases same : worker.job.identity = (.endpoint, name)
    · have old := tracked.shown
      have fine := (linked.guided _ done).reports run.world.now
      rw [same] at own shows old
      cases report : dated run.world.now with
      | rule => simp [report, Report.identity] at own
      | endpoint other result =>
        rw [report] at own shows fine
        obtain rfl : other = name := (Prod.mk.inj own).2
        show ((Report.record _ _ _).endpoint other).observed.bind Endpoint.id? = some id
        rw [Report.endpoint_record]
        cases found : result.observed with
        | none =>
          have recorded : (run.table.endpoint other).observed.bind Endpoint.id? = some id :=
            recorded
          simpa [Entry.record, found] using recorded
        | some new =>
          obtain ⟨new', named⟩ := Option.isSome_iff_exists.1 (fine new found)
          have live := shows new' (by simp [Report.id?, found, named])
          obtain rfl := reached.valid.1.tokenOf_inj live (old id recorded)
          simp [Entry.record, found, named]
    · rw [StatusTable.recorded, StatusTable.id?, Report.entry_record_other _ (own ▸ same)]
      exact recorded

theorem Turn.linked (turn : Turn run worker after moved) (reached : run.world.Reachable)
    (shutdown : run.shutdownAt = shutdownAt) (tracked : worker.Tracked run.world run.table)
    (linked : worker.Linked shutdownAt run.world run.table) :
    moved.Linked shutdownAt after.world after.table := by
  have keeps := turn.keepsTable reached tracked linked
  cases turn with
  | rests idle rests stops =>
    refine ⟨linked.honours, fun errand there => by simp [rests] at there, fun stopped => ?_⟩
    rcases stops stopped with before | cancelled
    · exact linked.decided before
    · exact .inl (shutdown ▸ cancelled)
  | @departs phase idle goes =>
    refine ⟨linked.honours, fun errand there => ?_, fun stopped => ?_⟩
    · obtain rfl : _ = errand := Option.some.inj (goes.symm.trans there)
      exact Job.guides_errand linked.honours _ _
    · simp [show phase = .stopped from stopped, Phase.errand?] at goes
  | @waits errand world phase asks goes onward same =>
    refine ⟨linked.honours, fun errand there => ?_, fun stopped => ?_⟩
    · exact linked.guided errand (asks.trans (goes.symm.trans there))
    · simp [show phase = .stopped from stopped, Phase.errand?] at goes
  | @hears call next reply world phase asks goes onward answered =>
    refine ⟨linked.honours, fun errand there => ?_, fun stopped => ?_⟩
    · obtain rfl : _ = errand := Option.some.inj (goes.symm.trans there)
      exact (linked.guided _ asks).next reply
    · simp [show phase = .stopped from stopped, Phase.errand?] at goes
  | reports done rests stops =>
    have own := (tracked.reports done run.world.now).1
    have fine := (linked.guided _ done).reports run.world.now
    refine ⟨linked.honours.record own fine keeps, fun errand there => by simp [rests] at there,
      fun stopped => .inr ⟨_, own ▸ Report.outcome_record _, stops stopped⟩⟩

theorem Reached.linked (steady : Steady agent.jobs) (new : world.Reachable)
    (blank : agent.table = ∅) (reached : Reached agent world shutdownAt log run) :
    (∀ made ∈ log, run.table.Permits made.job made.call) ∧
      ∀ worker ∈ run.workers, worker.Linked shutdownAt run.world run.table := by
  refine reached.keeps steady.apart
    (fun log _ table => ∀ made ∈ log, table.Permits made.job made.call)
    (fun _ world table worker => worker.Linked shutdownAt world table) (by simp) ?_ ?_ ?_
  · refine fun job _ => ⟨?_, by simp [Worker.new, Phase.errand?], by simp [Worker.new]⟩
    cases job <;> simp [StatusTable.Honours, blank, Worker.new, Entry.empty]
  · refine fun log table before after onward _ => ⟨id, fun worker linked => ?_⟩
    exact linked.later (.refl _) rfl onward.time
  · intro log run worker after moved reached member turn sent linked
    have reachable := reached.reachable new
    have tracked := reached.tracked steady new blank worker member
    have keeps := turn.keepsTable reachable tracked linked
    refine ⟨fun made there => ?_, turn.linked reachable reached.settings.2 tracked linked,
      fun other _ apart kept => kept.later keeps (turn.others tracked apart) turn.onward.time⟩
    rcases List.mem_append.1 there with before | new
    · exact (sent made before).of_keeps keeps
    · obtain ⟨own, next, asks⟩ := errand_of_mem_made new
      exact own ▸ (linked.guided _ asks).asks.1.of_keeps keeps

/-- Whatever fails and however the workers take turns, a rule that refers to an endpoint is sent to
the one that is written down under the name, and nowhere else. If a run of an agent that is to stop
has ended without being told to, all outcomes are decided, and every rule that has converged shows
the endpoint that it refers to. -/
theorem once_run_decided {manifest : Manifest} {config : AgentConfig} {now : Timestamp}
    (valid : manifest.validate = .ok ()) (new : world.Reachable)
    (reached : Reached (.new manifest config now) world shutdownAt log run) :
    (∀ made ∈ log, ∀ name ∈ made.job.reference?, ∀ target ∈ made.call.target?,
      ∃ id, run.table.recorded name = some id ∧ target = some id) ∧
    (config.once = true → run.isFinished = true → run.isCancelled = false →
      (∀ job ∈ (Agent.new manifest config now).jobs, ∃ outcome,
        run.table.outcome job.identity = some outcome ∧
          (outcome.isConverged = true ∨ outcome.isFatal = true)) ∧
      ∀ spec ∈ manifest.rules, ∀ name ∈ spec.resolverEndpointRef,
        (run.table.rule spec.name).outcome = some .converged →
        ∃ observed id, (run.table.rule spec.name).observed = some observed ∧
          run.table.recorded name = some id ∧ observed.spec.resolverEndpointId = some id) := by
  have steady := Agent.steady_jobs valid config now
  obtain ⟨sent, linked⟩ := reached.linked steady new rfl
  have staffed : ∀ job ∈ (Agent.new manifest config now).jobs,
      ∃ worker ∈ run.workers, worker.job = job := fun job listed =>
    List.mem_map.1 (reached.staffed ▸ listed)
  refine ⟨sent, fun once finished going =>
    ⟨fun job listed => ?_, fun spec listed name refers => ?_⟩⟩
  · obtain ⟨worker, member, rfl⟩ := staffed job listed
    have stopped := List.all_eq_true.1 (Bool.and_eq_true_iff.1 finished).1 worker member
    refine ((linked worker member).decided ((Phase.isStopped_iff _).1 stopped)).resolve_left ?_
    rw [← reached.settings.2]
    exact Bool.eq_false_iff.1 going
  · have stamped : Job.rule { spec with createdAt := some (spec.createdAt.getD now) } ∈
        (Agent.new manifest config now).jobs :=
      List.mem_append_right _ (List.mem_map_of_mem (List.mem_map_of_mem listed))
    obtain ⟨worker, member, same⟩ := staffed _ stamped
    intro converged
    obtain ⟨observed, shown, id, recorded, target⟩ :=
      (same ▸ (linked worker member).honours) converged name refers
    exact ⟨observed, id, shown, recorded, target⟩

/-- An endpoint and a rule that refers to it. -/
def referring : Manifest where
  endpoints := [Traffic.lone]
  rules := [
    { (default : RuleSpec) with
      name := "inward"
      domainName := "corp.example."
      resolverEndpointRef := some "gate"
      targetIps := [⟨some "10.0.0.53", none, none⟩] }]

def hesitant : World :=
  { World.still with
    journal := World.still.journal.failNth ⟨.createEndpoint, 1, "ThrottlingException"⟩ }

/-- The rule is first looked at while there is no endpoint. -/
def belated : Run :=
  ((Schedule.start (.start (.new referring { once := true } .epoch) hesitant none)).advanceTo
    1000 20).run

theorem belated_decided :
    belated.time = 500 ∧ belated.table.recorded "gate" = some "rslvr-in-00000000000000001" ∧
      ∃ observed, (belated.table.rule "inward").observed = some observed ∧
        observed.spec.resolverEndpointId = some "rslvr-in-00000000000000001" := by
  obtain ⟨log, reached⟩ := Schedule.reached_advanceTo 1000 20 (Schedule.covers_start _)
    (Reached.start : Reached (.new referring { once := true } .epoch) hesitant none [] _)
  have recorded : belated.table.recorded "gate" = some "rslvr-in-00000000000000001" := by
    decide +kernel
  have ended := (once_run_decided (by decide +kernel) (.arranged _ .still) reached).2 rfl
    (by decide +kernel) (by decide +kernel)
  obtain ⟨observed, id, shown, same, target⟩ :=
    ended.2 _ (List.mem_singleton.2 rfl) "gate" rfl (by decide +kernel)
  have same : belated.table.recorded "gate" = some id := same
  exact ⟨by decide +kernel, recorded, observed, shown, target.trans (same.symm.trans recorded)⟩

end Run

end Converge
