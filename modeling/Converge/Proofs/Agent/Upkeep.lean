import Converge.Proofs.Agent.Tracking
import Converge.Proofs.Endpoint.Upkeep
import Converge.Proofs.Rule.Upkeep

/-! What is written down in a run. Between the passes over a resource its entry shows what the
provider holds for it, with all its networks, as long as no look at a rule pretends that it is
missing. Nothing is held that belongs to no job. -/
namespace Converge

open Provider Resolver Program

def Job.charge (job : Job) : Charge where
  identity := job.identity
  token := (job.token .epoch).text
  vpcs := match job with
    | .endpoint _ => []
    | .rule spec => spec.vpcs

/-- The report shows what is held. -/
def Report.Mirrors (wanted : List String) (held : Option Held) : Report → Prop
  | endpoint _ result => Endpoint.Mirrors result.observed held
  | rule _ result => Rule.Mirrors wanted result.observed held

def StatusTable.Mirrors (table : StatusTable) (held : Option Held) : Job → Prop
  | .endpoint spec => Endpoint.Mirrors (table.endpoint spec.name).observed held
  | .rule spec => Rule.Mirrors spec.vpcs (table.rule spec.name).observed held

theorem StatusTable.Mirrors.named {table : StatusTable} {held : Option Held} {job : Job}
    (mirrors : table.Mirrors held job) : table.id? job.identity = held.map Held.id := by
  cases job with
  | endpoint spec => exact mirrors
  | rule spec => exact Rule.Mirrors.named mirrors

theorem StatusTable.Mirrors.vpcs {table : StatusTable} {registry : Registry} {job : Job}
    {name id vpc : String} {observed : Rule}
    (mirrors : table.Mirrors (registry.held job.charge) job) (own : job.identity = (.rule, name))
    (seen : (table.rule name).observed = some observed) (named : observed.id? = some id)
    (there : vpc ∈ registry.associatedVpcs id) : vpc ∈ observed.spec.vpcs := by
  cases job with
  | endpoint => cases (Prod.mk.inj own).1
  | rule spec =>
    obtain rfl : spec.name = name := (Prod.mk.inj own).2
    have shown := Rule.Mirrors.named mirrors
    rw [seen, Option.bind_some, named] at shown
    obtain ⟨mine, held, rfl⟩ := Option.map_eq_some_iff.1 shown.symm
    refine Rule.Mirrors.covers mirrors mine held observed seen vpc ?_
    rw [Held.vpcs, Registry.associations_of_held rfl held]
    exact there

theorem StatusTable.mirrors_empty (job : Job) : (∅ : StatusTable).Mirrors none job := by
  cases job with
  | endpoint spec => exact rfl
  | rule spec => exact ⟨rfl, by simp, by simp⟩

section Departures

variable {pageSize : Nat} {held : Option Held} {table : StatusTable}

theorem vpcs_resolve {spec resolved : RuleSpec} (done : table.resolve spec = .ok resolved) :
    resolved.vpcs = spec.vpcs ∧ resolved.name = spec.name := by
  unfold StatusTable.resolve at done
  split at done
  · cases done
    exact ⟨rfl, rfl⟩
  · obtain ⟨id, -, same⟩ := bind_eq_ok_iff.1 done
    cases same
    exact ⟨rfl, rfl⟩

theorem Job.always_errand_mirrors {job : Job} (sized : 0 < pageSize)
    (lasting : ∀ start, job.token start = job.token .epoch) (mirrors : table.Mirrors held job)
    (delays : PassDelays) (start : Timestamp) :
    (job.errand delays table start).Always (job.charge.answers pageSize)
      (Within fun dated held => ∀ stop, (dated stop).Mirrors job.charge.vpcs held)
      (some held) := by
  cases job with
  | endpoint spec =>
    have carries := congrArg Token.text (lasting start).symm
    refine (always_bind _ _ _ _).2
      ((Endpoint.always_pass_mirrors rfl carries mirrors).imp fun result _ ends => ?_)
    refine (always_pure _ _ _).2 (ends.imp fun held shows stop => ?_)
    simpa [Report.Mirrors] using shows
  | rule spec =>
    simp only [errand]
    split
    · next resolved done =>
      obtain ⟨vpcs, name⟩ := vpcs_resolve done
      have carries := congrArg Token.text ((token_resolve done start).trans (lasting start)).symm
      refine (always_bind _ _ _ _).2 ((Rule.always_pass_mirrors sized (by rw [name]; rfl) carries
        vpcs.symm (vpcs ▸ mirrors)).imp fun result _ ends => ?_)
      refine (always_pure _ _ _).2 (ends.imp fun held shows stop => ?_)
      simpa [Report.Mirrors, Job.charge, vpcs] using shows
    · exact ⟨held, rfl, fun stop => mirrors⟩

end Departures

section Reports

variable {held : Option Held} {table : StatusTable} {job : Job}

theorem StatusTable.id?_eq_none (nothing : held = none)
    (known : ∀ id ∈ table.id? job.identity, held.map Held.id = some id) :
    table.id? job.identity = none := by
  subst nothing
  exact Option.eq_none_iff_forall_not_mem.2 fun id member => nomatch known id member

theorem StatusTable.mirrors_record {report : Report} {now : Timestamp}
    (own : report.identity = job.identity) (shows : report.Mirrors job.charge.vpcs held)
    (known : ∀ id ∈ table.id? job.identity, held.map Held.id = some id) :
    (report.record now table).Mirrors held job := by
  cases job with
  | endpoint spec =>
    cases report with
    | rule => cases (Prod.mk.inj own).1
    | endpoint name result =>
      obtain rfl : name = spec.name := (Prod.mk.inj own).2
      simp only [StatusTable.Mirrors, Report.endpoint_record, Entry.record]
      cases found : result.observed with
      | some new => simpa [Report.Mirrors, found] using shows
      | none =>
        -- The entry keeps its snapshot, which showed nothing either.
        simp only [Report.Mirrors, found] at shows
        have nothing : held = none := Option.map_eq_none_iff.1 shows.symm
        have unknown := StatusTable.id?_eq_none nothing known
        subst nothing
        exact unknown
  | rule spec =>
    cases report with
    | endpoint => cases (Prod.mk.inj own).1
    | rule name result =>
      obtain rfl : name = spec.name := (Prod.mk.inj own).2
      simp only [StatusTable.Mirrors, Report.rule_record, Entry.record]
      cases found : result.observed with
      | some new => simpa [Report.Mirrors, Job.charge, found] using shows
      | none =>
        simp only [Report.Mirrors, found] at shows
        have nothing : held = none := Option.map_eq_none_iff.1 shows.named.symm
        have unknown := StatusTable.id?_eq_none nothing known
        subst nothing
        exact ⟨unknown, by simp, by simp⟩

end Reports

/-- The worker minds its resource: what is known of it is held, and its entry and its pass show
all that is held. -/
structure Worker.Minds (world : World) (table : StatusTable) (worker : Worker) : Prop where
  known : ∀ id ∈ table.id? worker.job.identity,
    (world.registry.held worker.job.charge).map Held.id = some id
  idle : worker.phase.errand? = none →
    table.Mirrors (world.registry.held worker.job.charge) worker.job
  busy : ∀ errand ∈ worker.phase.errand?,
    errand.Always (worker.job.charge.answers world.site.pageSize)
      (Within fun dated held => ∀ stop, (dated stop).Mirrors worker.job.charge.vpcs held)
      (some (world.registry.held worker.job.charge))

theorem StatusTable.Mirrors.congr {table after : StatusTable} {held : Option Held} {job : Job}
    (mirrors : table.Mirrors held job)
    (same : after.entry job.identity = table.entry job.identity) : after.Mirrors held job := by
  cases job with
  | endpoint spec =>
    have same : after.endpoint spec.name = table.endpoint spec.name := same
    simpa [StatusTable.Mirrors, same] using mirrors
  | rule spec =>
    have same : after.rule spec.name = table.rule spec.name := same
    simpa [StatusTable.Mirrors, same] using mirrors

theorem Worker.Minds.later {world later : World} {table after : StatusTable} {worker : Worker}
    (minds : worker.Minds world table) (site : later.site = world.site)
    (held : later.registry.held worker.job.charge = world.registry.held worker.job.charge)
    (same : after.entry worker.job.identity = table.entry worker.job.identity) :
    worker.Minds later after where
  known id member := by
    rw [StatusTable.id?, same] at member
    rw [held]
    exact minds.known id member
  idle none := by
    rw [held]
    exact (minds.idle none).congr same
  busy errand there := by
    rw [held, site]
    exact minds.busy errand there

def Made.isCandid : Made → Bool
  | ⟨_, .getRule _, some failure⟩ => !failure.isNotFound
  | _ => true

namespace Run

variable {agent : Agent} {world : World} {shutdownAt : Option Nat} {log : List Made}
  {run after : Run} {worker moved : Worker}

theorem allows_of_minds {call : Call} {next : call.Reply → Errand}
    (minds : worker.Minds run.world run.table)
    (asks : worker.phase.errand? = some (.ask call next)) :
    worker.job.charge.Allows (run.world.registry.held worker.job.charge) call :=
  have (call : Call) : Nonempty call.Reply := ⟨.error .cancelled⟩
  @allowed_of_always _ _ _ _ (fun call held => worker.job.charge.Allows held call) _ _ _ _ _ _
    (minds.busy _ asks)

theorem Turn.held_other (turn : Turn run worker after moved) (reached : run.world.Reachable)
    (minds : worker.Minds run.world run.table) {job : Job}
    (apart : job.identity ≠ worker.job.identity) :
    after.world.registry.held job.charge = run.world.registry.held job.charge := by
  cases turn with
  | rests | departs | reports => rfl
  | waits asks goes onward same => exact congrArg (Registry.held · job.charge) same
  | hears asks goes onward answered =>
    exact Charge.held_of_answered_other reached.valid.1 (allows_of_minds minds asks) apart answered

theorem Turn.minds (turn : Turn run worker after moved) (reached : run.world.Reachable)
    (lasting : ∀ start, worker.job.token start = worker.job.token .epoch)
    (candid : Candid (run.Refuses worker)) (room : after.world.registry.serial ≤ Walk.pageLimit)
    (tracked : worker.Tracked run.world run.table) (minds : worker.Minds run.world run.table) :
    moved.Minds after.world after.table := by
  have sized := reached.valid.2
  cases turn with
  | rests idle rests stops =>
    exact ⟨minds.known, fun _ => minds.idle idle, fun errand there => by simp [rests] at there⟩
  | departs idle goes =>
    refine ⟨minds.known, fun none => by simp [goes] at none, fun errand there => ?_⟩
    obtain rfl : _ = errand := Option.some.inj (goes.symm.trans there)
    exact Job.always_errand_mirrors sized lasting (minds.idle idle) _ _
  | @waits errand world phase asks goes onward same =>
    have held := congrArg (Registry.held · worker.job.charge) same
    have stays : worker.Minds world run.table := minds.later onward.site held rfl
    refine ⟨stays.known, fun none => by simp [goes] at none, fun errand there => ?_⟩
    exact stays.busy errand (asks.trans (goes.symm.trans there))
  | hears asks goes onward answered =>
    have told := Charge.told_of_answered candid reached.valid.1 (allows_of_minds minds asks)
      answered room
    refine ⟨fun id member => told.kept (minds.known id member), fun none => by simp [goes] at none,
      fun errand there => ?_⟩
    obtain rfl : _ = errand := Option.some.inj (goes.symm.trans there)
    have (call : Call) : Nonempty call.Reply := ⟨.error .cancelled⟩
    rw [onward.site]
    exact @always_next _ _ _ _ (fun call held => worker.job.charge.Allows held call) _ _ _ _ _ _
      (minds.busy _ asks) _ _ told
  | @reports dated backoff phase done rests stops =>
    obtain ⟨held, same, shows⟩ := minds.busy _ done
    cases same
    have own := (tracked.reports done run.world.now).1
    have mirrors : StatusTable.Mirrors ((dated run.world.now).record run.world.now run.table)
        (run.world.registry.held worker.job.charge) worker.job :=
      StatusTable.mirrors_record own (shows run.world.now) minds.known
    exact ⟨fun id member => mirrors.named ▸ member, fun _ => mirrors,
      fun errand there => by simp [rests] at there⟩

/-- No look at a rule was refused as if the rule were missing. -/
def IsCandid (log : List Made) : Prop := ∀ made ∈ log, made.isCandid = true

instance (log : List Made) : Decidable (IsCandid log) :=
  inferInstanceAs (Decidable (∀ made ∈ log, made.isCandid = true))

theorem candid_of_log (candid : IsCandid (run.made worker)) : Candid (run.Refuses worker) := by
  rintro id failure (rfl | rfl | made)
  · rfl
  · rfl
  · simpa [Made.isCandid] using candid _ made

theorem Turn.serial (turn : Turn run worker after moved) (reached : run.world.Reachable) :
    run.world.registry.serial ≤ after.world.registry.serial := by
  cases turn with
  | rests | departs | reports => exact Nat.le_refl _
  | waits asks goes onward same => exact same ▸ Nat.le_refl _
  | hears asks goes onward answered => exact (answered.valid reached.valid.1).2

structure Accounts (jobs : List Job) (registry : Registry) (table : StatusTable) : Prop where
  created : ∀ {kind token entry}, (registry.tokens kind).get? token = some entry →
    ∃ job ∈ jobs, job.identity = (kind, entry.name) ∧ job.charge.token = token
  blank : ∀ identity, (∀ job ∈ jobs, job.identity ≠ identity) → table.entry identity = .empty

theorem Turn.accounts {jobs : List Job} (turn : Turn run worker after moved)
    (reached : run.world.Reachable) (hired : worker.job ∈ jobs)
    (tracked : worker.Tracked run.world run.table) (minds : worker.Minds run.world run.table)
    (accounts : Accounts jobs run.world.registry run.table) :
    Accounts jobs after.world.registry after.table := by
  refine ⟨fun {kind token entry} known => ?_, fun identity nobody => ?_⟩
  · cases turn with
    | rests | departs | reports => exact accounts.created known
    | waits asks goes onward same => exact accounts.created (same ▸ known)
    | hears asks goes onward answered =>
      rcases Charge.tokens_of_answered reached.valid.1 (allows_of_minds minds asks) answered known
        with old | ⟨identity, own⟩
      · exact accounts.created old
      · exact ⟨worker.job, hired, identity, own⟩
  · rw [turn.others tracked (nobody worker.job hired).symm]
    exact accounts.blank identity nobody

/-- In every run at an empty provider, whatever fails and however the workers take turns, all that
is there is written down, as long as no look at a rule pretends that it is missing. -/
theorem Reached.minds (steady : Steady agent.jobs) (new : world.Reachable)
    (empty : world.registry = ∅) (blank : agent.table = ∅)
    (reached : Reached agent world shutdownAt log run) (candid : IsCandid log)
    (room : run.world.registry.serial ≤ Walk.pageLimit) :
    Accounts agent.jobs run.world.registry run.table ∧
      ∀ worker ∈ run.workers, worker.Minds run.world run.table := by
  have upkeep := reached.keeps steady.apart
    (fun log world table => IsCandid log → world.registry.serial ≤ Walk.pageLimit →
      Accounts agent.jobs world.registry table)
    (fun log world table worker => IsCandid log → world.registry.serial ≤ Walk.pageLimit →
      worker.Minds world table) ?_ ?_ ?_ ?_
  · exact ⟨upkeep.1 candid room, fun worker member => upkeep.2 worker member candid room⟩
  · refine fun _ _ => ⟨fun {kind token entry} known => ?_, fun identity _ => ?_⟩
    · simp [empty] at known
    · rw [blank, StatusTable.entry_empty]
  · refine fun job _ _ _ => ⟨?_, fun _ => ?_, by simp [Worker.new, Phase.errand?]⟩
    · simp [blank]
    · rw [empty, blank, Registry.held_empty]
      exact StatusTable.mirrors_empty job
  · intro log table before after onward same
    refine ⟨fun holds candid room => same ▸ holds candid (same ▸ room),
      fun worker holds candid room => ?_⟩
    exact (holds candid (same ▸ room)).later onward.site (by rw [same]) rfl
  · intro log run worker after moved reached member turn accounts minds
    have reachable := reached.reachable new
    have tracked := reached.tracked steady new blank worker member
    have earlier := turn.serial reachable
    have lasting := fun start => steady.lasting _ (reached.hired member) start .epoch
    refine ⟨fun candid room => ?_, fun candid room => ?_, fun other _ apart holds candid room => ?_⟩
    all_goals
      have before : IsCandid log := fun made member => candid made (List.mem_append_left _ member)
      have room' := Nat.le_trans earlier room
      have minds := minds before room'
    · exact turn.accounts reachable (reached.hired member) tracked minds (accounts before room')
    · refine turn.minds reachable lasting (candid_of_log fun made member => ?_) room tracked minds
      exact candid made (List.mem_append_right _ member)
    · exact (holds before room').later turn.onward.site (turn.held_other reachable minds apart)
        (turn.others tracked apart)

end Run

end Converge
