import Converge.Proofs.Agent.Table
import Converge.Proofs.Endpoint.Tracking
import Converge.Proofs.Manifest
import Converge.Proofs.Rule.Tracking
import Mathlib.Data.List.Nodup
import Mathlib.Data.Prod.Basic

/-! However passes overlap, no resource is there twice. Every pass under way keeps to the one
resource of its token, whatever the others do, since all passes of a resource agree on the token
and nobody deletes anything. -/
namespace Converge

open Provider Resolver Program

namespace Provider.World

variable {world after : World} {call : Call}

theorem deliver_shared (reached : world.Reachable) (keeping : call.IsKeeping)
    (delivery : Delivery) :
    Shared world.site call world.registry (world.deliver delivery call).1
      (world.deliver delivery call).2.registry := by
  have valid := reached.valid.1
  have shared := Shared.of_answered valid keeping (complete_answered noRefusal world call)
  cases delivery with
  | answered => exact shared
  | lost failure => exact .failed shared.valid shared.kept failure
  | dropped failure => exact .failed valid (.refl _) failure

theorem reachable_deliver (reached : world.Reachable) (delivery : Delivery) :
    (world.deliver delivery call).2.Reachable := by
  cases delivery with
  | answered | lost => exact reached.completed call
  | dropped => exact reached

theorem site_deliver (delivery : Delivery) :
    (world.deliver delivery call).2.site = world.site := by
  cases delivery with
  | answered | lost => exact complete_later.site
  | dropped => rfl

namespace Meanwhile

variable (meanwhile : Meanwhile world after)

include meanwhile

theorem reachable (reached : world.Reachable) : after.Reachable := by
  cases meanwhile with
  | begun bounds call => exact reached.begun bounds call
  | completed => exact reached.completed _
  | elapsed time => exact reached.elapsed time
  | arranged fault => exact reached.arranged fault
  | cleared => exact reached.cleared
  | forced forced => exact reached.forced forced

theorem site : after.site = world.site := by
  cases meanwhile with
  | begun => exact begin_later.site
  | completed => exact complete_later.site
  | elapsed | arranged | cleared | forced => rfl

theorem keeps (reached : world.Reachable) : world.registry.Keeps after.registry := by
  have valid := reached.valid.1
  cases meanwhile with
  | begun bounds call =>
    rw [begin_registry]
    exact .refl _
  | @completed call keeping => exact (deliver_shared reached keeping .answered).kept
  | elapsed | arranged | cleared => exact .refl _
  | forced forced => exact (Registry.setStatus_growth valid forced).keeps valid

end Meanwhile

end Provider.World

def Report.IsOf (token : Token) (registry : Registry) (report : Report) : Prop :=
  ∀ id ∈ report.id?, registry.tokenOf report.identity.1 id = some token.text

theorem Report.IsOf.of_keeps {token : Token} {registry after : Registry} {report : Report}
    (fine : report.IsOf token registry) (keeps : registry.Keeps after) :
    report.IsOf token after :=
  fun id named => keeps _ id token.text (fine id named)

theorem Report.named_endpoint (name : String) (result : Reconciled Endpoint) :
    (Report.endpoint name result).identity = (.endpoint, name) ∧
      (Report.endpoint name result).id? = result.observed.bind Endpoint.id? := ⟨rfl, rfl⟩

theorem Report.named_rule (name : String) (result : Reconciled Rule) :
    (Report.rule name result).identity = (.rule, name) ∧
      (Report.rule name result).id? = result.observed.bind Rule.id? := ⟨rfl, rfl⟩

theorem Flight.identity_begun (identity : Identity) (call : Call)
    (next : call.Reply → Errand) (refused : Option Failure) :
    (Flight.begun identity call next refused).identity = identity := by
  cases refused <;> rfl

/-- Whatever happens until then, the pass creates under the token only, deletes nothing, and
reports on the resource of the token. -/
structure Flight.IsSafe (site : Site) (token : Token) (registry : Registry) (flight : Flight) :
    Prop where
  proper : flight.errand.Asks (Call.IsProper token)
  reports : flight.errand.Always (Shared site) (fun dated after => ∀ stop,
    (dated stop).identity = flight.identity ∧ (dated stop).IsOf token after) registry

namespace Flight.IsSafe

variable {site : Site} {token : Token} {registry after : Registry}

theorem of_keeps {flight : Flight} (fine : flight.IsSafe site token registry)
    (keeps : registry.Keeps after) : flight.IsSafe site token after where
  proper := fine.proper
  reports := always_of_keeps keeps
    (fun _ _ _ keeps fine stop => ⟨(fine stop).1, (fine stop).2.of_keeps keeps⟩) fine.reports

theorem next {identity : Identity} {call : Call} {next : call.Reply → Errand}
    {waiting : Bool} (fine : IsSafe site token registry ⟨identity, .ask call next, waiting⟩)
    {reply : call.Reply} (shared : Shared site call registry reply after) :
    IsSafe site token after ⟨identity, next reply, false⟩ :=
  ⟨fine.proper.2 reply, fine.reports reply after shared⟩

theorem begun {identity : Identity} {call : Call} {next : call.Reply → Errand}
    {waiting : Bool} (valid : registry.Valid site)
    (fine : IsSafe site token registry ⟨identity, .ask call next, waiting⟩)
    (refused : Option Failure) :
    IsSafe site token registry (Flight.begun identity call next refused) := by
  cases refused with
  | none => exact ⟨fine.proper, fine.reports⟩
  | some failure => exact fine.next (.failed valid (.refl _) failure)

end Flight.IsSafe

section Departures

variable {site : Site} {registry : Registry} {token : Token} {D O : Type}
  {manager : Manager Call Call.Reply D O} {id? : O → Option String} {desired : D}
  {identity : Identity} {report : Reconciled O → Report}

section Reporting

variable (named : ∀ result, (report result).identity = identity ∧
  (report result).id? = result.observed.bind id?)

include named

theorem owned_of_known {last : Option O} {returned : List Report}
    (known : ∀ observed ∈ last, ∃ result, report result ∈ returned ∧
      result.observed = some observed)
    (fine : ∀ report ∈ returned, report.identity = identity → report.IsOf token registry) :
    Owned identity.1 id? token last registry := by
  intro id shown
  cases last with
  | none => cases shown
  | some observed =>
    obtain ⟨result, member, same⟩ := known observed rfl
    obtain ⟨same', shows⟩ := named result
    have owned := fine _ member same' id
    rw [shows, same, same'] at owned
    exact owned shown

theorem isSafe_errandOf {delays : PassDelays} {entry : Entry O} {start : Timestamp}
    (carries : manager.token desired start = token)
    (proper : (manager.pass desired token entry.observed).Asks (Call.IsProper token))
    (tracks : manager.Tracks site identity.1 id? desired token) (valid : registry.Valid site)
    (owned : Owned identity.1 id? token entry.observed registry) :
    Flight.IsSafe site token registry
      ⟨identity, errandOf manager delays report entry desired start, false⟩ := by
  unfold errandOf
  rw [carries]
  refine ⟨proper.bind fun _ => trivial, (always_bind _ _ _ _).2 ?_⟩
  refine (tracks.always_pass valid owned).imp fun result after owned => ?_
  refine (always_pure _ _ _).2 fun stop => ?_
  obtain ⟨same, shows⟩ :=
    named (result.conclude manager.terminalCodes delays stop entry.conditions)
  refine ⟨same, fun id member => ?_⟩
  rw [shows, PassResult.observed_conclude] at member
  rw [same]
  exact owned id member

end Reporting

theorem token_resolve {table : StatusTable} {spec resolved : RuleSpec}
    (done : table.resolve spec = .ok resolved) (start : Timestamp) :
    ruleManager.token resolved start = ruleManager.token spec start := by
  unfold StatusTable.resolve at done
  split at done
  · cases done
    rfl
  · next name _ =>
    obtain ⟨id, -, same⟩ := bind_eq_ok_iff.1 done
    cases same
    rfl

theorem Job.isSafe_errand_of_shown {job : Job} {table : StatusTable}
    (carries : ∀ start, job.token start = token)
    (shown : ∀ id ∈ table.id? job.identity, registry.tokenOf job.identity.1 id = some token.text)
    (valid : registry.Valid site) (delays : PassDelays) (start : Timestamp) :
    Flight.IsSafe site token registry ⟨job.identity, job.errand delays table start, false⟩ := by
  cases job with
  | endpoint spec =>
    exact isSafe_errandOf (Report.named_endpoint spec.name) (carries start) (Endpoint.asks_pass _)
      Endpoint.tracks valid shown
  | rule spec =>
    simp only [errand]
    split
    · next resolved done =>
      exact isSafe_errandOf (Report.named_rule spec.name)
        ((token_resolve done start).trans (carries start)) (Rule.asks_pass _) Rule.tracks valid
        shown
    · exact ⟨trivial, fun stop => ⟨rfl, shown⟩⟩

theorem Job.isSafe_errand {job : Job} {table : StatusTable} {returned : List Report}
    (known : job.StartsFrom table returned) (carries : ∀ start, job.token start = token)
    (fine : ∀ report ∈ returned, report.identity = job.identity → report.IsOf token registry)
    (valid : registry.Valid site) (delays : PassDelays) (start : Timestamp) :
    Flight.IsSafe site token registry ⟨job.identity, job.errand delays table start, false⟩ := by
  refine isSafe_errand_of_shown carries ?_ valid delays start
  unfold StartsFrom at known
  cases job with
  | endpoint spec => exact owned_of_known (Report.named_endpoint spec.name) known fine
  | rule spec => exact owned_of_known (Report.named_rule spec.name) known fine

end Departures

def Carries (jobs : List Job) (identity : Identity) (token : Token) : Prop :=
  ∃ job ∈ jobs, job.identity = identity ∧ ∀ start, job.token start = token

/-- No resource is listed twice, and none has a token that depends on when a pass starts. -/
structure Steady (jobs : List Job) : Prop where
  apart : (jobs.map Job.identity).Nodup
  lasting : ∀ job ∈ jobs, ∀ start other, job.token start = job.token other

namespace Steady

variable {jobs : List Job} (steady : Steady jobs)

include steady

theorem carries {job : Job} (listed : job ∈ jobs) (start : Timestamp) :
    Carries jobs job.identity (job.token start) :=
  ⟨job, listed, rfl, fun other => steady.lasting job listed other start⟩

theorem token_unique {identity : Identity} {token other : Token}
    (first : Carries jobs identity token) (second : Carries jobs identity other) :
    token = other := by
  obtain ⟨job, listed, rfl, carries⟩ := first
  obtain ⟨job', listed', same, carries'⟩ := second
  have same : job' = job := List.inj_on_of_nodup_map steady.apart listed' listed same
  rw [← carries .epoch, ← carries' .epoch, same]

end Steady

theorem Agent.steady_jobs {manifest : Manifest} (valid : manifest.validate = .ok ())
    (config : AgentConfig) (time : Timestamp) :
    Steady (Agent.new manifest config time).jobs := by
  have names := Manifest.nodup_of_valid
    ((manifest.validate_stampCreation time).trans valid)
  constructor
  · have endpoints := names.1.map (Prod.mk_right_injective ArnKind.endpoint)
    have rules := names.2.map (Prod.mk_right_injective ArnKind.rule)
    rw [List.map_map] at endpoints rules
    unfold Agent.jobs
    rw [List.map_append, List.map_map, List.map_map]
    refine endpoints.append rules fun identity here there => ?_
    obtain ⟨endpoint, -, rfl⟩ := List.mem_map.1 here
    obtain ⟨rule, -, same⟩ := List.mem_map.1 there
    cases same
  · intro job listed start other
    rcases List.mem_append.1 listed with listed | listed
    all_goals
      obtain ⟨spec, member, rfl⟩ := List.mem_map.1 listed
      obtain ⟨declared, -, rfl⟩ := List.mem_map.1 member
      rfl

structure Traffic.Safe (jobs : List Job) (traffic : Traffic) : Prop where
  reachable : traffic.world.Reachable
  flying : ∀ flight ∈ traffic.flights, ∃ token, Carries jobs flight.identity token ∧
    flight.IsSafe traffic.site token traffic.registry
  returned : ∀ report ∈ traffic.returned, ∃ token, Carries jobs report.identity token ∧
    report.IsOf token traffic.registry
  issued : ∀ identity call, (identity, call) ∈ traffic.issued → ∃ token,
    Carries jobs identity token ∧ call.IsProper token

namespace Traffic

variable {jobs : List Job} {traffic : Traffic}

namespace Safe

theorem start {world : World} (reached : world.Reachable) : Safe jobs (.start world) where
  reachable := reached
  flying _ := nofun
  returned _ := nofun
  issued _ _ := nofun

variable (safe : Safe jobs traffic)

include safe

theorem later {world : World} (reached : world.Reachable) (site : world.site = traffic.site)
    (keeps : traffic.registry.Keeps world.registry) : Safe jobs { traffic with world } where
  reachable := reached
  flying flight member := by
    obtain ⟨token, carries, fine⟩ := safe.flying flight member
    refine ⟨token, carries, ?_⟩
    show flight.IsSafe world.site token world.registry
    rw [site]
    exact fine.of_keeps keeps
  returned report member := by
    obtain ⟨token, carries, fine⟩ := safe.returned report member
    exact ⟨token, carries, fine.of_keeps keeps⟩
  issued := safe.issued

theorem replace {flight : Flight} {token : Token} (number : Nat)
    (carries : Carries jobs flight.identity token)
    (fine : flight.IsSafe traffic.site token traffic.registry) :
    Safe jobs { traffic with flights := traffic.flights.set number flight } where
  reachable := safe.reachable
  flying other member := by
    rcases List.mem_or_eq_of_mem_set member with member | rfl
    · exact safe.flying other member
    · exact ⟨token, carries, fine⟩
  returned := safe.returned
  issued := safe.issued

theorem issue {identity : Identity} {call : Call} {token : Token}
    (carries : Carries jobs identity token) (proper : call.IsProper token) :
    Safe jobs { traffic with issued := traffic.issued ++ [(identity, call)] } where
  reachable := safe.reachable
  flying := safe.flying
  returned := safe.returned
  issued other made member := by
    rcases List.mem_append.1 member with member | member
    · exact safe.issued other made member
    · cases List.mem_singleton.1 member
      exact ⟨token, carries, proper⟩

theorem depart (steady : Steady jobs) {job : Job} {table : StatusTable} (listed : job ∈ jobs)
    (known : job.StartsFrom table traffic.returned) (delays : PassDelays) (start : Timestamp) :
    Safe jobs (traffic.depart job delays table start) where
  reachable := safe.reachable
  flying flight member := by
    rcases List.mem_append.1 member with member | member
    · exact safe.flying flight member
    · cases List.mem_singleton.1 member
      have carries := steady.carries listed start
      refine ⟨job.token start, carries, Job.isSafe_errand known
        (fun other => steady.lasting job listed other start) (fun report member same => ?_)
        safe.reachable.valid.1 delays start⟩
      obtain ⟨token, carries', fine⟩ := safe.returned report member
      rw [same] at carries'
      exact steady.token_unique carries' carries ▸ fine
  returned := safe.returned
  issued := safe.issued

theorem call (number : Nat) (bounds : Bounds) : Safe jobs (traffic.call number bounds) := by
  unfold Traffic.call
  split
  · next identity call next here =>
    have kept : traffic.registry.Keeps (traffic.world.begin bounds call).2.registry := by
      rw [World.begin_registry]
      exact .refl _
    have later := safe.later (safe.reachable.begun bounds call) World.begin_later.site kept
    obtain ⟨token, carries, fine⟩ := later.flying _ (List.mem_of_getElem? here)
    have begun := fine.begun later.reachable.valid.1 (traffic.world.begin bounds call).1
    refine (later.replace number ?_ begun).issue carries fine.proper.1
    rw [Flight.identity_begun]
    exact carries
  · exact safe

theorem deliver (number : Nat) (delivery : Delivery) :
    Safe jobs (traffic.deliver number delivery) := by
  unfold Traffic.deliver
  split
  · next identity call next here =>
    obtain ⟨token, carries, fine⟩ := safe.flying _ (List.mem_of_getElem? here)
    have shared := World.deliver_shared safe.reachable fine.proper.1.keeping delivery
    have later := safe.later (World.reachable_deliver safe.reachable delivery)
      (World.site_deliver delivery) shared.kept
    refine later.replace number carries ?_
    show Flight.IsSafe (traffic.world.deliver delivery call).2.site token _ _
    rw [World.site_deliver]
    exact fine.next shared
  · exact safe

theorem land (number : Nat) (stop : Timestamp) : Safe jobs (traffic.land number stop) := by
  unfold Traffic.land
  split
  · next identity report waiting here =>
    obtain ⟨token, carries, fine⟩ := safe.flying _ (List.mem_of_getElem? here)
    obtain ⟨same, shows⟩ := fine.reports stop
    exact {
      reachable := safe.reachable
      flying := fun flight member => safe.flying flight (List.mem_of_mem_eraseIdx member)
      returned := fun other member => by
        rcases List.mem_append.1 member with member | member
        · exact safe.returned other member
        · cases List.mem_singleton.1 member
          exact ⟨token, same ▸ carries, shows⟩
      issued := safe.issued }
  · exact safe

theorem step (steady : Steady jobs) {after : Traffic} (step : Traffic.Step jobs traffic after) :
    Safe jobs after := by
  cases step with
  | departed delays start listed known => exact safe.depart steady listed known delays start
  | called number bounds => exact safe.call number bounds
  | delivered number delivery => exact safe.deliver number delivery
  | landed number stop => exact safe.land number stop
  | meanwhile change =>
    exact safe.later (change.reachable safe.reachable) change.site (change.keeps safe.reachable)

end Safe

theorem Reached.safe (steady : Steady jobs) (reached : Reached jobs traffic) :
    Safe jobs traffic := by
  induction reached with
  | start reached => exact .start reached
  | step _ step ih => exact ih.step steady step

/-- At every moment there is at most one live resource with the token of a job. Whatever has ever
been asked to be created for the job carries this token, and whatever passes over it have ever
returned shows one id. -/
theorem one_resource_each {manifest : Manifest} {config : AgentConfig} {time : Timestamp}
    {job : Job} (valid : manifest.validate = .ok ())
    (reached : Reached (Agent.new manifest config time).jobs traffic)
    (listed : job ∈ (Agent.new manifest config time).jobs) (start : Timestamp) :
    (∀ id other, traffic.registry.tokenOf job.identity.1 id = some (job.token start).text →
      traffic.registry.tokenOf job.identity.1 other = some (job.token start).text → id = other) ∧
    (∀ call, (job.identity, call) ∈ traffic.issued →
      ∀ text ∈ call.creationToken?, text = (job.token start).text) ∧
    ∀ first ∈ traffic.returned, first.identity = job.identity →
      ∀ second ∈ traffic.returned, second.identity = job.identity →
        ∀ id ∈ first.id?, ∀ other ∈ second.id?, id = other := by
  have steady := Agent.steady_jobs valid config time
  have safe := reached.safe steady
  have carries := steady.carries listed start
  have single : ∀ id other,
      traffic.registry.tokenOf job.identity.1 id = some (job.token start).text →
      traffic.registry.tokenOf job.identity.1 other = some (job.token start).text → id = other :=
    fun id other => safe.reachable.valid.1.tokenOf_inj
  have shown : ∀ report ∈ traffic.returned, report.identity = job.identity → ∀ id ∈ report.id?,
      traffic.registry.tokenOf job.identity.1 id = some (job.token start).text := by
    intro report member same id named
    obtain ⟨token, carries', fine⟩ := safe.returned report member
    have owned := fine id named
    rw [same] at carries' owned
    rw [owned, steady.token_unique carries' carries]
  refine ⟨single, fun call member text made => ?_, ?_⟩
  · obtain ⟨token, carries', proper⟩ := safe.issued job.identity call member
    rw [proper.creates text made, steady.token_unique carries' carries]
  · intro first here same second there same' id named other named'
    exact single id other (shown first here same id named) (shown second there same' other named')

def lone : EndpointSpec :=
  { (default : EndpointSpec) with
    name := "gate"
    securityGroupIds := ["sg-1"]
    ipAddresses := ["subnet-a", "subnet-b"].map fun subnet => ⟨subnet, none, none⟩ }

/-- Two passes at once, one of which never hears that it has created the endpoint, and a third one
that starts all over. -/
def crossing (job : Job) : Traffic :=
  let begun := ((start .still).depart job {} ∅ .epoch).depart job {} ∅ .epoch
  let asked := (begun.call 0 .unbounded).call 1 .unbounded
  let heard := (asked.deliver 0 (.lost .deadlineExceeded)).deliver 1 .answered
  let ended := (heard.land 1 .epoch).land 0 .epoch
  (((ended.depart job {} ∅ .epoch).call 0 .unbounded).deliver 0 .answered).land 0 .epoch

theorem crossing_one_resource :
    let job : Job := .endpoint { lone with createdAt := some .epoch }
    (crossing job).returned.map Report.id? =
        [some "rslvr-in-00000000000000001", none, some "rslvr-in-00000000000000001"] ∧
      (crossing job).issued.length = 3 ∧
      ∀ first ∈ (crossing job).returned, first.identity = job.identity →
        ∀ second ∈ (crossing job).returned, second.identity = job.identity →
          ∀ id ∈ first.id?, ∀ other ∈ second.id?, id = other := by
  intro job
  have valid : Manifest.validate ⟨[lone], []⟩ = .ok () := by decide +kernel
  have listed : job ∈ (Agent.new ⟨[lone], []⟩ {} .epoch).jobs := List.mem_singleton.2 rfl
  have known : ∀ returned, job.StartsFrom ∅ returned := fun _ _ => nofun
  have reached : Reached (Agent.new ⟨[lone], []⟩ {} .epoch).jobs (crossing job) := by
    have begun := ((Reached.start .still).step (.departed {} .epoch listed (known _))).step
      (.departed {} .epoch listed (known _))
    have asked := (begun.step (.called 0 .unbounded)).step (.called 1 .unbounded)
    have heard := (asked.step (.delivered 0 (.lost .deadlineExceeded))).step
      (.delivered 1 .answered)
    have ended := (heard.step (.landed 1 .epoch)).step (.landed 0 .epoch)
    exact (((ended.step (.departed {} .epoch listed (known _))).step (.called 0 .unbounded)).step
      (.delivered 0 .answered)).step (.landed 0 .epoch)
  refine ⟨by decide +kernel, by decide +kernel, ?_⟩
  exact (one_resource_each valid reached listed .epoch).2.2

end Traffic

end Converge
