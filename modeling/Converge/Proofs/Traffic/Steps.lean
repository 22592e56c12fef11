import Converge.Agent.Run
import Converge.Proofs.Provider.Reachable
import Converge.Proofs.Provider.Shared

/-! Passes that overlap. Any number of passes over the resources of a manifest are under way at one
provider, several of them over one resource if need be, and one call is made or answered at a time.
A call may be carried out and its answer lost, and others use the provider too. -/
namespace Converge

open Provider Resolver

abbrev Identity : Type := ArnKind × String

namespace Job

def identity : Job → Identity
  | endpoint spec => (.endpoint, spec.name)
  | rule spec => (.rule, spec.name)

def token (start : Timestamp) : Job → Token
  | endpoint spec => endpointManager.token spec start
  | rule spec => ruleManager.token spec start

end Job

namespace Report

def identity : Report → Identity
  | endpoint name _ => (.endpoint, name)
  | rule name _ => (.rule, name)

def id? : Report → Option String
  | endpoint _ result => result.observed.bind Endpoint.id?
  | rule _ result => result.observed.bind Rule.id?

end Report

/-- What a pass of the job is to start from: nothing, or what an earlier one has returned. -/
def Job.StartsFrom (table : StatusTable) (returned : List Report) : Job → Prop
  | endpoint spec => ∀ last ∈ ((table.endpoints.get? spec.name).getD .empty).observed,
    ∃ result, Report.endpoint spec.name result ∈ returned ∧ result.observed = some last
  | rule spec => ∀ last ∈ ((table.rules.get? spec.name).getD .empty).observed,
    ∃ result, Report.rule spec.name result ∈ returned ∧ result.observed = some last

structure Flight where
  identity : Identity
  errand : Errand
  waiting : Bool

/-- A pass whose next call has just been made, and may have been refused. -/
def Flight.begun (identity : Identity) (call : Call) (next : call.Reply → Errand) :
    Option Failure → Flight
  | none => ⟨identity, .ask call next, true⟩
  | some failure => ⟨identity, next (.error failure), false⟩

inductive Delivery where
  | answered
  /-- It was carried out, but something else is heard. -/
  | lost (failure : Failure)
  /-- It was cut off and has no effect. -/
  | dropped (failure : Failure)

def Provider.World.deliver (world : World) (delivery : Delivery) (call : Call) :
    call.Reply × World :=
  match delivery with
  | .answered => world.complete call
  | .lost failure => (.error failure, (world.complete call).2)
  | .dropped failure => (.error failure, world)

structure Traffic where
  world : World
  flights : List Flight
  /-- Everything that passes have returned so far. -/
  returned : List Report
  issued : List (Identity × Call)

namespace Traffic

def registry (traffic : Traffic) : Registry := traffic.world.registry

def site (traffic : Traffic) : Site := traffic.world.site

def start (world : World) : Traffic := ⟨world, [], [], []⟩

/-- Another pass begins, whether or not the resource has one already. -/
def depart (traffic : Traffic) (job : Job) (delays : PassDelays) (table : StatusTable)
    (start : Timestamp) : Traffic :=
  { traffic with
    flights := traffic.flights ++ [⟨job.identity, job.errand delays table start, false⟩] }

/-- The pass with the given number makes its next call, which may be refused at once. -/
def call (traffic : Traffic) (number : Nat) (bounds : Bounds) : Traffic :=
  match traffic.flights[number]? with
  | some ⟨identity, .ask call next, false⟩ =>
    let begun := traffic.world.begin bounds call
    { traffic with
      world := begun.2
      flights := traffic.flights.set number (.begun identity call next begun.1)
      issued := traffic.issued ++ [(identity, call)] }
  | _ => traffic

def deliver (traffic : Traffic) (number : Nat) (delivery : Delivery) : Traffic :=
  match traffic.flights[number]? with
  | some ⟨identity, .ask call next, true⟩ =>
    let ended := traffic.world.deliver delivery call
    { traffic with
      world := ended.2
      flights := traffic.flights.set number ⟨identity, next ended.1, false⟩ }
  | _ => traffic

def land (traffic : Traffic) (number : Nat) (stop : Timestamp) : Traffic :=
  match traffic.flights[number]? with
  | some ⟨_, .done report, _⟩ =>
    { traffic with
      flights := traffic.flights.eraseIdx number
      returned := traffic.returned ++ [report stop] }
  | _ => traffic

end Traffic

/-- What may happen at a provider meanwhile. Nobody deletes anything. -/
inductive Provider.World.Meanwhile (world : World) : World → Prop where
  | begun (bounds : Bounds) (call : Call) : Meanwhile world (world.begin bounds call).2
  | completed {call : Call} (keeping : call.IsKeeping) : Meanwhile world (world.complete call).2
  | elapsed (time : Nat) : Meanwhile world { world with time }
  | arranged (fault : Fault) : Meanwhile world { world with journal := world.journal.failNth fault }
  | cleared : Meanwhile world { world with journal := world.journal.clear }
  | forced {id : String} {status : EndpointState} {registry : Registry}
      (forced : world.registry.setStatus id status = .ok registry) :
      Meanwhile world { world with registry }

inductive Traffic.Step (jobs : List Job) (traffic : Traffic) : Traffic → Prop where
  | departed {job : Job} {table : StatusTable} (delays : PassDelays) (start : Timestamp)
      (listed : job ∈ jobs) (known : job.StartsFrom table traffic.returned) :
      Step jobs traffic (traffic.depart job delays table start)
  | called (number : Nat) (bounds : Bounds) : Step jobs traffic (traffic.call number bounds)
  | delivered (number : Nat) (delivery : Delivery) :
      Step jobs traffic (traffic.deliver number delivery)
  | landed (number : Nat) (stop : Timestamp) : Step jobs traffic (traffic.land number stop)
  | meanwhile {world : World} (change : World.Meanwhile traffic.world world) :
      Step jobs traffic { traffic with world }

/-- The traffic at a provider that has been in use, at any moment since the first pass began. -/
inductive Traffic.Reached (jobs : List Job) : Traffic → Prop where
  | start {world : World} (reached : world.Reachable) : Reached jobs (.start world)
  | step {traffic after : Traffic} (reached : Reached jobs traffic)
      (step : Traffic.Step jobs traffic after) : Reached jobs after

end Converge
