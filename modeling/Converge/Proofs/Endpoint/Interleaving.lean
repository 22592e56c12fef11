import Converge.Proofs.Endpoint.Parallel
import Converge.Proofs.Moves
import Converge.Proofs.Reconcile
import Mathlib.Logic.Function.Basic
import Mathlib.Logic.Pairwise

/-! Passes over different endpoints, in any order of their calls. A pass among others goes as it
would on its own: at every moment it stands where a pass stands that has the provider for itself and
has made as many calls, and what both are about is the same under other numbers. -/
namespace Converge

open Provider Resolver Program

structure Ensemble (ι α : Type) where
  world : World
  rest : ι → Program Call Call.Reply α

namespace Ensemble

variable {ι α : Type}

def ending? (ensemble : Ensemble ι α) (who : ι) : Option α :=
  match ensemble.rest who with
  | .done result => some result
  | .ask _ _ => none

variable [DecidableEq ι]

def turn (ensemble : Ensemble ι α) (who : ι) (time : Nat) : Ensemble ι α :=
  match ensemble.rest who with
  | .done _ => ensemble
  | .ask call next =>
    let (reply, world) := World.serve .unbounded call { ensemble.world with time }
    ⟨world, Function.update ensemble.rest who (next reply)⟩

def run (ensemble : Ensemble ι α) (schedule : List (ι × Nat)) : Ensemble ι α :=
  schedule.foldl (fun ensemble turn => ensemble.turn turn.1 turn.2) ensemble

end Ensemble

section Abreast

variable {α : Type} {base : Nat}

structure Program.AbreastAt (site : Site) (stake : Stake) (post : Renaming base → α → α → Prop)
    (whole : α × World) (left : Nat) (shared : Registry) (rest : Program Call Call.Reply α)
    (names : Renaming base) (alone : World) (own : Program Call Call.Reply α) : Prop where
  inStep : own.InStep (mirroring base site stake) post rest names
  mirrors : Mirrors site stake names alone.registry shared
  calm : alone.IsCalm
  placed : alone.site = site
  same : own.run (World.serve .unbounded) alone = whole
  short : (own.moves (World.serve .unbounded) alone).length ≤ left

/-- A program among others stands where it stands on its own, for some names. -/
def Program.Abreast (site : Site) (stake : Stake) (post : Renaming base → α → α → Prop)
    (whole : α × World) (left : Nat) (shared : Registry) (rest : Program Call Call.Reply α) :
    Prop :=
  ∃ names alone own, rest.AbreastAt site stake post whole left shared names alone own

namespace Program.Abreast

variable {site : Site} {stake neighbour : Stake} {post : Renaming base → α → α → Prop}
  {whole : α × World} {left : Nat} {shared after : Registry} {rest : Program Call Call.Reply α}
  {call : Call} {onward : call.Reply → Program Call Call.Reply α}

theorem within (abreast : Abreast site stake post whole left shared (.ask call onward)) :
    call.Within site stake := by
  obtain ⟨names, alone, own, stands⟩ := abreast
  cases own with
  | done value => exact stands.inStep.elim
  | ask ownCall ownNext => exact stands.inStep.1.within

theorem next {world : World}
    (abreast : Abreast site stake post whole left world.registry (.ask call onward))
    (calm : world.IsCalm) (placed : world.site = site) :
    Abreast site stake post whole (left - 1) (world.serve .unbounded call).2.registry
      (onward (world.serve .unbounded call).1) := by
  obtain ⟨names, alone, own, stands⟩ := abreast
  cases own with
  | done value => exact stands.inStep.elim
  | ask ownCall ownNext =>
    have first : Answered alone.site noRefusal ownCall alone.registry _ _ :=
      World.serve_unbounded stands.calm
    have second : Answered world.site noRefusal call world.registry _ _ :=
      World.serve_unbounded calm
    rw [stands.placed] at first
    rw [placed] at second
    obtain ⟨later, grown, tied, mirrors⟩ := stands.mirrors.own stands.inStep.1 first second
    have short : (Program.moves (World.serve .unbounded) (ownNext (alone.serve .unbounded ownCall).1)
        (alone.serve .unbounded ownCall).2).length + 1 ≤ left := stands.short
    have moved : World.Later alone (alone.serve .unbounded ownCall).2 := World.serve_later
    exact ⟨later, _, _,
      { inStep := stands.inStep.2 later grown _ _ tied
        mirrors := mirrors
        calm := stands.calm.later moved
        placed := moved.site.trans stands.placed
        same := stands.same
        short := by omega }⟩

theorem others (abreast : Abreast site stake post whole left shared rest)
    (within : call.Within site neighbour) (tokens : stake.token ≠ neighbour.token)
    (known : ∀ id ∈ neighbour.baseline, stake.others id) {reply : call.Reply}
    (answered : Answered site noRefusal call shared reply after) :
    Abreast site stake post whole left after rest := by
  obtain ⟨names, alone, own, stands⟩ := abreast
  exact ⟨names, alone, own,
    { stands with mirrors := stands.mirrors.others within tokens known answered }⟩

theorem idle {result : α} (abreast : Abreast site stake post whole left shared (.done result)) :
    Abreast site stake post whole (left - 1) shared (.done result) := by
  obtain ⟨names, alone, own, stands⟩ := abreast
  cases own with
  | ask call onward => exact stands.inStep.elim
  | done value => exact ⟨names, alone, .done value, { stands with short := Nat.zero_le _ }⟩

theorem ended (abreast : Abreast site stake post whole 0 shared rest) :
    ∃ names result, rest = .done result ∧ post names whole.1 result ∧
      Mirrors site stake names whole.2.registry shared := by
  obtain ⟨names, alone, own, stands⟩ := abreast
  cases own with
  | ask call next => exact absurd stands.short (Nat.not_succ_le_zero _)
  | done value =>
    cases rest with
    | ask call next => exact stands.inStep.elim
    | done result =>
      obtain rfl := stands.same
      exact ⟨names, result, rfl, stands.inStep, stands.mirrors⟩

end Program.Abreast

end Abreast

section Ensembles

variable {ι α : Type} [DecidableEq ι] {base : Nat} {site : Site} {stakes : ι → Stake}
  {post : ι → Renaming base → α → α → Prop} {whole : ι → α × World} {left : ι → Nat}
  {ensemble : Ensemble ι α}

structure Ensemble.Abreast (site : Site) (stakes : ι → Stake)
    (post : ι → Renaming base → α → α → Prop) (whole : ι → α × World) (left : ι → Nat)
    (ensemble : Ensemble ι α) : Prop where
  calm : ensemble.world.IsCalm
  placed : ensemble.world.site = site
  each : ∀ who, (ensemble.rest who).Abreast site (stakes who) (post who) (whole who) (left who)
    ensemble.world.registry

/-- Nobody is about what others are about, and all know of one another. -/
def Provider.Stake.Apart (stakes : ι → Stake) : Prop :=
  Pairwise fun who other => (stakes who).token ≠ (stakes other).token ∧
    ∀ id ∈ (stakes other).baseline, (stakes who).others id

namespace Ensemble.Abreast

theorem turn (abreast : ensemble.Abreast site stakes post whole left) (apart : Stake.Apart stakes)
    (who : ι) (time : Nat) :
    (ensemble.turn who time).Abreast site stakes post whole
      (Function.update left who (left who - 1)) := by
  have mine := abreast.each who
  unfold Ensemble.turn
  cases going : ensemble.rest who with
  | done result =>
    refine { abreast with each := fun other => ?_ }
    by_cases same : other = who
    · subst same
      rw [Function.update_self]
      rw [going] at mine ⊢
      exact mine.idle
    · rw [Function.update_of_ne same]
      exact abreast.each other
  | ask call onward =>
    let world : World := { ensemble.world with time }
    have mine : (Program.ask call onward).Abreast site (stakes who) (post who) (whole who)
        (left who) world.registry := going ▸ mine
    have calm : world.IsCalm := abreast.calm
    have moved : World.Later world (world.serve .unbounded call).2 := World.serve_later
    have answered : Answered world.site noRefusal call world.registry _ _ :=
      World.serve_unbounded calm
    rw [show world.site = site from abreast.placed] at answered
    refine ⟨calm.later moved, moved.site.trans abreast.placed, fun other => ?_⟩
    by_cases same : other = who
    · subst same
      simp only [Function.update_self]
      exact mine.next calm abreast.placed
    · simp only [Function.update_of_ne same]
      obtain ⟨tokens, known⟩ := apart same
      exact (abreast.each other).others mine.within tokens known answered

theorem run (abreast : ensemble.Abreast site stakes post whole left) (apart : Stake.Apart stakes)
    (schedule : List (ι × Nat)) :
    (ensemble.run schedule).Abreast site stakes post whole
      (fun who => left who - (schedule.map Prod.fst).count who) := by
  -- The induction is on the schedule.
  induction schedule generalizing ensemble left with
  | nil => exact abreast
  | cons turn rest ih =>
    have later := ih (abreast.turn apart turn.1 turn.2)
    have counted : (fun who => Function.update left turn.1 (left turn.1 - 1) who -
        (rest.map Prod.fst).count who) =
        fun who => left who - ((turn :: rest).map Prod.fst).count who := by
      funext who
      rw [List.map_cons, List.count_cons]
      by_cases same : who = turn.1
      · subst same
        rw [Function.update_self, beq_self_eq_true, if_pos rfl]
        omega
      · rw [Function.update_of_ne same, if_neg (by simpa using Ne.symm same), Nat.add_zero]
    rw [counted] at later
    exact later

end Ensemble.Abreast

end Ensembles

namespace Resolver

structure EndpointPass where
  desired : EndpointSpec
  last : Option Endpoint
  prior : Conditions
  delays : PassDelays

namespace EndpointPass

/-- The token that the pass carries if it begins now. -/
def token (pass : EndpointPass) (world : World) : String :=
  (endpointManager.token pass.desired world.now).text

def baseline (pass : EndpointPass) : Option String := pass.last.bind Endpoint.id?

def program (pass : EndpointPass) (world : World) :
    Program Call Call.Reply (PassResult Endpoint) :=
  endpointManager.pass pass.desired (endpointManager.token pass.desired world.now) pass.last

def conclude (pass : EndpointPass) (now : Timestamp) (result : PassResult Endpoint) :
    Reconciled Endpoint :=
  result.conclude endpointManager.terminalCodes pass.delays now pass.prior

def alone (pass : EndpointPass) (world : World) : Reconciled Endpoint × World :=
  endpointManager.reconcile pass.delays pass.desired .unbounded pass.last pass.prior world

def calls (pass : EndpointPass) (world : World) : Nat :=
  (endpointManager.moves pass.desired .unbounded pass.last world).length

structure Apart (world : World) (pass other : EndpointPass) : Prop where
  tokens : pass.token world ≠ other.token world
  baselines : ∀ id ∈ other.baseline, id ∉ pass.baseline
  /-- What was created under the token is not what the other pass starts from. -/
  free : ∀ entry ∈ world.registry.endpointTokens.get? (pass.token world), entry.id ∉ other.baseline

instance (world : World) (pass other : EndpointPass) : Decidable (pass.Apart world other) :=
  decidable_of_iff (pass.token world ≠ other.token world ∧
      (∀ id ∈ other.baseline, id ∉ pass.baseline) ∧
      ∀ entry ∈ world.registry.endpointTokens.get? (pass.token world), entry.id ∉ other.baseline)
    ⟨fun ⟨tokens, baselines, free⟩ => ⟨tokens, baselines, free⟩,
      fun ⟨tokens, baselines, free⟩ => ⟨tokens, baselines, free⟩⟩

def EndsAlike (pass : EndpointPass) (world : World) (names : Renaming world.registry.serial)
    (result ending : PassResult Endpoint) : Prop :=
  result.Alike pass.last (Endpoint.Alike world.site) names ending

structure LeavesAlike {base : Nat} (pass : EndpointPass) (world : World) (names : Renaming base)
    (alone shared : Registry) : Prop where
  baseline : ∀ id ∈ pass.baseline, Matches world.site names alone shared id id
  token : Option.Rel (TokenEntry.Alike world.site names alone shared)
    (alone.endpointTokens.get? (pass.token world)) (shared.endpointTokens.get? (pass.token world))

variable {ι : Type} {world : World} {passes : ι → EndpointPass}

/-- What a pass is about, and what the others start from. -/
def stake (world : World) (passes : ι → EndpointPass) (who : ι) : Stake where
  baseline := (passes who).baseline
  token := (passes who).token world
  others id := ∃ other, other ≠ who ∧ id ∈ (passes other).baseline

def together (world : World) (passes : ι → EndpointPass) : Ensemble ι (PassResult Endpoint) :=
  ⟨world, fun who => (passes who).program world⟩

theorem abreast_together (reached : world.Reachable) (calm : world.IsCalm)
    (apart : Pairwise fun who other => (passes who).Apart world (passes other))
    (settled : ∀ who, ∀ id ∈ (passes who).baseline, ¬Pending world.registry.serial id) :
    (together world passes).Abreast world.site (stake world passes)
      (fun who => (passes who).EndsAlike world)
      (fun who => ((passes who).program world).run (World.serve .unbounded) world)
      (fun who => (passes who).calls world) where
  calm := calm
  placed := rfl
  each who := by
    have fair : (stake world passes who).Fair world.registry.serial :=
      { baseline := settled who
        settled := fun id ⟨other, _, member⟩ => settled other id member
        apart := fun id ⟨other, different, member⟩ =>
          (apart (Ne.symm different)).baselines id member }
    have clear : ∀ entry ∈ world.registry.endpointTokens.get? (stake world passes who).token,
        ¬(stake world passes who).others entry.id := fun entry known ⟨other, different, member⟩ =>
      (apart (Ne.symm different)).free entry known member
    exact ⟨Renaming.start world.registry.serial, world, (passes who).program world,
      { inStep := (Endpoint.parallel rfl rfl).pass _
        mirrors := Mirrors.self reached.valid.1 fair clear
        calm := calm
        placed := rfl
        same := rfl
        short := Nat.le_refl _ }⟩

/-- After a schedule the pass is over, has found and done what it finds and does on its own, and has
left its endpoint the same, but for times, the ids issued meanwhile and what is made of these. -/
def GoesAsAlone [DecidableEq ι] (world : World) (passes : ι → EndpointPass)
    (schedule : List (ι × Nat)) (who : ι) : Prop :=
  ∃ ending, ((together world passes).run schedule).ending? who = some ending ∧
    ∃ names : Renaming world.registry.serial,
      (∀ now, ((passes who).alone world).1.Alike (passes who).last (Endpoint.Alike world.site)
        names ((passes who).conclude now ending)) ∧
      (passes who).LeavesAlike world names ((passes who).alone world).2.registry
        ((together world passes).run schedule).world.registry

/-- Passes over different endpoints do not notice one another, in whatever order and at whatever
times they make their calls. Each is over after as many calls as it makes on its own. -/
theorem passes_independent [DecidableEq ι] (reached : world.Reachable) (calm : world.IsCalm)
    (apart : Pairwise fun who other => (passes who).Apart world (passes other))
    (settled : ∀ who, ∀ id ∈ (passes who).baseline, ¬Pending world.registry.serial id)
    (schedule : List (ι × Nat)) (who : ι)
    (enough : (passes who).calls world ≤ (schedule.map Prod.fst).count who) :
    GoesAsAlone world passes schedule who := by
  have stakes : Stake.Apart (stake world passes) := fun who other different =>
    ⟨(apart different).tokens, fun id member => ⟨other, Ne.symm different, member⟩⟩
  have mine := ((abreast_together reached calm apart settled).run stakes schedule).each who
  rw [Nat.sub_eq_zero_of_le enough] at mine
  obtain ⟨names, ending, ended, alike, mirrors⟩ := mine.ended
  refine ⟨ending, ?_, names, fun now => alike.conclude _ _ _ now _, mirrors.baseline,
    mirrors.token⟩
  rw [Ensemble.ending?, ended]

def westRequest : EndpointRequest where
  creatorRequestId := "west-0"
  name := "west"
  direction := .inbound
  endpointType := none
  securityGroupIds := ["sg-1"]
  ipAddresses := [⟨"subnet-a", none, none⟩, ⟨"subnet-b", none, none⟩]
  tags := [⟨"team", "net"⟩]

/-- The id of the first endpoint of a provider, if it is an inbound one. -/
def firstId : String := "rslvr-in-00000000000000001"

def knownAs (id : String) : Endpoint :=
  { (default : Endpoint) with status := { (default : EndpointStatus) with id := some id } }

def wish (name : String) (subnets : List String) (tags : List Tag) : EndpointSpec where
  name := name
  createdAt := some .epoch
  direction := .inbound
  endpointType := none
  securityGroupIds := ["sg-1"]
  ipAddresses := subnets.map fun subnet => ⟨subnet, none, none⟩
  tags := Tags.ofTags tags

/-- One pass is over the first endpoint, which gets another name, other tags and another subnet, and
the other one makes a new endpoint. -/
def westAndEast (who : Bool) : EndpointPass where
  desired := if who then wish "gate" ["subnet-a", "subnet-c"] [⟨"team", "web"⟩]
    else wish "east" ["subnet-a", "subnet-b"] []
  last := if who then some (knownAs firstId) else none
  prior := ∅
  delays := {}

theorem interleaved_creation_unnoticed :
    let world := (World.still.complete (.createEndpoint westRequest)).2
    let schedule := [(true, 7), (false, 9)] ++ List.replicate 7 (true, 3)
    let ipIds (registry : Registry) := (registry.endpoints.get? firstId).map fun stored =>
      stored.addresses.map Address.ipId
    ipIds ((westAndEast true).alone world).2.registry =
        some ["rni-00000000000000002", "rni-00000000000000004"] ∧
      ipIds ((together world westAndEast).run schedule).world.registry =
        some ["rni-00000000000000002", "rni-00000000000000007"] ∧
      GoesAsAlone world westAndEast schedule true := by
  intro world schedule ipIds
  have reached : world.Reachable := World.Reachable.still.completed _
  have calm : world.IsCalm := World.still_isCalm.later World.complete_later
  have apart : ∀ who other : Bool, who ≠ other →
      (westAndEast who).Apart world (westAndEast other) := by decide +kernel
  have settled : ∀ who, ∀ id ∈ (westAndEast who).baseline, ¬Pending world.registry.serial id := by
    intro who id member
    cases who with
    | false => cases member
    | true =>
      obtain rfl : firstId = id := Option.some.inj member
      have numbered : firstId = idText "rslvr-in" 1 := by decide +kernel
      have issued : 1 ≤ world.registry.serial := by decide +kernel
      exact numbered ▸ (issued_idText "rslvr-in" issued).not_pending
  refine ⟨by decide +kernel, by decide +kernel, ?_⟩
  exact passes_independent reached calm (fun who other => apart who other) settled schedule true
    (by decide +kernel)

/-- One pass makes an endpoint, and the other one claims to know it before it is there. -/
def eastAndForger (who : Bool) : EndpointPass where
  desired := if who then wish "west" ["subnet-a", "subnet-b"] []
    else wish "east" ["subnet-a", "subnet-b"] []
  last := if who then some (knownAs firstId) else none
  prior := ∅
  delays := {}

/-- A pass that starts from an id that is still to come may find another's endpoint under it, and
then it makes none of its own. -/
theorem forged_baseline_noticed :
    let schedule := (false, 0) :: List.replicate 8 (true, 0)
    World.still.Reachable ∧ World.still.IsCalm ∧
      (Pairwise fun who other => (eastAndForger who).Apart .still (eastAndForger other)) ∧
      (∀ who, (eastAndForger who).calls .still ≤ (schedule.map Prod.fst).count who) ∧
      ¬GoesAsAlone .still eastAndForger schedule true := by
  intro schedule
  have apart : ∀ who other : Bool, who ≠ other →
      (eastAndForger who).Apart .still (eastAndForger other) := by decide +kernel
  have found : (((together .still eastAndForger).run schedule).ending? true).map
      PassResult.changes = some ⟨false, false, false, true⟩ := by decide +kernel
  have made : ((eastAndForger true).alone .still).1.changes.created = true := by decide +kernel
  refine ⟨.still, rfl, fun who other => apart who other, by decide +kernel, ?_⟩
  rintro ⟨ending, ended, names, alike, -⟩
  have same := (alike .epoch).changes
  rw [ended] at found
  rw [same, EndpointPass.conclude, PassResult.changes_conclude, Option.some.inj found] at made
  cases made

end EndpointPass

end Resolver

end Converge
