import Converge.Proofs.Provider.Holdings
import Converge.Proofs.Provider.Reachable

/-! Creations that are asked for again. A token is remembered with the name in the request that made
it known, and requests that come with that token later are told apart by the name alone: one with
the same name is answered with what there is now under the token, one with another name is turned
away. -/
namespace Converge.Provider

open Converge.Resolver

namespace Registry

variable {site : Site} {now : Timestamp} {registry after : Registry}

theorem Created.known_before {identity : Identity} {token id : String}
    (created : Created registry identity token id after) {kind : ArnKind} {other : String}
    {entry : TokenEntry} (known : (after.tokens kind).get? other = some entry) :
    (registry.tokens kind).get? other = some entry ∨
      (registry.tokens kind).get? other = none ∧
        some (identity, token) = some ((kind, entry.name), other) := by
  rcases created.tokens known with before | ⟨rfl, rfl⟩
  · exact .inl before
  · cases created with
    | known => exact .inl known
    | new unknown => exact .inr ⟨unknown, rfl⟩

theorem tokens_perform (valid : registry.Valid site) {call : Call} {value : call.Value}
    (done : registry.perform site now call = .ok (value, after)) {kind : ArnKind} {token : String}
    {entry : TokenEntry} (known : (after.tokens kind).get? token = some entry) :
    (registry.tokens kind).get? token = some entry ∨
      (registry.tokens kind).get? token = none ∧
        call.creation? = some ((kind, entry.name), token) := by
  by_cases quiet : call.isQuiet = true
  · rw [(perform_quiet quiet done).1] at known
    exact .inl known
  cases call with
  | createEndpoint request => exact (created_createEndpoint valid done).known_before known
  | createRule request => exact (created_createRule valid done).known_before known
  | deleteEndpoint id =>
    obtain ⟨stored, -, rfl⟩ := deleteEndpoint_eq_ok_iff.1 done
    cases kind with
    | rule => exact .inl known
    | endpoint =>
      rw [tokens, NameMap.get?_filter, Option.filter_eq_some_iff] at known
      exact .inl known.1
  | deleteRule id =>
    obtain ⟨record, -, rfl⟩ := deleteRule_eq_ok done
    cases kind with
    | endpoint => exact .inl known
    | rule =>
      rw [tokens, NameMap.get?_filter, Option.filter_eq_some_iff] at known
      exact .inl known.1
  | associateRule id vpcId =>
    rw [tokens_associateRule done] at known
    exact .inl known
  | disassociateRule id vpcId =>
    obtain ⟨associations, -, rfl⟩ := disassociateRule_eq_ok_iff.1 done
    cases kind <;> exact .inl known
  | _ => exact absurd rfl quiet

end Registry

theorem Answered.tokens {site : Site} {refusal : Call → Failure → Prop} {call : Call}
    {registry after : Registry} {reply : call.Reply}
    (answered : Answered site refusal call registry reply after) (valid : registry.Valid site)
    {kind : ArnKind} {token : String} {entry : TokenEntry}
    (known : (after.tokens kind).get? token = some entry) :
    (registry.tokens kind).get? token = some entry ∨
      (registry.tokens kind).get? token = none ∧
        call.creation? = some ((kind, entry.name), token) := by
  cases answered with
  | done now done => exact Registry.tokens_perform valid done known
  | rejected | refused => exact .inl known

namespace World

abbrev Origins : Type := ArnKind → String → Option Call

/-- A call is noted for the tokens that it has made known. -/
def Origins.note (origins : Origins) (before after : Registry) (call : Call) : Origins :=
  fun kind token =>
    if (before.tokens kind).get? token = none ∧ (after.tokens kind).get? token ≠ none then some call
    else origins kind token

/-- What comes of a new provider, and which calls made its tokens known on the way. -/
inductive Chronicle : Origins → World → Prop where
  | new {world : World} (sized : 0 < world.site.pageSize) (bare : world.registry = ∅) :
      Chronicle (fun _ _ => none) world
  | begun {origins : Origins} {world : World} (bounds : Bounds) (call : Call)
      (chronicle : Chronicle origins world) : Chronicle origins (world.begin bounds call).2
  | completed {origins : Origins} {world : World} (call : Call)
      (chronicle : Chronicle origins world) :
      Chronicle (origins.note world.registry (world.complete call).2.registry call)
        (world.complete call).2
  | elapsed {origins : Origins} {world : World} (time : Nat)
      (chronicle : Chronicle origins world) : Chronicle origins { world with time }
  | arranged {origins : Origins} {world : World} (fault : Fault)
      (chronicle : Chronicle origins world) :
      Chronicle origins { world with journal := world.journal.failNth fault }
  | cleared {origins : Origins} {world : World} (chronicle : Chronicle origins world) :
      Chronicle origins { world with journal := world.journal.clear }
  | forced {origins : Origins} {world : World} {id : String} {status : EndpointState}
      {registry : Registry} (forced : world.registry.setStatus id status = .ok registry)
      (chronicle : Chronicle origins world) : Chronicle origins { world with registry }

namespace Chronicle

variable {origins : Origins} {world : World}

theorem exists_of_reachable (reached : world.Reachable) : ∃ origins, Chronicle origins world := by
  induction reached with
  | new sized bare => exact ⟨_, .new sized bare⟩
  | begun bounds call _ ih => exact ih.imp fun _ => .begun bounds call
  | completed call _ ih => exact ih.elim fun _ chronicle => ⟨_, chronicle.completed call⟩
  | elapsed time _ ih => exact ih.imp fun _ => .elapsed time
  | arranged fault _ ih => exact ih.imp fun _ => .arranged fault
  | cleared _ ih => exact ih.imp fun _ => .cleared
  | forced forced _ ih => exact ih.imp fun _ => .forced forced

theorem reachable (chronicle : Chronicle origins world) : world.Reachable := by
  induction chronicle with
  | new sized bare => exact .new sized bare
  | begun bounds call _ ih => exact ih.begun bounds call
  | completed call _ ih => exact ih.completed call
  | elapsed time _ ih => exact ih.elapsed time
  | arranged fault _ ih => exact ih.arranged fault
  | cleared _ ih => exact ih.cleared
  | forced forced _ ih => exact ih.forced forced

/-- Every known token has the name that was asked for when it became known, whatever its resource
is called by now. -/
theorem origin_of_known (chronicle : Chronicle origins world) {kind : ArnKind} {token : String}
    {entry : TokenEntry} (known : (world.registry.tokens kind).get? token = some entry) :
    ∃ first, origins kind token = some first ∧
      first.creation? = some ((kind, entry.name), token) := by
  induction chronicle with
  | new sized bare =>
    rw [bare, Registry.tokens_empty] at known
    cases known
  | begun bounds call chronicle ih =>
    rw [begin_registry] at known
    exact ih known
  | elapsed _ _ ih => exact ih known
  | arranged _ _ ih => exact ih known
  | cleared _ ih => exact ih known
  | forced forced chronicle ih =>
    obtain ⟨stored, -, rfl⟩ := Registry.setStatus_eq_ok_iff.1 forced
    exact ih (by cases kind <;> exact known)
  | @completed origins world call chronicle ih =>
    have answered := complete_answered noRefusal world call
    rcases answered.tokens chronicle.reachable.valid.1 known with before | ⟨unknown, creation⟩
    · obtain ⟨first, noted, asked⟩ := ih before
      refine ⟨first, ?_, asked⟩
      rw [Origins.note, if_neg (by simp [before])]
      exact noted
    · refine ⟨call, ?_, creation⟩
      rw [Origins.note, if_pos ⟨unknown, by simp [known]⟩]

end Chronicle

structure Settles (world : World) (call : Call) (reply : call.Reply) : Prop where
  completed : world.complete call = (reply, world)
  served : ∀ bounds, world.serves bounds call = true →
    (world.serve bounds call).1 = reply ∧ (world.serve bounds call).2.registry = world.registry

theorem Settles.of_complete {world : World} {call : Call} {reply : call.Reply}
    (always : ∀ rest : World, rest.registry = world.registry → rest.complete call = (reply, rest)) :
    world.Settles call reply where
  completed := always world rfl
  served bounds served := by
    obtain ⟨rest, registry, -, same⟩ := serve_of_serves served
    rw [same, always rest registry]
    exact ⟨rfl, registry⟩

section Creations

variable {world : World}

theorem settles_createEndpoint {request : EndpointRequest} {entry : TokenEntry}
    {stored : StoredEndpoint}
    (known : world.registry.endpointTokens.get? request.creatorRequestId = some entry)
    (held : world.registry.endpoints.get? entry.id = some stored) :
    world.Settles (.createEndpoint request)
      (if request.name = entry.name then .ok stored.record
      else .error (reusedToken request.creatorRequestId)) := by
  refine .of_complete fun rest same => ?_
  rw [← same] at known held
  unfold complete
  by_cases name : entry.name = request.name
  · have done : rest.registry.perform rest.site rest.now (.createEndpoint request) =
        .ok (stored.record, rest.registry) :=
      (Registry.createEndpoint_of_known known).2 ⟨name, rfl, stored, held, rfl⟩
    rw [done, if_pos name.symm]
  · have done : rest.registry.perform rest.site rest.now (.createEndpoint request) =
        .error (reusedToken request.creatorRequestId) := by
      simp [Registry.perform, Registry.createEndpoint, known, name]
    rw [done, if_neg (Ne.symm name)]

theorem settles_createRule {request : RuleRequest} {entry : TokenEntry} {record : RuleRecord}
    (known : world.registry.ruleTokens.get? request.creatorRequestId = some entry)
    (held : world.registry.rules.get? entry.id = some record) :
    world.Settles (.createRule request)
      (if request.name = entry.name then .ok record
      else .error (reusedToken request.creatorRequestId)) := by
  refine .of_complete fun rest same => ?_
  rw [← same] at known held
  unfold complete
  by_cases name : entry.name = request.name
  · have done : rest.registry.perform rest.site rest.now (.createRule request) =
        .ok (record, rest.registry) :=
      (Registry.createRule_of_known known).2 ⟨name, rfl, held⟩
    rw [done, if_pos name.symm]
  · have done : rest.registry.perform rest.site rest.now (.createRule request) =
        .error (reusedToken request.creatorRequestId) := by
      simp [Registry.perform, Registry.createRule, known, name]
    rw [done, if_neg (Ne.symm name)]

theorem endpoint_of_creation {call : Call} {name token : String}
    (asked : call.creation? = some ((.endpoint, name), token)) :
    ∃ request, call = .createEndpoint request ∧ request.name = name ∧
      request.creatorRequestId = token := by
  cases call with
  | createEndpoint request =>
    cases asked
    exact ⟨request, rfl, rfl, rfl⟩
  | _ => cases asked

theorem rule_of_creation {call : Call} {name token : String}
    (asked : call.creation? = some ((.rule, name), token)) :
    ∃ request, call = .createRule request ∧ request.name = name ∧
      request.creatorRequestId = token := by
  cases call with
  | createRule request =>
    cases asked
    exact ⟨request, rfl, rfl, rfl⟩
  | _ => cases asked

/-- A creation whose token is known is answered with what there is under the token, as it is now, if
it asks for the name that the request asked for that made the token known; with another name it is
turned away. What else it asks for makes no difference, and nothing changes. -/
theorem creation_deduplicated {origins : Origins} (chronicle : Chronicle origins world) :
    (∀ request entry,
      world.registry.endpointTokens.get? request.creatorRequestId = some entry →
      ∃ first stored, origins .endpoint request.creatorRequestId = some (.createEndpoint first) ∧
        first.creatorRequestId = request.creatorRequestId ∧
        world.registry.endpoints.get? entry.id = some stored ∧
        stored.record.creatorRequestId = request.creatorRequestId ∧
        world.Settles (.createEndpoint request)
          (if request.name = first.name then .ok stored.record
          else .error (reusedToken request.creatorRequestId))) ∧
    ∀ request entry,
      world.registry.ruleTokens.get? request.creatorRequestId = some entry →
      ∃ first record, origins .rule request.creatorRequestId = some (.createRule first) ∧
        first.creatorRequestId = request.creatorRequestId ∧
        world.registry.rules.get? entry.id = some record ∧
        record.creatorRequestId = request.creatorRequestId ∧
        world.Settles (.createRule request)
          (if request.name = first.name then .ok record
          else .error (reusedToken request.creatorRequestId)) := by
  have valid := chronicle.reachable.valid.1
  constructor
  · intro request entry known
    obtain ⟨origin, noted, asked⟩ := chronicle.origin_of_known (show
      (world.registry.tokens .endpoint).get? request.creatorRequestId = some entry from known)
    obtain ⟨first, rfl, name, token⟩ := endpoint_of_creation asked
    have owned := (valid.endpointTokens _ entry.id).1 ⟨entry.name, known⟩
    obtain ⟨stored, held, owner⟩ := Option.map_eq_some_iff.1 owned
    exact ⟨first, stored, noted, token, held, owner, name ▸ settles_createEndpoint known held⟩
  · intro request entry known
    obtain ⟨origin, noted, asked⟩ := chronicle.origin_of_known (show
      (world.registry.tokens .rule).get? request.creatorRequestId = some entry from known)
    obtain ⟨first, rfl, name, token⟩ := rule_of_creation asked
    have owned := (valid.ruleTokens _ entry.id).1 ⟨entry.name, known⟩
    obtain ⟨record, held, owner⟩ := Option.map_eq_some_iff.1 owned
    exact ⟨first, record, noted, token, held, owner, name ▸ settles_createRule known held⟩

/-- Two addresses for an endpoint that sends outwards. -/
def firstRequest : EndpointRequest where
  creatorRequestId := "gate-0"
  name := "gate"
  direction := .outbound
  endpointType := none
  securityGroupIds := ["sg-1"]
  ipAddresses := [⟨"subnet-a", none, none⟩, ⟨"subnet-b", none, none⟩]
  tags := []

/-- The same token and name, but nothing else is the same. -/
def alteredRequest : EndpointRequest where
  creatorRequestId := "gate-0"
  name := "gate"
  direction := .inbound
  endpointType := some .dualstack
  securityGroupIds := []
  ipAddresses := []
  tags := [⟨"team", "net"⟩]

theorem renamed_endpoint_deduplicated :
    let id := "rslvr-out-00000000000000001"
    let rename := Call.updateEndpoint id ⟨some "door", none⟩
    let world := ((still.complete (.createEndpoint firstRequest)).2.complete rename).2
    ∃ stored, world.registry.endpoints.get? id = some stored ∧ stored.record.name = "door" ∧
      world.Settles (.createEndpoint firstRequest) (.ok stored.record) := by
  intro id rename world
  have new : Chronicle (fun _ _ => none) still := .new Nat.one_pos rfl
  have chronicle := (new.completed (.createEndpoint firstRequest)).completed rename
  have known : world.registry.endpointTokens.get? firstRequest.creatorRequestId =
      some ⟨id, "gate"⟩ := by decide +kernel
  obtain ⟨first, stored, noted, -, held, -, settles⟩ :=
    (creation_deduplicated chronicle).1 firstRequest _ known
  have same : first = firstRequest := by
    have origin : some (Call.createEndpoint first) = some (.createEndpoint firstRequest) :=
      noted.symm.trans (by decide +kernel)
    exact Call.createEndpoint.inj (Option.some.inj origin)
  rw [same, if_pos rfl] at settles
  have renamed : (world.registry.endpoints.get? id).map (fun stored => stored.record.name) =
      some "door" := by decide +kernel
  refine ⟨stored, held, ?_, settles⟩
  rw [show world.registry.endpoints.get? id = some stored from held] at renamed
  exact Option.some.inj renamed

/-- A request that differs in all but the name is not turned away. -/
theorem altered_request_accepted :
    let world := (still.complete (.createEndpoint firstRequest)).2
    Chronicle (Origins.note (fun _ _ => none) still.registry world.registry
        (.createEndpoint firstRequest)) world ∧
      Origins.note (fun _ _ => none) still.registry world.registry (.createEndpoint firstRequest)
        .endpoint alteredRequest.creatorRequestId = some (.createEndpoint firstRequest) ∧
      alteredRequest ≠ firstRequest ∧
      world.serves .unbounded (.createEndpoint alteredRequest) = true ∧
      ∃ record, (world.serve .unbounded (.createEndpoint alteredRequest)).1 = .ok record := by
  intro world
  have accepted : (world.serve .unbounded (.createEndpoint alteredRequest)).1.toBool = true := by
    decide +kernel
  refine ⟨.completed _ (.new Nat.one_pos rfl), by decide +kernel, by decide, by decide +kernel, ?_⟩
  cases answer : (world.serve .unbounded (.createEndpoint alteredRequest)).1 with
  | ok record => exact ⟨record, rfl⟩
  | error failure =>
    rw [answer] at accepted
    cases accepted

end Creations

end World

end Converge.Provider
