import Converge.Proofs.Provider.Answered
import Converge.Token

/-! A provider that a program shares with others who delete nothing. Before each of its calls, and
while one is under way, anything may be added or changed, but what is live stays live under its
token. What a program is sure of then does not depend on when it goes on. -/
namespace Converge.Provider

open Converge.Resolver

namespace Call

def creationToken? : Call → Option String
  | createEndpoint request => some request.creatorRequestId
  | createRule request => some request.creatorRequestId
  | _ => none

def IsKeeping (call : Call) : Prop :=
  call.operation ≠ .deleteEndpoint ∧ call.operation ≠ .deleteRule

structure IsProper (token : Token) (call : Call) : Prop where
  keeping : call.IsKeeping
  creates : ∀ text ∈ call.creationToken?, text = token.text

def isPlain : Call → Bool
  | createEndpoint _ | createRule _ | deleteEndpoint _ | deleteRule _ => false
  | _ => true

/-- The call leaves the associations of rules alone as well. -/
def isQuiet : Call → Bool
  | createEndpoint _ | createRule _ | deleteEndpoint _ | deleteRule _ | associateRule _ _
  | disassociateRule _ _ => false
  | _ => true

theorem IsProper.of_plain {token : Token} {call : Call} (plain : call.isPlain = true) :
    call.IsProper token := by
  cases call with
  | createEndpoint | createRule | deleteEndpoint | deleteRule => cases plain
  | _ => exact ⟨⟨nofun, nofun⟩, nofun⟩

end Call

namespace Registry

/-- The token under which a live resource of the kind was created. -/
def tokenOf (registry : Registry) : ArnKind → String → Option String
  | .endpoint, id => registry.endpointToken id
  | .rule, id => registry.ruleToken id

theorem Valid.tokenOf_inj {site : Site} {registry : Registry} (valid : registry.Valid site)
    {kind : ArnKind} {id other token : String} (first : registry.tokenOf kind id = some token)
    (second : registry.tokenOf kind other = some token) : id = other := by
  cases kind with
  | endpoint => exact valid.endpointTokens.owner_inj first second
  | rule => exact valid.ruleTokens.owner_inj first second

theorem live_iff_tokenOf {registry : Registry} {kind : ArnKind} {id : String} :
    registry.Live id kind ↔ ∃ token, registry.tokenOf kind id = some token := by
  rw [← Option.ne_none_iff_exists']
  cases kind <;> simp [Live, tokenOf, endpointToken, ruleToken]

/-- What is live stays live, under the same token. -/
def Keeps (before after : Registry) : Prop :=
  ∀ kind id token, before.tokenOf kind id = some token → after.tokenOf kind id = some token

namespace Keeps

theorem refl (registry : Registry) : registry.Keeps registry := fun _ _ _ owned => owned

theorem trans {first second third : Registry} (before : first.Keeps second)
    (after : second.Keeps third) : first.Keeps third :=
  fun kind id token owned => after kind id token (before kind id token owned)

theorem live {before after : Registry} (keeps : before.Keeps after) {kind : ArnKind} {id : String}
    (live : before.Live id kind) : after.Live id kind := by
  obtain ⟨token, owned⟩ := live_iff_tokenOf.1 live
  exact live_iff_tokenOf.2 ⟨token, keeps kind id token owned⟩

end Keeps

theorem Growth.keeps {site : Site} {registry after : Registry} (valid : registry.Valid site)
    (growth : Growth site registry after) : registry.Keeps after := by
  intro kind id token owned
  cases kind with
  | endpoint => exact growth.endpointToken valid owned
  | rule => exact growth.ruleToken valid owned

section Creation

variable {site : Site} {now : Timestamp} {registry after : Registry}

theorem tokenOf_createEndpoint (valid : registry.Valid site) {request : EndpointRequest}
    {record : EndpointRecord}
    (done : registry.createEndpoint site now request = .ok (record, after)) :
    after.tokenOf .endpoint record.id = some request.creatorRequestId := by
  cases known : registry.endpointTokens.get? request.creatorRequestId with
  | none =>
    obtain ⟨-, -, rfl, rfl⟩ := (createEndpoint_of_unknown known).1 done
    exact congrArg (Option.map _) ((NameMap.get?_insert _ _ _ _).trans (if_pos rfl))
  | some entry =>
    obtain ⟨-, rfl, stored, held, rfl⟩ := (createEndpoint_of_known known).1 done
    rw [(valid.endpoint entry.id stored held).keyed]
    exact (valid.endpointTokens _ entry.id).1 ⟨entry.name, known⟩

theorem tokenOf_createRule (valid : registry.Valid site) {request : RuleRequest}
    {record : RuleRecord} (done : registry.createRule site now request = .ok (record, after)) :
    after.tokenOf .rule record.id = some request.creatorRequestId := by
  cases known : registry.ruleTokens.get? request.creatorRequestId with
  | none =>
    obtain ⟨-, rfl, rfl⟩ := (createRule_of_unknown known).1 done
    exact congrArg (Option.map _) ((NameMap.get?_insert _ _ _ _).trans (if_pos rfl))
  | some entry =>
    obtain ⟨-, rfl, held⟩ := (createRule_of_known known).1 done
    rw [(valid.rule entry.id record held).keyed]
    exact (valid.ruleTokens _ entry.id).1 ⟨entry.name, known⟩

end Creation

end Registry

/-- How a call may be answered at a provider that others use too. A success is the registry's own,
from some registry on the way; a failure may hide that the call was carried out. -/
structure Shared (site : Site) (call : Call) (before : Registry) (reply : call.Reply)
    (after : Registry) : Prop where
  valid : after.Valid site
  kept : before.Keeps after
  done : ∀ value, reply = .ok value → ∃ now middle, middle.Valid site ∧ before.Keeps middle ∧
    middle.perform site now call = .ok (value, after)

namespace Shared

variable {site : Site} {call : Call} {registry after : Registry}

theorem of_answered {refusal : Call → Failure → Prop} {reply : call.Reply}
    (valid : registry.Valid site) (keeping : call.IsKeeping)
    (answered : Answered site refusal call registry reply after) :
    Shared site call registry reply after := by
  have kept := (answered.growth valid keeping).keeps valid
  refine ⟨(answered.valid valid).1, kept, fun value success => ?_⟩
  subst success
  cases answered with
  | done now done => exact ⟨now, registry, valid, .refl registry, done⟩

theorem failed (valid : after.Valid site) (kept : registry.Keeps after) (failure : Failure) :
    Shared site call registry (.error failure) after :=
  ⟨valid, kept, fun _ => nofun⟩

end Shared

section Programs

variable {site : Site} {α : Type} {program : Program Call Call.Reply α}
  {post : α → Registry → Prop} {registry : Registry}

theorem always_kept (valid : registry.Valid site) :
    program.Always (Shared site) (fun _ after => registry.Keeps after ∧ after.Valid site)
      registry := by
  induction program generalizing registry with
  | done value => exact ⟨.refl registry, valid⟩
  | ask call next ih =>
    intro reply middle shared
    exact (ih reply shared.valid).imp fun _ after kept => kept.imp_left shared.kept.trans

theorem always_of_keeps {after : Registry} (keeps : registry.Keeps after)
    (lasting : ∀ value first second, first.Keeps second → post value first → post value second)
    (always : program.Always (Shared site) post registry) :
    program.Always (Shared site) post after := by
  cases program with
  | done value => exact lasting value registry after keeps always
  | ask call next =>
    intro reply last shared
    refine always reply last ⟨shared.valid, keeps.trans shared.kept, fun value success => ?_⟩
    obtain ⟨now, middle, valid, kept, done⟩ := shared.done value success
    exact ⟨now, middle, valid, keeps.trans kept, done⟩

theorem always_ask_shared (call : Call) {post : call.Reply → Registry → Prop}
    (done : ∀ now middle value after, middle.Valid site → registry.Keeps middle →
      middle.perform site now call = .ok (value, after) → post (.ok value) after)
    (failed : ∀ failure after, post (.error failure) after) :
    (ask call).outcome.Always (Shared site) post registry := by
  refine (Program.always_request call post registry).2 fun reply after shared => ?_
  cases reply with
  | error failure => exact failed failure after
  | ok value =>
    obtain ⟨now, middle, valid, kept, performed⟩ := shared.done value rfl
    exact done now middle value after valid kept performed

end Programs

end Converge.Provider
