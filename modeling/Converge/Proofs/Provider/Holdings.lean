import Converge.Pages
import Converge.Proofs.Guarded
import Converge.Proofs.Rule.Associations
import Converge.Proofs.Traffic.Steps

/-! What a provider holds for a resource of a manifest, and what its worker gets to know of that.
Nobody else touches it: the calls that a worker is allowed change what is held for its own resource
only, and every answer to them says how. -/
namespace Converge

open Provider Resolver

namespace Provider

structure Held where
  id : String
  associations : List AssociationRecord

namespace Held

/-- The networks for which the rule holds. -/
def vpcs (held : Held) : List String :=
  (held.associations.filter Registry.isActive).map AssociationRecord.vpcId

structure Fits (wanted : List String) (held : Held) : Prop where
  wanted : ∀ vpc ∈ held.vpcs, vpc ∈ wanted
  listed : held.associations.length ≤ Walk.pageLimit

end Held

/-- What a worker is in charge of: one resource with its token, and the networks that it may be
associated with. -/
structure Charge where
  identity : Identity
  token : String
  vpcs : List String

namespace Registry

/-- The tokens under which resources of a kind were created. -/
def tokens (registry : Registry) : ArnKind → NameMap TokenEntry
  | .endpoint => registry.endpointTokens
  | .rule => registry.ruleTokens

def attached (registry : Registry) : ArnKind → String → List AssociationRecord
  | .endpoint, _ => []
  | .rule, id => registry.associationsOf id

/-- What is there under the token of the resource, unless it is another one's. -/
def held (registry : Registry) (charge : Charge) : Option Held :=
  (((registry.tokens charge.identity.1).get? charge.token).filter fun entry =>
    entry.name = charge.identity.2).map fun entry =>
      ⟨entry.id, registry.attached charge.identity.1 entry.id⟩

@[simp]
theorem tokens_empty (kind : ArnKind) : (∅ : Registry).tokens kind = ∅ := by
  cases kind <;> rfl

@[simp]
theorem held_empty (charge : Charge) : (∅ : Registry).held charge = none := by
  simp [held]

end Registry

namespace Call

def creation? : Call → Option (Identity × String)
  | createEndpoint request => some ((.endpoint, request.name), request.creatorRequestId)
  | createRule request => some ((.rule, request.name), request.creatorRequestId)
  | _ => none

end Call

namespace Charge

variable {charge : Charge} {held after : Option Held} {call : Call}

/-- The calls by which a worker takes nothing away and touches no rule but its own. -/
inductive Allows (charge : Charge) (held : Option Held) : Call → Prop where
  | quiet {call : Call} (quiet : call.isQuiet = true) : Allows charge held call
  | creates {call : Call} (own : call.creation? = some (charge.identity, charge.token)) :
      Allows charge held call
  | associates {id vpcId : String} (rule : charge.identity.1 = .rule)
      (own : held.map Held.id = some id) (wanted : vpcId ∈ charge.vpcs) :
      Allows charge held (.associateRule id vpcId)

def Told (kind : ArnKind) (pageSize : Nat) (call : Call) (held : Option Held) (reply : call.Reply)
    (after : Option Held) : Prop :=
  match call, reply with
  | .createEndpoint _, .ok record | .createRule _, .ok record =>
    after = some (held.getD ⟨record.id, []⟩) ∧ after.map Held.id = some record.id
  | .getEndpoint id, .ok record | .updateEndpoint id _, .ok record
  | .getRule id, .ok record | .updateRule id _, .ok record => after = held ∧ record.id = id
  | .getRule id, .error failure =>
    after = held ∧ (kind = .rule → held.map Held.id = some id → failure.isNotFound = false)
  | .listAssociations id token, reply =>
    after = held ∧ ∀ mine ∈ held, kind = .rule → mine.id = id →
      reply = paginate pageSize mine.associations token ∨ ∃ failure, reply = .error failure
  | .associateRule _ vpcId, .ok _ =>
    ∃ mine later, held = some mine ∧ after = some later ∧ later.id = mine.id ∧
      later.associations.length ≤ Walk.pageLimit ∧
      ∀ vpc, vpc ∈ later.vpcs ↔ vpc ∈ mine.vpcs ∨ vpc = vpcId
  | _, _ => after = held

/-- How a worker is answered that makes none but the calls it is allowed. -/
def answers (charge : Charge) (pageSize : Nat) : Answers Call Call.Reply (Option (Option Held)) :=
  Program.guarded (fun call held => charge.Allows held call) (Told charge.identity.1 pageSize)

namespace Told

variable {kind : ArnKind} {pageSize : Nat} {reply : call.Reply}

theorem same_of_quiet (quiet : call.isQuiet = true)
    (told : Told kind pageSize call held reply after) : after = held := by
  cases call <;> cases reply <;> simp_all [Told, Call.isQuiet]

theorem kept (told : Told kind pageSize call held reply after) {id : String}
    (there : held.map Held.id = some id) : after.map Held.id = some id := by
  cases held with
  | none => cases there
  | some mine =>
    cases call with
    | createEndpoint | createRule => cases reply <;> simp_all [Told]
    | associateRule =>
      cases reply with
      | error => simp_all [Told]
      | ok =>
        obtain ⟨own, later, shown, rfl, same, -⟩ := told
        cases shown
        simpa [same] using there
    | _ => cases reply <;> simp_all [Told]

theorem of_error {failure : Failure} (honest : ∀ id, call = .getRule id → kind = .rule →
    held.map Held.id = some id → failure.isNotFound = false) :
    Told kind pageSize call held (.error failure) held := by
  cases call with
  | getRule id => exact ⟨rfl, honest id rfl⟩
  | listAssociations => exact ⟨rfl, fun _ _ _ _ => .inr ⟨failure, rfl⟩⟩
  | _ => exact rfl

end Told

section Programs

open Program

variable {pageSize : Nat} {α : Type}

theorem always_quiet {program : Program Call Call.Reply α}
    (asks : program.Asks (Call.isQuiet · = true)) :
    program.Always (charge.answers pageSize) (fun _ after => after = some held) (some held) :=
  asks.always_same (fun _ quiet => .quiet quiet) fun _ _ _ quiet told => told.same_of_quiet quiet

theorem always_ask_told {post : call.Reply → Option (Option Held) → Prop}
    (allows : charge.Allows held call)
    (given : ∀ reply after, Told charge.identity.1 pageSize call held reply after →
      post reply (some after)) :
    (ask call).outcome.Always (charge.answers pageSize) post (some held) :=
  always_request_guarded allows given

end Programs

end Charge

namespace Registry

variable {site : Site} {now : Timestamp} {registry after : Registry} {charge : Charge}

theorem perform_quiet {call : Call} {value : call.Value} (quiet : call.isQuiet = true)
    (done : registry.perform site now call = .ok (value, after)) :
    after.tokens = registry.tokens ∧ after.associations = registry.associations := by
  have same : after.endpointTokens = registry.endpointTokens ∧
      after.ruleTokens = registry.ruleTokens ∧ after.associations = registry.associations := by
    cases call with
    | createEndpoint | createRule | deleteEndpoint | deleteRule | associateRule
    | disassociateRule => cases quiet
    | getEndpoint | getRule | listAddresses | listAssociations | listTags =>
      obtain ⟨-, rfl⟩ := look_eq_ok_iff.1 done
      simp
    | updateEndpoint =>
      obtain ⟨stored, -, rfl, rfl⟩ := updateEndpoint_eq_ok_iff.1 done
      simp
    | associateAddress =>
      obtain ⟨stored, -, effect⟩ := associateAddress_eq_ok_iff.1 done
      split at effect <;> simp [effect.2]
    | disassociateAddress =>
      obtain ⟨stored, -, effect⟩ := disassociateAddress_eq_ok_iff.1 done
      split at effect
      · simp [effect.2.2]
      · simp [effect.2]
    | updateRule =>
      obtain ⟨-, old, -, -, rfl, rfl⟩ := updateRule_eq_ok_iff.1 done
      simp
    | tag =>
      obtain ⟨tags, -, rfl⟩ := tag_eq_ok_iff.1 done
      simp
    | untag =>
      obtain ⟨tags, -, rfl⟩ := untag_eq_ok_iff.1 done
      simp
  refine ⟨funext fun kind => ?_, same.2.2⟩
  cases kind <;> simp [tokens, same]

theorem attached_congr (associations : after.associations = registry.associations) :
    after.attached = registry.attached := by
  funext kind id
  cases kind <;> simp [attached, associationsOf, associations]

theorem held_congr (tokens : after.tokens = registry.tokens)
    (associations : after.associations = registry.associations) :
    after.held charge = registry.held charge := by
  simp [held, tokens, attached_congr associations]

theorem held_of_known {id : String}
    (known : (registry.tokens charge.identity.1).get? charge.token = some ⟨id, charge.identity.2⟩) :
    registry.held charge = some ⟨id, registry.attached charge.identity.1 id⟩ := by
  rw [held, known, Option.filter_some, if_pos (by simp)]
  rfl

theorem held_of_unknown
    (unknown : (registry.tokens charge.identity.1).get? charge.token = none) :
    registry.held charge = none := by
  rw [held, unknown]
  rfl

inductive Created (registry : Registry) (identity : Identity) (token id : String) :
    Registry → Prop where
  | known (known : (registry.tokens identity.1).get? token = some ⟨id, identity.2⟩) :
      Created registry identity token id registry
  | new {after : Registry} (unknown : (registry.tokens identity.1).get? token = none)
      (tokens : ∀ kind, after.tokens kind = if kind = identity.1 then
        (registry.tokens kind).insert token ⟨id, identity.2⟩ else registry.tokens kind)
      (associations : after.associations = registry.associations)
      (bare : registry.attached identity.1 id = []) : Created registry identity token id after

theorem created_createEndpoint (valid : registry.Valid site) {request : EndpointRequest}
    {record : EndpointRecord}
    (done : registry.createEndpoint site now request = .ok (record, after)) :
    Created registry (.endpoint, request.name) request.creatorRequestId record.id after := by
  cases known : registry.endpointTokens.get? request.creatorRequestId with
  | some entry =>
    obtain ⟨same, rfl, stored, live, rfl⟩ := (createEndpoint_of_known known).1 done
    refine .known ?_
    rw [(valid.endpoint _ stored live).keyed, ← same]
    exact known
  | none =>
    obtain ⟨-, -, rfl, rfl⟩ := (createEndpoint_of_unknown known).1 done
    refine .new known (fun kind => ?_) ?_ rfl
    · cases kind <;> simp [tokens, newEndpoint_snd, addEndpoint, putEndpoint]
      rfl
    · simp [newEndpoint_snd, addEndpoint, putEndpoint]

theorem created_createRule (valid : registry.Valid site) {request : RuleRequest}
    {record : RuleRecord} (done : registry.createRule site now request = .ok (record, after)) :
    Created registry (.rule, request.name) request.creatorRequestId record.id after := by
  cases known : registry.ruleTokens.get? request.creatorRequestId with
  | some entry =>
    obtain ⟨same, rfl, live⟩ := (createRule_of_known known).1 done
    refine .known ?_
    rw [(valid.rule _ record live).keyed, ← same]
    exact known
  | none =>
    obtain ⟨-, rfl, rfl⟩ := (createRule_of_unknown known).1 done
    refine .new known (fun kind => ?_) rfl ?_
    · cases kind <;> simp [tokens, newRule, addRule, putRule, issue]
    · refine List.filter_eq_nil_iff.2 fun association member same => ?_
      obtain ⟨old, live⟩ := Option.ne_none_iff_exists'.1 (valid.owned association member)
      have issued := (valid.rule _ old live).issued
      refine issued.ne_idText "rslvr-rr" (Nat.lt_succ_self registry.serial) ?_
      exact of_decide_eq_true same

theorem created_of_creation (valid : registry.Valid site) {call : Call} {value : call.Value}
    {identity : Identity} {token : String} (own : call.creation? = some (identity, token))
    (done : registry.perform site now call = .ok (value, after)) :
    ∃ id, Created registry identity token id after ∧ ∀ {kind pageSize held left},
      left = some (held.getD ⟨id, []⟩) ∧ left.map Held.id = some id →
        Charge.Told kind pageSize call held (.ok value) left := by
  cases call with
  | createEndpoint request =>
    obtain ⟨rfl, rfl⟩ := Prod.mk.inj (Option.some.inj own)
    exact ⟨value.id, created_createEndpoint valid done, id⟩
  | createRule request =>
    obtain ⟨rfl, rfl⟩ := Prod.mk.inj (Option.some.inj own)
    exact ⟨value.id, created_createRule valid done, id⟩
  | _ => cases own

namespace Created

variable {identity : Identity} {token id : String}
  (created : Created registry identity token id after)

include created

theorem held_own (same : charge.identity = identity) (carries : charge.token = token) :
    after.held charge = some ((registry.held charge).getD ⟨id, []⟩) ∧
      (after.held charge).map Held.id = some id := by
  subst same carries
  cases created with
  | known known => simp [held_of_known known]
  | new unknown tokens associations bare =>
    have now : (after.tokens charge.identity.1).get? charge.token =
        some ⟨id, charge.identity.2⟩ := by simp [tokens, NameMap.get?_insert]
    simp [held_of_unknown unknown, held_of_known now, attached_congr associations, bare]

theorem held_other (other : charge.identity ≠ identity) :
    after.held charge = registry.held charge := by
  cases created with
  | known => rfl
  | new unknown tokens associations bare =>
    simp only [held, tokens, attached_congr associations]
    congr 1
    split
    · next kind =>
      rw [NameMap.get?_insert]
      split
      · next same =>
        have apart : identity.2 ≠ charge.identity.2 := fun name => other (Prod.ext kind name.symm)
        rw [← same, kind, unknown]
        simp [apart]
      · rfl
    · rfl

theorem tokens {kind : ArnKind} {other : String} {entry : TokenEntry}
    (known : (after.tokens kind).get? other = some entry) :
    (registry.tokens kind).get? other = some entry ∨
      identity = (kind, entry.name) ∧ token = other := by
  cases created with
  | known => exact .inl known
  | new unknown tokens associations bare =>
    rw [tokens] at known
    split at known
    · next same =>
      rw [NameMap.get?_insert] at known
      split at known
      · next here =>
        cases known
        exact .inr ⟨Prod.ext same.symm rfl, here⟩
      · exact .inl known
    · exact .inl known

end Created

section Associations

variable {other : Charge} {id vpcId : String} {association : AssociationRecord}

theorem known_of_held (there : (registry.held charge).map Held.id = some id) :
    (registry.tokens charge.identity.1).get? charge.token = some ⟨id, charge.identity.2⟩ := by
  simp only [held, Option.map_map, Option.map_eq_some_iff, Option.filter_eq_some_iff,
    decide_eq_true_eq] at there
  obtain ⟨entry, ⟨known, name⟩, rfl⟩ := there
  rw [known, ← name]
  rfl

theorem associations_of_held {mine : Held} (rule : charge.identity.1 = .rule)
    (there : mine ∈ registry.held charge) :
    mine.associations = registry.associationsOf mine.id := by
  have known := known_of_held (congrArg (Option.map Held.id) there)
  have same := Option.some.inj (there.symm.trans (held_of_known known))
  rw [rule] at same
  exact congrArg Held.associations same

theorem Valid.known_of_live (valid : registry.Valid site) {kind : ArnKind}
    (live : registry.Live id kind) :
    ∃ token name, (registry.tokens kind).get? token = some ⟨id, name⟩ := by
  cases kind with
  | endpoint =>
    obtain ⟨stored, held⟩ := Option.ne_none_iff_exists'.1 live
    exact ⟨_, (valid.endpointTokens _ id).2 (congrArg (Option.map _) held)⟩
  | rule =>
    obtain ⟨record, held⟩ := Option.ne_none_iff_exists'.1 live
    exact ⟨_, (valid.ruleTokens _ id).2 (congrArg (Option.map _) held)⟩

theorem live_of_held (valid : registry.Valid site) (rule : charge.identity.1 = .rule)
    (there : (registry.held charge).map Held.id = some id) :
    ∃ record, registry.rules.get? id = some record := by
  have known := known_of_held there
  rw [rule] at known
  obtain ⟨record, live, -⟩ :=
    Option.map_eq_some_iff.1 ((valid.ruleTokens charge.token id).1 ⟨_, known⟩)
  exact ⟨record, live⟩

theorem identity_of_held (valid : registry.Valid site) (rule : charge.identity.1 = .rule)
    (rule' : other.identity.1 = .rule) (there : (registry.held charge).map Held.id = some id)
    (there' : (registry.held other).map Held.id = some id) : charge.identity = other.identity := by
  have known := known_of_held there
  have known' := known_of_held there'
  rw [rule] at known
  rw [rule'] at known'
  have owner := (valid.ruleTokens charge.token id).1 ⟨_, known⟩
  have owner' := (valid.ruleTokens other.token id).1 ⟨_, known'⟩
  rw [Option.some.inj (owner.symm.trans owner'), known'] at known
  exact Prod.ext (rule.trans rule'.symm) (TokenEntry.mk.inj (Option.some.inj known)).2.symm

theorem tokens_associateRule (done : registry.associateRule id vpcId = .ok (association, after)) :
    after.tokens = registry.tokens := by
  obtain ⟨-, ⟨-, rfl⟩ | ⟨-, -, rfl⟩⟩ := associateRule_eq_ok done
  · rfl
  · funext kind
    cases kind <;> rfl

theorem held_associateRule_own (rule : charge.identity.1 = .rule)
    (done : registry.associateRule id vpcId = .ok (association, after))
    (own : (registry.held charge).map Held.id = some id) :
    ∃ mine later, registry.held charge = some mine ∧ after.held charge = some later ∧
      later.id = mine.id ∧ later.associations = after.associationsOf id ∧
      ∀ vpc, vpc ∈ later.vpcs ↔ vpc ∈ mine.vpcs ∨ vpc = vpcId := by
  have known := known_of_held own
  have now : (after.tokens charge.identity.1).get? charge.token = some ⟨id, charge.identity.2⟩ := by
    rw [tokens_associateRule done, known]
  refine ⟨_, _, held_of_known known, held_of_known now, rfl, by rw [rule]; rfl, fun vpc => ?_⟩
  rw [rule]
  exact mem_associatedVpcs_associate done vpc

theorem held_associateRule_other (done : registry.associateRule id vpcId = .ok (association, after))
    (apart : charge.identity.1 = .rule → (registry.held charge).map Held.id ≠ some id) :
    after.held charge = registry.held charge := by
  have others : ∀ ruleId, ruleId ≠ id →
      after.associationsOf ruleId = registry.associationsOf ruleId := by
    intro ruleId different
    obtain ⟨-, ⟨-, rfl⟩ | ⟨-, -, rfl⟩⟩ := associateRule_eq_ok done
    · rfl
    · simp [associationsOf, newAssociation, different.symm]
  simp only [held, tokens_associateRule done] at apart ⊢
  refine Option.map_congr fun entry known => ?_
  cases kind : charge.identity.1 with
  | endpoint => rfl
  | rule =>
    rw [kind] at known
    rw [attached, attached, others entry.id fun same => apart kind ?_]
    rw [kind, known, ← same]
    rfl

end Associations

end Registry

def Candid (refusal : Call → Failure → Prop) : Prop :=
  ∀ id failure, refusal (.getRule id) failure → failure.isNotFound = false

section Answers

variable {site : Site} {registry after : Registry} {charge other : Charge}
  {refusal : Call → Failure → Prop} {call : Call} {reply : call.Reply}

theorem Charge.Told.of_quiet {now : Timestamp} {value : call.Value} (valid : registry.Valid site)
    (quiet : call.isQuiet = true) (done : registry.perform site now call = .ok (value, after)) :
    Told charge.identity.1 site.pageSize call (registry.held charge) (.ok value)
      (after.held charge) := by
  obtain ⟨tokens, associations⟩ := Registry.perform_quiet quiet done
  rw [Registry.held_congr tokens associations]
  cases call with
  | getEndpoint id =>
    obtain ⟨found, -⟩ := Registry.look_eq_ok_iff.1 done
    cases held : registry.endpoint id with
    | error failure => simp [held, Except.map] at found
    | ok stored =>
      simp only [held, Except.map, Except.ok.injEq] at found
      subst found
      exact ⟨rfl, (valid.endpoint id stored (Registry.endpoint_eq_ok_iff.1 held)).keyed⟩
  | getRule id =>
    obtain ⟨found, -⟩ := Registry.look_eq_ok_iff.1 done
    exact ⟨rfl, (valid.rule id value (Registry.rule_eq_ok_iff.1 found)).keyed⟩
  | updateEndpoint id update =>
    obtain ⟨stored, held, rfl, -⟩ := Registry.updateEndpoint_eq_ok_iff.1 done
    exact ⟨rfl, (valid.endpoint id stored held).keyed⟩
  | updateRule id update =>
    obtain ⟨-, old, held, -, rfl, -⟩ := Registry.updateRule_eq_ok_iff.1 done
    exact ⟨rfl, (valid.rule id old held).keyed⟩
  | listAssociations id token =>
    obtain ⟨found, -⟩ := Registry.look_eq_ok_iff.1 done
    refine ⟨rfl, fun mine there rule own => .inl ?_⟩
    rw [Registry.associations_of_held rule there, own]
    exact found.symm
  | createEndpoint | createRule | deleteEndpoint | deleteRule | associateRule | disassociateRule =>
    cases quiet
  | _ => exact rfl

theorem Charge.told_of_answered (candid : Candid refusal) (valid : registry.Valid site)
    (allows : charge.Allows (registry.held charge) call)
    (answered : Answered site refusal call registry reply after)
    (room : after.serial ≤ Walk.pageLimit) :
    Told charge.identity.1 site.pageSize call (registry.held charge) reply
      (after.held charge) := by
  cases answered with
  | refused refused =>
    refine .of_error fun id same _ _ => ?_
    subst same
    exact candid id _ refused
  | rejected now rejected =>
    refine .of_error fun id same rule own => ?_
    subst same
    obtain ⟨record, live⟩ := Registry.live_of_held valid rule own
    have found : registry.rule id = .ok record := Registry.rule_eq_ok_iff.2 live
    simp [Registry.perform, Registry.look, found, Except.map] at rejected
  | @done now value after done =>
    cases allows with
    | quiet quiet => exact .of_quiet valid quiet done
    | creates own =>
      obtain ⟨id, created, told⟩ := Registry.created_of_creation valid own done
      exact told (created.held_own rfl rfl)
    | associates rule own wanted =>
      obtain ⟨mine, later, there, left, same, listed, vpcs⟩ :=
        Registry.held_associateRule_own rule done own
      refine ⟨mine, later, there, left, same, ?_, vpcs⟩
      rw [listed]
      have few := (Registry.perform_valid valid now _ done).1.listed
      exact Nat.le_trans (List.length_filter_le _ _) (Nat.le_trans few room)

theorem Charge.tokens_of_answered (valid : registry.Valid site)
    (allows : charge.Allows (registry.held charge) call)
    (answered : Answered site refusal call registry reply after) {kind : ArnKind} {token : String}
    {entry : TokenEntry} (known : (after.tokens kind).get? token = some entry) :
    (registry.tokens kind).get? token = some entry ∨
      charge.identity = (kind, entry.name) ∧ charge.token = token := by
  cases answered with
  | refused | rejected => exact .inl known
  | @done now value after done =>
    cases allows with
    | quiet quiet => exact .inl ((Registry.perform_quiet quiet done).1 ▸ known)
    | creates own =>
      obtain ⟨id, created, -⟩ := Registry.created_of_creation valid own done
      exact created.tokens known
    | associates rule own wanted => exact .inl (Registry.tokens_associateRule done ▸ known)

theorem Charge.held_of_answered_other (valid : registry.Valid site)
    (allows : other.Allows (registry.held other) call) (apart : charge.identity ≠ other.identity)
    (answered : Answered site refusal call registry reply after) :
    after.held charge = registry.held charge := by
  cases answered with
  | refused | rejected => rfl
  | @done now value after done =>
    cases allows with
    | quiet quiet =>
      obtain ⟨tokens, associations⟩ := Registry.perform_quiet quiet done
      exact Registry.held_congr tokens associations
    | creates own =>
      obtain ⟨id, created, -⟩ := Registry.created_of_creation valid own done
      exact created.held_other apart
    | associates rule own wanted =>
      exact Registry.held_associateRule_other done fun rule' there =>
        apart (Registry.identity_of_held valid rule' rule there own)

end Answers

end Provider

end Converge
