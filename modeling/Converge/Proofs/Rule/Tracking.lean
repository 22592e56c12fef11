import Converge.Proofs.Tracking
import Converge.Resolver.RuleManager

/-! Passes over rules keep to one rule, the one of their token, and delete nothing. -/
namespace Converge.Resolver.Rule

open Converge.Provider Program

variable {site : Site} {desired : RuleSpec} {token : Token} {registry : Registry}
  {observed : Rule}

theorem always_observe_named (last : Option Rule) :
    (observe desired last).outcome.Always (Shared site)
      (fun reply _ => ∀ result, reply = .ok result → ∀ found ∈ result, found.id? = last.bind id?)
      registry := by
  unfold observe
  cases last.bind id? with
  | none =>
    intro result same
    cases same
    exact fun found => nofun
  | some id =>
    refine (always_bind _ _ _ _).2 (always_ask_shared (.getRule id) ?_ ?_)
    · intro now middle record after valid keeps done
      obtain ⟨held, -⟩ := Registry.look_eq_ok_iff.1 done
      have named := (valid.rule id record (Registry.rule_eq_ok_iff.1 held)).keyed
      refine Attempt.always_ok_bind fun listed _ => Attempt.always_ok_bind fun tags _ => ?_
      refine (Attempt.always_outcome_pure _ _ _).2 fun result same found there => ?_
      cases same
      cases there
      exact congrArg some named
    · intro failure after
      refine (always_pure _ _ _).2 fun result same found there => ?_
      split at same <;> cases same
      cases there

theorem always_create_owned :
    (create desired token).outcome.Always (Shared site) (fun reply after => ∀ created,
      reply = .ok created → Owned .rule id? token (some created) after) registry := by
  refine (Attempt.always_outcome_bind _ _ _ _).2 (always_ask_shared (.createRule _) ?_ ?_)
  · intro now middle record after valid keeps done
    refine (Attempt.always_outcome_pure _ _ _).2 fun created same id named => ?_
    cases same
    cases named
    exact Registry.tokenOf_createRule valid done
  · exact fun _ _ _ same => nomatch same

section Syncs

variable {σ : Type} {answers : Answers Call Call.Reply σ} {state : σ}

theorem always_syncTags_rest : (syncTags desired observed).outcome.Always answers
    (fun reply _ => ∀ updated, reply = .ok updated →
      updated = { observed with spec := { observed.spec with tags := desired.tags } }) state := by
  refine Attempt.always_ok_bind fun arn _ => Attempt.always_ok_bind fun plan _ => ?_
  exact (Attempt.always_outcome_pure _ _ _).2 fun updated same => (Except.ok.inj same).symm

theorem always_syncAssociations_rest : (syncAssociations desired observed).Always answers
    (fun applied _ => ∃ associations,
      applied.observed = { observed with spec := { observed.spec with associations } }) state := by
  unfold syncAssociations
  split
  · exact (always_pure _ _ _).2 ⟨_, rfl⟩
  · exact (always_bind _ _ _ _).2 (.of_forall fun progress _ => (always_pure _ _ _).2 ⟨_, rfl⟩)

theorem always_afterCreate_rest : (afterCreate desired observed).Always answers
    (fun applied _ => ∃ associations,
      applied.observed = { observed with spec := { observed.spec with associations } }) state := by
  unfold afterCreate
  split
  · exact (always_pure _ _ _).2 ⟨_, rfl⟩
  · exact always_syncAssociations_rest

end Syncs

theorem always_update_named :
    (update desired observed).outcome.Always (Shared site)
      (fun reply _ => ∀ updated, reply = .ok updated → updated.id? = observed.id?) registry := by
  unfold update
  cases observed.id? with
  | none => exact fun _ same => nomatch same
  | some id =>
    refine (Attempt.always_outcome_bind _ _ _ _).2 ?_
    refine (Attempt.always_outcome_ofExcept _ _ _).2 ?_
    refine (Attempt.always_outcome_bind _ _ _ _).2 (always_ask_shared (.updateRule id _) ?_ ?_)
    · intro now middle record after valid keeps done
      obtain ⟨-, old, held, -, rfl, -⟩ := Registry.updateRule_eq_ok_iff.1 done
      refine (Attempt.always_outcome_pure _ _ _).2 fun updated same => ?_
      cases same
      exact congrArg some (valid.rule id old held).keyed
    · exact fun _ _ _ same => nomatch same

theorem tracks : ruleManager.Tracks site .rule id? desired token where
  observe last _ := always_observe_named last
  create _ := always_create_owned
  afterCreate _ _ := always_afterCreate_rest.imp fun _ _ ⟨_, same⟩ => by simp [same, id?]
  syncTags observed registry :=
    always_syncTags_rest.imp fun _ _ rest updated same => by simp [rest updated same, id?]
  syncCollections _ _ _ :=
    always_syncAssociations_rest.imp fun _ _ ⟨_, same⟩ => by simp [same, id?]
  update _ _ _ := always_update_named

section Calls

variable {allowed : Call → Prop}

theorem asks_syncTags
    (tags : ∀ arn, allowed (.tag arn (tagDiff desired.tags observed.spec.tags).added))
    (untags : ∀ arn, allowed (.untag arn (tagDiff desired.tags observed.spec.tags).removed)) :
    (syncTags desired observed).outcome.Asks allowed := by
  refine Attempt.asks_bind (Attempt.asks_ofExcept _) fun arn =>
    Attempt.asks_bind ?_ fun _ => trivial
  exact TagAccess.asks_sync (asks_ask (tags arn)) (asks_ask (untags arn))

theorem asks_syncAssociations (associates : ∀ id vpcId, allowed (.associateRule id vpcId))
    (disassociates : ∀ id vpcId, vpcId ∉ desired.associations.map RuleAssociation.vpcId →
      allowed (.disassociateRule id vpcId)) :
    (syncAssociations desired observed).Asks allowed := by
  unfold syncAssociations
  split
  · trivial
  · next id _ =>
    refine (Collection.asks_sync (fun item _ => ?_) fun vpcId removed => ?_).bind fun _ => trivial
    · exact Attempt.asks_bind (asks_ask (associates id item.vpcId)) fun _ => trivial
    · have unwanted := ((mem_removed_iff _ _ _ vpcId).1 removed).2
      refine Attempt.asks_bind (Asks.bind (asks_ask (disassociates id vpcId unwanted))
        fun reply => ?_) fun _ => trivial
      cases reply <;> trivial

theorem asks_afterCreate (associates : ∀ id vpcId, allowed (.associateRule id vpcId))
    (disassociates : ∀ id vpcId, allowed (.disassociateRule id vpcId)) :
    (afterCreate desired observed).Asks allowed := by
  unfold afterCreate
  split
  · trivial
  · exact asks_syncAssociations associates fun id vpcId _ => disassociates id vpcId

theorem asks_observe (gets : ∀ id, allowed (.getRule id))
    (lists : ∀ id token, allowed (.listAssociations id token))
    (listsTags : ∀ arn, allowed (.listTags arn)) (last : Option Rule) :
    (observe desired last).outcome.Asks allowed := by
  unfold observe
  split
  · trivial
  · next id _ =>
    refine Asks.bind (asks_ask (gets id)) fun reply => ?_
    cases reply with
    | error failure => trivial
    | ok record =>
      refine Attempt.asks_bind (Walk.asks_collect fun token => asks_ask (lists id token))
        fun _ => ?_
      exact Attempt.asks_bind (TagAccess.asks_fetch (asks_ask (listsTags record.arn)))
        fun _ => trivial

theorem asks_update (updates : ∀ id, allowed (.updateRule id
      { name := some desired.name
        resolverEndpointId := desired.resolverEndpointId
        targetIps := some desired.targetIps })) :
    (update desired observed).outcome.Asks allowed := by
  refine Attempt.asks_bind (Attempt.asks_ofExcept _) fun id => ?_
  exact Attempt.asks_bind (asks_ask (updates id)) fun _ => trivial

end Calls

inductive Makes (desired : RuleSpec) (token : Token) : Call → Prop where
  | creates : Makes desired token (.createRule
      { creatorRequestId := token.text
        name := desired.name
        domainName := desired.domainName
        ruleType := desired.ruleType
        resolverEndpointId := desired.resolverEndpointId
        targetIps := desired.targetIps
        tags := desired.tags.toTags })
  | updates (id : String) : Makes desired token (.updateRule id
      { name := some desired.name
        resolverEndpointId := desired.resolverEndpointId
        targetIps := some desired.targetIps })
  | others {call : Call} (plain : call.isPlain = true) (other : call.operation ≠ .updateRule) :
      Makes desired token call

theorem asks_pass_makes (last : Option Rule) :
    (ruleManager.pass desired token last).Asks (Makes desired token) := by
  refine Manager.asks_pass fun step proper => ?_
  have other : ∀ call : Call, call.isPlain = true → call.operation ≠ .updateRule →
      Makes desired token call := fun _ => .others
  cases step with
  | observe last =>
    exact asks_observe (fun _ => other _ rfl nofun) (fun _ _ => other _ rfl nofun)
      (fun _ => other _ rfl nofun) last
  | create other =>
    cases proper
    exact Attempt.asks_bind (asks_ask .creates) fun _ => trivial
  | afterCreate created =>
    exact asks_afterCreate (fun _ _ => other _ rfl nofun) fun _ _ => other _ rfl nofun
  | syncTags observed =>
    exact asks_syncTags (fun _ => other _ rfl nofun) fun _ => other _ rfl nofun
  | syncCollections observed _ =>
    exact asks_syncAssociations (fun _ _ => other _ rfl nofun) fun _ _ _ => other _ rfl nofun
  | update observed delta => exact asks_update .updates
  | delete => exact proper.elim
  | checkImmutable | delta | needsRefresh | settled => trivial

theorem asks_pass (last : Option Rule) :
    (ruleManager.pass desired token last).Asks (Call.IsProper token) := by
  refine (asks_pass_makes last).imp fun call makes => ?_
  cases makes with
  | creates => exact ⟨⟨nofun, nofun⟩, fun _ same => (Option.some.inj same).symm⟩
  | updates => exact .of_plain rfl
  | others plain => exact .of_plain plain

end Converge.Resolver.Rule
