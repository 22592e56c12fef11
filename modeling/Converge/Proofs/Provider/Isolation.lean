import Converge.Proofs.Provider.Reachable

/-! Resources side by side. Tags are kept by ARN, tokens by request and associations in one list
for all rules, but ids and ARNs tell resources apart. So a call that is for one resource leaves
alone everything that is held for another one. -/
namespace Converge.Provider

open Converge.Resolver

inductive Share where
  | endpoint (stored : Option StoredEndpoint) (tags : Option Tags) (tokens : NameMap TokenEntry)
  | rule (record : Option RuleRecord) (associations : List AssociationRecord)
      (tags : Option Tags) (tokens : NameMap TokenEntry)
deriving DecidableEq

/-- The call names the resource by its id or its ARN. A call that creates something names nothing
that is there. -/
def Call.IsFor (site : Site) (kind : ArnKind) (id : String) : Call → Prop
  | createEndpoint _ | createRule _ => False
  | getEndpoint other | listAddresses other _ | updateEndpoint other _ | deleteEndpoint other
  | associateAddress other _ | disassociateAddress other _ => kind = .endpoint ∧ other = id
  | getRule other | updateRule other _ | deleteRule other | associateRule other _
  | disassociateRule other _ | listAssociations other _ => kind = .rule ∧ other = id
  | listTags arn | tag arn _ | untag arn _ => arn = site.arn kind.label id

/-- The id has a number that is still to come. -/
def Pending (serial : Nat) (id : String) : Prop :=
  ∃ stem number, serial < number ∧ id = idText stem number

theorem Issued.not_pending {serial : Nat} {id : String} (issued : Issued serial id) :
    ¬Pending serial id := by
  rintro ⟨stem, number, above, shape⟩
  exact issued.ne_idText stem above shape

theorem Pending.anti {serial later : Nat} {id : String} (pending : Pending later id)
    (grown : serial ≤ later) : Pending serial id := by
  obtain ⟨stem, number, above, shape⟩ := pending
  exact ⟨stem, number, Nat.lt_of_le_of_lt grown above, shape⟩

theorem pending_idText {serial number : Nat} (stem : String) (above : serial < number) :
    Pending serial (idText stem number) :=
  ⟨stem, number, above, rfl⟩

section Tokens

variable {tokens : NameMap TokenEntry} {id : String}

def tokensOf (tokens : NameMap TokenEntry) (id : String) : NameMap TokenEntry :=
  tokens.filter fun _ entry => entry.id = id

theorem tokensOf_insert {token : String} {entry : TokenEntry} (unknown : tokens.get? token = none)
    (apart : entry.id ≠ id) : tokensOf (tokens.insert token entry) id = tokensOf tokens id := by
  refine NameMap.ext_get? fun name => ?_
  simp only [tokensOf, NameMap.get?_filter, NameMap.get?_insert]
  split
  · next same => simp [← same, unknown, Option.filter, apart]
  · rfl

theorem tokensOf_erase {other : String} (apart : other ≠ id) :
    tokensOf (tokens.filter fun _ entry => entry.id ≠ other) id = tokensOf tokens id := by
  refine NameMap.ext_get? fun name => ?_
  simp only [tokensOf, NameMap.get?_filter, Option.filter_filter]
  congr 1
  funext entry
  by_cases same : entry.id = id
  · simp [same, Ne.symm apart]
  · simp [same]

end Tokens

namespace Registry

def share (site : Site) (registry : Registry) (id : String) : ArnKind → Share
  | .endpoint =>
    .endpoint (registry.endpoints.get? id) (registry.tags.get? (site.arn ArnKind.endpoint.label id))
      (tokensOf registry.endpointTokens id)
  | .rule =>
    .rule (registry.rules.get? id) (registry.associationsOf id)
      (registry.tags.get? (site.arn ArnKind.rule.label id)) (tokensOf registry.ruleTokens id)

section Changes

variable {site : Site} {registry : Registry} {id other : String} {kind : ArnKind}

theorem share_putEndpoint (stored : StoredEndpoint) (serial : Nat)
    (apart : ¬(kind = .endpoint ∧ other = id)) :
    share site { registry with endpoints := registry.endpoints.insert other stored, serial } id
      kind = registry.share site id kind := by
  cases kind with
  | rule => rfl
  | endpoint =>
    have elsewhere : other ≠ id := fun same => apart ⟨rfl, same⟩
    simp [share, elsewhere]

theorem share_putRule (record : RuleRecord) (apart : ¬(kind = .rule ∧ other = id)) :
    share site { registry with rules := registry.rules.insert other record } id kind =
      registry.share site id kind := by
  cases kind with
  | endpoint => rfl
  | rule =>
    have elsewhere : other ≠ id := fun same => apart ⟨rfl, same⟩
    simp [share, elsewhere, associationsOf]

theorem share_retag {arn : String} (tags : Tags) (apart : arn ≠ site.arn kind.label id) :
    share site { registry with tags := registry.tags.insert arn tags } id kind =
      registry.share site id kind := by
  cases kind <;> simp [share, apart, associationsOf]

theorem share_putAssociations {associations : List AssociationRecord} (serial : Nat)
    (same : associations.filter (fun association => association.ruleId = id) =
      registry.associationsOf id) :
    share site { registry with associations, serial } id kind = registry.share site id kind := by
  cases kind with
  | endpoint => rfl
  | rule =>
    have listed : associationsOf { registry with associations, serial } id =
        registry.associationsOf id := same
    simp only [share, listed]

theorem share_addEndpoint {stored : StoredEndpoint} {serial : Nat} (tags : Tags)
    (arn : stored.record.arn = site.arn ArnKind.endpoint.label stored.record.id)
    (unknown : registry.endpointTokens.get? stored.record.creatorRequestId = none)
    (apart : stored.record.id ≠ id) :
    share site (addEndpoint { registry with serial } stored tags) id kind =
      registry.share site id kind := by
  have elsewhere : stored.record.arn ≠ site.arn kind.label id := fun same =>
    apart (arn_inj site (arn.symm.trans same)).2
  cases kind with
  | rule => simp [share, addEndpoint, putEndpoint, elsewhere, associationsOf]
  | endpoint =>
    have tokens : tokensOf (registry.endpointTokens.insert stored.record.creatorRequestId
        ⟨stored.record.id, stored.record.name⟩) id = tokensOf registry.endpointTokens id :=
      tokensOf_insert unknown apart
    simp [share, addEndpoint, putEndpoint, elsewhere, apart, tokens]

theorem share_addRule {record : RuleRecord} {serial : Nat} (tags : Tags)
    (arn : record.arn = site.arn ArnKind.rule.label record.id)
    (unknown : registry.ruleTokens.get? record.creatorRequestId = none) (apart : record.id ≠ id) :
    share site (addRule { registry with serial } record tags) id kind =
      registry.share site id kind := by
  have elsewhere : record.arn ≠ site.arn kind.label id := fun same =>
    apart (arn_inj site (arn.symm.trans same)).2
  cases kind with
  | endpoint => simp [share, addRule, putRule, elsewhere]
  | rule =>
    have tokens : tokensOf (registry.ruleTokens.insert record.creatorRequestId
        ⟨record.id, record.name⟩) id = tokensOf registry.ruleTokens id :=
      tokensOf_insert unknown apart
    simp [share, addRule, putRule, elsewhere, apart, tokens, associationsOf]

theorem share_dropEndpoint {arn : String} (named : arn = site.arn ArnKind.endpoint.label other)
    (apart : ¬(kind = .endpoint ∧ other = id)) :
    share site { registry with
      endpoints := registry.endpoints.erase other
      tags := registry.tags.erase arn
      endpointTokens := registry.endpointTokens.filter fun _ entry => entry.id ≠ other } id kind =
      registry.share site id kind := by
  have elsewhere : arn ≠ site.arn kind.label id := by
    intro same
    obtain ⟨sameKind, sameId⟩ := arn_inj site (same.symm.trans named)
    exact apart ⟨sameKind, sameId.symm⟩
  cases kind with
  | rule => simp [share, elsewhere, associationsOf]
  | endpoint =>
    have absent : other ≠ id := fun same => apart ⟨rfl, same⟩
    simp only [share, NameMap.get?_erase, elsewhere, absent, ↓reduceIte, tokensOf_erase absent]

theorem share_dropRule {arn : String} (named : arn = site.arn ArnKind.rule.label other)
    (apart : ¬(kind = .rule ∧ other = id)) :
    share site { registry with
      rules := registry.rules.erase other
      tags := registry.tags.erase arn
      associations := registry.associations.filter fun association => association.ruleId ≠ other
      ruleTokens := registry.ruleTokens.filter fun _ entry => entry.id ≠ other } id kind =
      registry.share site id kind := by
  have elsewhere : arn ≠ site.arn kind.label id := by
    intro same
    obtain ⟨sameKind, sameId⟩ := arn_inj site (same.symm.trans named)
    exact apart ⟨sameKind, sameId.symm⟩
  cases kind with
  | endpoint => simp [share, elsewhere]
  | rule =>
    have absent : other ≠ id := fun same => apart ⟨rfl, same⟩
    have kept : (registry.associations.filter fun association => association.ruleId ≠ other).filter
        (fun association => association.ruleId = id) = registry.associationsOf id := by
      rw [List.filter_filter]
      refine List.filter_congr fun association _ => ?_
      by_cases same : association.ruleId = id <;> simp [same, Ne.symm absent]
    simp only [share, NameMap.get?_erase, elsewhere, absent, ↓reduceIte, tokensOf_erase absent]
    exact congrArg (Share.rule _ · _ _) kept

theorem share_retire {vpcId : String} {retired : AssociationRecord}
    {associations : List AssociationRecord} (apart : ¬(kind = .rule ∧ other = id))
    (done : retireLast other vpcId registry.associations = some (retired, associations)) :
    share site { registry with associations } id kind = registry.share site id kind := by
  cases kind with
  | endpoint => rfl
  | rule =>
    have absent : other ≠ id := fun same => apart ⟨rfl, same⟩
    obtain ⟨before, old, rest, shape, rule, -, -, rfl⟩ := retireLast_eq_some done
    refine share_putAssociations registry.serial ?_
    simp [associationsOf, shape, rule, absent]

end Changes

section Calls

variable {site : Site} {now : Timestamp} {registry after : Registry} {id : String}
  {kind : ArnKind}

theorem share_perform (valid : registry.Valid site) (settled : ¬Pending registry.serial id)
    {call : Call} {value : call.Value} (foreign : ¬call.IsFor site kind id)
    (done : registry.perform site now call = .ok (value, after)) :
    after.share site id kind = registry.share site id kind := by
  have fresh : ∀ stem, idText stem (registry.serial + 1) ≠ id := fun stem same =>
    settled (same ▸ pending_idText stem (Nat.lt_succ_self _))
  cases call with
  | getEndpoint | listAddresses | getRule | listAssociations | listTags =>
    rw [(look_eq_ok_iff.1 done).2]
  | createEndpoint request =>
    cases known : registry.endpointTokens.get? request.creatorRequestId with
    | some entry => rw [((createEndpoint_of_known known).1 done).2.1]
    | none =>
      obtain ⟨-, -, -, rfl⟩ := (createEndpoint_of_unknown known).1 done
      rw [newEndpoint_snd]
      exact share_addEndpoint _ rfl known (fresh _)
  | updateEndpoint other update =>
    obtain ⟨stored, -, -, rfl⟩ := updateEndpoint_eq_ok_iff.1 done
    exact share_putEndpoint _ _ foreign
  | deleteEndpoint other =>
    obtain ⟨stored, held, rfl⟩ := deleteEndpoint_eq_ok_iff.1 done
    exact share_dropEndpoint (valid.endpoint other stored held).arn foreign
  | associateAddress other request =>
    obtain ⟨stored, -, effect⟩ := associateAddress_eq_ok_iff.1 done
    split at effect
    · rw [effect.2]
    · rw [effect.2]
      exact share_putEndpoint _ _ foreign
  | disassociateAddress other ipId =>
    obtain ⟨stored, -, effect⟩ := disassociateAddress_eq_ok_iff.1 done
    split at effect
    · rw [effect.2.2]
      exact share_putEndpoint _ _ foreign
    · rw [effect.2]
  | createRule request =>
    cases known : registry.ruleTokens.get? request.creatorRequestId with
    | some entry => rw [((createRule_of_known known).1 done).2.1]
    | none =>
      obtain ⟨-, -, rfl⟩ := (createRule_of_unknown known).1 done
      exact share_addRule _ rfl known (fresh _)
  | updateRule other update =>
    obtain ⟨-, old, -, -, -, rfl⟩ := updateRule_eq_ok_iff.1 done
    exact share_putRule _ foreign
  | deleteRule other =>
    obtain ⟨record, held, rfl⟩ := deleteRule_eq_ok done
    exact share_dropRule (valid.rule other record held).arn foreign
  | associateRule other vpcId =>
    obtain ⟨-, ⟨-, rfl⟩ | ⟨-, -, rfl⟩⟩ := associateRule_eq_ok done
    · rfl
    · cases kind with
      | endpoint => rfl
      | rule =>
        have absent : other ≠ id := fun same => foreign ⟨rfl, same⟩
        refine share_putAssociations _ ?_
        simp [associationsOf, newAssociation, absent]
  | disassociateRule other vpcId =>
    obtain ⟨associations, retired, rfl⟩ := disassociateRule_eq_ok_iff.1 done
    exact share_retire foreign retired
  | tag arn added =>
    obtain ⟨tags, -, rfl⟩ := tag_eq_ok_iff.1 done
    exact share_retag _ foreign
  | untag arn keys =>
    obtain ⟨tags, -, rfl⟩ := untag_eq_ok_iff.1 done
    exact share_retag _ foreign

theorem Valid.not_pending (valid : registry.Valid site) (live : registry.Live id kind) :
    ¬Pending registry.serial id := by
  cases kind with
  | endpoint =>
    obtain ⟨stored, held⟩ := Option.ne_none_iff_exists'.1 live
    exact (valid.endpoint id stored held).issued.not_pending
  | rule =>
    obtain ⟨record, held⟩ := Option.ne_none_iff_exists'.1 live
    exact (valid.rule id record held).issued.not_pending

end Calls

end Registry

theorem Answered.share {site : Site} {refusal : Call → Failure → Prop} {call : Call}
    {registry after : Registry} {reply : call.Reply} {id : String} {kind : ArnKind}
    (answered : Answered site refusal call registry reply after) (valid : registry.Valid site)
    (settled : ¬Pending registry.serial id) (foreign : ¬call.IsFor site kind id) :
    after.share site id kind = registry.share site id kind := by
  cases answered with
  | done now done => exact Registry.share_perform valid settled foreign done
  | rejected | refused => rfl

namespace World

variable {world : World} {id : String} {kind : ArnKind} {call : Call}

theorem share_complete (reached : world.Reachable) (settled : ¬Pending world.registry.serial id)
    (foreign : ¬call.IsFor world.site kind id) :
    (world.complete call).2.registry.share world.site id kind =
      world.registry.share world.site id kind :=
  (complete_answered noRefusal world call).share reached.valid.1 settled foreign

/-- A call that is for one resource, or makes a new one, leaves alone everything that is held for
another live one, whether it is refused, cut off, rejected or carried out. That goes for each part
of a call too, between which other calls may be made. -/
theorem call_isolated (reached : world.Reachable) (live : world.registry.Live id kind)
    (foreign : ¬call.IsFor world.site kind id) (bounds : Bounds) :
    (world.serve bounds call).2.registry.share world.site id kind =
        world.registry.share world.site id kind ∧
      (world.begin bounds call).2.registry.share world.site id kind =
        world.registry.share world.site id kind ∧
      (world.complete call).2.registry.share world.site id kind =
        world.registry.share world.site id kind := by
  have settled := reached.valid.1.not_pending live
  have served : Answered world.site anyRefusal call world.registry (world.serve bounds call).1
      (world.serve bounds call).2.registry := answered_serve
  have begun : (world.begin bounds call).2.registry = world.registry := begin_registry
  refine ⟨served.share reached.valid.1 settled foreign, ?_, share_complete reached settled foreign⟩
  rw [begun]

/-- An endpoint, and a rule that sends through it. -/
def neighbours : List Call :=
  [.createEndpoint
      { creatorRequestId := "out-0"
        name := "out"
        direction := .outbound
        endpointType := none
        securityGroupIds := ["sg-1"]
        ipAddresses := [⟨"subnet-a", none, none⟩, ⟨"subnet-b", none, none⟩]
        tags := [] },
    .createRule
      { creatorRequestId := "internal-0"
        name := "internal"
        domainName := "corp.example."
        ruleType := .forward
        resolverEndpointId := some "rslvr-out-00000000000000001"
        targetIps := [⟨some "10.1.0.2", none, none⟩]
        tags := [⟨"team", "net"⟩] },
    .associateRule "rslvr-rr-00000000000000004" "vpc-1"]

theorem deleted_neighbour_isolated :
    let world := still.completeAll neighbours
    let endpointId := "rslvr-out-00000000000000001"
    let call := Call.deleteEndpoint endpointId
    let id := "rslvr-rr-00000000000000004"
    world.registry.Live endpointId .endpoint ∧ world.registry.Live id .rule ∧
      ¬(world.serve .unbounded call).2.registry.Live endpointId .endpoint ∧
      (world.serve .unbounded call).2.registry.share world.site id .rule =
        world.registry.share world.site id .rule := by
  intro world endpointId call id
  have reached : world.Reachable := Reachable.still.completeAll neighbours
  have live : world.registry.Live id .rule := by
    show world.registry.rules.get? id ≠ none
    decide +kernel
  have foreign : ¬call.IsFor world.site .rule id := fun named => nomatch named.1
  refine ⟨?_, live, not_not_intro ?_, (call_isolated reached live foreign .unbounded).1⟩
  · show world.registry.endpoints.get? endpointId ≠ none
    decide +kernel
  · show (world.serve .unbounded call).2.registry.endpoints.get? endpointId = none
    decide +kernel

end World

end Converge.Provider
