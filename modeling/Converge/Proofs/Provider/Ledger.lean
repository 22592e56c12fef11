import Converge.Proofs.Provider.Reachable

/-! What a provider holds fits together at all times, and no id is given out twice. Every call that
takes effect says which ids it has issued; their numbers follow one on the other, over all calls
and all kinds of ids. -/
namespace Converge.Provider

open Converge.Resolver

theorem Tokened.map_eq_some_iff {tokens : NameMap TokenEntry} {owner : String → Option String}
    (tokened : Tokened tokens owner) (token id : String) :
    (tokens.get? token).map TokenEntry.id = some id ↔ owner id = some token := by
  rw [← tokened token id, Option.map_eq_some_iff]
  constructor
  · rintro ⟨⟨found, name⟩, known, rfl⟩
    exact ⟨name, known⟩
  · rintro ⟨name, known⟩
    exact ⟨⟨id, name⟩, known, rfl⟩

namespace Registry

/-- The ids of the addresses of an endpoint. -/
def addressIds (registry : Registry) (id : String) : List String :=
  match registry.endpoints.get? id with
  | some stored => stored.addresses.map Address.ipId
  | none => []

/-- The ids that a call has issued: those of the resource that its token stands for by now, or those
at the end of a list that has grown. -/
def issued (before after : Registry) : Call → List String
  | .createEndpoint request =>
    match before.endpointTokens.get? request.creatorRequestId,
        after.endpointTokens.get? request.creatorRequestId with
    | none, some entry => entry.id :: after.addressIds entry.id
    | _, _ => []
  | .createRule request =>
    match before.ruleTokens.get? request.creatorRequestId,
        after.ruleTokens.get? request.creatorRequestId with
    | none, some entry => [entry.id]
    | _, _ => []
  | .associateAddress id _ => (after.addressIds id).drop (before.addressIds id).length
  | .associateRule _ _ =>
    (after.associations.drop before.associations.length).map AssociationRecord.id
  | _ => []

inductive Holds (registry : Registry) (id : String) : Prop where
  | live (kind : ArnKind) (live : registry.Live id kind)
  | address (owner : String) (member : id ∈ registry.addressIds owner)
  | association (member : id ∈ registry.associations.map AssociationRecord.id)

structure Coherent (site : Site) (registry : Registry) : Prop where
  endpointKeyed : ∀ id stored, registry.endpoints.get? id = some stored → stored.record.id = id
  ruleKeyed : ∀ id record, registry.rules.get? id = some record → record.id = id
  tagged : ∀ arn, registry.tags.get? arn ≠ none ↔
    (∃ id stored, registry.endpoints.get? id = some stored ∧ stored.record.arn = arn) ∨
      ∃ id record, registry.rules.get? id = some record ∧ record.arn = arn
  endpointTokens : ∀ token id,
    (registry.endpointTokens.get? token).map TokenEntry.id = some id ↔
      (registry.endpoints.get? id).map (fun stored => stored.record.creatorRequestId) = some token
  ruleTokens : ∀ token id, (registry.ruleTokens.get? token).map TokenEntry.id = some id ↔
    (registry.rules.get? id).map RuleRecord.creatorRequestId = some token
  counted : ∀ id stored, registry.endpoints.get? id = some stored →
    stored.record.ipAddressCount = stored.addresses.length % Nat.pow 2 32 ∧
      (stored.addresses.length < Nat.pow 2 32 →
        stored.record.ipAddressCount = stored.addresses.length) ∧
      2 ≤ stored.addresses.length
  owned : ∀ association ∈ registry.associations,
    ∃ record, registry.rules.get? association.ruleId = some record
  /-- An active association is the last one of its rule and network, and the only one active. -/
  single : ∀ before association after,
    registry.associations = before ++ association :: after → isActive association = true →
      (∀ other ∈ after, ¬(other.ruleId = association.ruleId ∧ other.vpcId = association.vpcId)) ∧
      ∀ other ∈ before, other.ruleId = association.ruleId → other.vpcId = association.vpcId →
        isActive other = false
  forwards : ∀ id record, registry.rules.get? id = some record → record.ruleType = .forward →
    record.resolverEndpointId ≠ none ∧ record.targetIps ≠ []

section Coherence

variable {site : Site} {registry : Registry}

theorem Valid.tagged_iff (valid : registry.Valid site) (arn : String) :
    registry.tags.get? arn ≠ none ↔
      (∃ id stored, registry.endpoints.get? id = some stored ∧ stored.record.arn = arn) ∨
        ∃ id record, registry.rules.get? id = some record ∧ record.arn = arn := by
  refine (valid.tagged arn).trans ⟨?_, ?_⟩
  · rintro ⟨kind, id, live, rfl⟩
    cases kind with
    | endpoint =>
      obtain ⟨stored, held⟩ := Option.ne_none_iff_exists'.1 live
      exact .inl ⟨id, stored, held, (valid.endpoint id stored held).arn⟩
    | rule =>
      obtain ⟨record, held⟩ := Option.ne_none_iff_exists'.1 live
      exact .inr ⟨id, record, held, (valid.rule id record held).arn⟩
  · rintro (⟨id, stored, held, rfl⟩ | ⟨id, record, held, rfl⟩)
    · exact ⟨.endpoint, id, by simp [Live, held], (valid.endpoint id stored held).arn⟩
    · exact ⟨.rule, id, by simp [Live, held], (valid.rule id record held).arn⟩

theorem Valid.coherent (valid : registry.Valid site) : registry.Coherent site where
  endpointKeyed id stored held := (valid.endpoint id stored held).keyed
  ruleKeyed id record held := (valid.rule id record held).keyed
  tagged := valid.tagged_iff
  endpointTokens := valid.endpointTokens.map_eq_some_iff
  ruleTokens := valid.ruleTokens.map_eq_some_iff
  counted id stored held := by
    have fits := valid.endpoint id stored held
    exact ⟨fits.counted, fun few => fits.counted.trans (addressCount_of_lt few), fits.enough⟩
  owned association member := Option.ne_none_iff_exists'.1 (valid.owned association member)
  single before association after shape active := by
    -- Of two associations of one rule and network, only the later one can be active, so an active
    -- one has none behind it.
    have ordered := valid.ordered
    rw [shape, List.pairwise_append, List.pairwise_cons] at ordered
    constructor
    · rintro other member ⟨rule, vpc⟩
      have inactive := ordered.2.1.1 other member rule.symm vpc.symm
      simp [active] at inactive
    · exact fun other member => ordered.2.2 other member association List.mem_cons_self
  forwards id record held := (valid.rule id record held).forwards

end Coherence

section Issuance

variable {site : Site} {now : Timestamp} {registry after : Registry}

@[simp]
theorem issued_self (registry : Registry) (call : Call) : issued registry registry call = [] := by
  cases call with
  | createEndpoint request =>
    cases known : registry.endpointTokens.get? request.creatorRequestId <;> simp [issued, known]
  | createRule request =>
    cases known : registry.ruleTokens.get? request.creatorRequestId <;> simp [issued, known]
  | _ => simp [issued]

theorem map_idNumber_allocateAll (requests : List AddressRequest) (registry : Registry) :
    ((allocateAll now requests registry).1.map Address.ipId).map idNumber =
      List.range' (registry.serial + 1) requests.length := by
  induction requests generalizing registry with
  | nil => rfl
  | cons request rest ih =>
    rw [allocateAll]
    simp only [List.map_cons, ih, List.length_cons, List.range'_succ]
    simp [allocate, issue, idNumber_idText]

theorem issued_addEndpoint {request : EndpointRequest} {stored : StoredEndpoint} (tags : Tags)
    (unknown : registry.endpointTokens.get? request.creatorRequestId = none)
    (meets : stored.Meets request) (later : Registry) :
    issued registry (later.addEndpoint stored tags) (.createEndpoint request) =
      stored.record.id :: stored.addresses.map Address.ipId := by
  simp [issued, unknown, addEndpoint, putEndpoint, addressIds, meets.token]

theorem map_idNumber_issued {call : Call} {value : call.Value}
    (done : registry.perform site now call = .ok (value, after)) :
    (issued registry after call).map idNumber =
      List.range' (registry.serial + 1) (after.serial - registry.serial) := by
  cases call with
  | getEndpoint | listAddresses | getRule | listAssociations | listTags =>
    rw [(look_eq_ok_iff.1 done).2]
    simp [issued]
  | createEndpoint request =>
    cases known : registry.endpointTokens.get? request.creatorRequestId with
    | some entry =>
      rw [((createEndpoint_of_known known).1 done).2.1]
      simp [issued, known]
    | none =>
      obtain ⟨-, -, -, rfl⟩ := (createEndpoint_of_unknown known).1 done
      rw [issued_addEndpoint _ known (newEndpoint_meets site now registry request),
        newEndpoint_snd]
      have addresses : (registry.newEndpoint site now request).1.addresses =
          (allocateAll now request.ipAddresses
            { registry with serial := registry.serial + 1 }).1 := rfl
      have used : registry.serial + 1 + request.ipAddresses.length - registry.serial =
          request.ipAddresses.length + 1 := by omega
      rw [List.map_cons, addresses, map_idNumber_allocateAll]
      simp [newEndpoint, issue, idNumber_idText, addEndpoint, putEndpoint, used, List.range'_succ]
  | createRule request =>
    cases known : registry.ruleTokens.get? request.creatorRequestId with
    | some entry =>
      rw [((createRule_of_known known).1 done).2.1]
      simp [issued, known]
    | none =>
      obtain ⟨-, -, rfl⟩ := (createRule_of_unknown known).1 done
      simp [issued, known, addRule, putRule, newRule, issue, idNumber_idText]
  | associateAddress id request =>
    obtain ⟨stored, held, effect⟩ := associateAddress_eq_ok_iff.1 done
    split at effect
    · rw [effect.2]
      simp [issued]
    · rw [effect.2]
      simp [issued, addressIds, held, grownEndpoint, withAddresses, allocate, issue,
        idNumber_idText]
  | associateRule ruleId vpcId =>
    obtain ⟨-, ⟨-, rfl⟩ | ⟨-, -, rfl⟩⟩ := associateRule_eq_ok done
    · simp [issued]
    · simp [issued, newAssociation, idNumber_idText]
  | updateEndpoint id update =>
    obtain ⟨stored, held, -, rfl⟩ := updateEndpoint_eq_ok_iff.1 done
    simp [issued]
  | deleteEndpoint id =>
    obtain ⟨stored, held, rfl⟩ := deleteEndpoint_eq_ok_iff.1 done
    simp [issued]
  | disassociateAddress id ipId =>
    obtain ⟨stored, held, effect⟩ := disassociateAddress_eq_ok_iff.1 done
    split at effect
    · rw [effect.2.2]
      simp [issued]
    · rw [effect.2]
      simp [issued]
  | updateRule id update =>
    obtain ⟨-, old, held, allowed, -, rfl⟩ := updateRule_eq_ok_iff.1 done
    simp [issued]
  | deleteRule id =>
    obtain ⟨record, held, rfl⟩ := deleteRule_eq_ok done
    simp [issued]
  | disassociateRule ruleId vpcId =>
    obtain ⟨associations, retired, rfl⟩ := disassociateRule_eq_ok_iff.1 done
    simp [issued]
  | tag arn added =>
    obtain ⟨tags, bound, rfl⟩ := tag_eq_ok_iff.1 done
    simp [issued]
  | untag arn keys =>
    obtain ⟨tags, bound, rfl⟩ := untag_eq_ok_iff.1 done
    simp [issued]

namespace Holds

variable {id : String}

theorem of_put_endpoint (registry : Registry) {key : String} {new : StoredEndpoint}
    (holds : after.Holds id)
    (endpoints : after.endpoints = registry.endpoints.insert key new)
    (rules : after.rules = registry.rules)
    (associations : after.associations = registry.associations) :
    registry.Holds id ∨ id = key ∨ id ∈ new.addresses.map Address.ipId := by
  cases holds with
  | association member => exact .inl (.association (associations ▸ member))
  | live kind live =>
    cases kind with
    | rule => exact .inl (.live .rule (by simpa [Live, rules] using live))
    | endpoint =>
      simp only [Live, endpoints, NameMap.get?_insert] at live
      split at live
      · next same => exact .inr (.inl same.symm)
      · exact .inl (.live .endpoint live)
  | address owner member =>
    simp only [addressIds, endpoints, NameMap.get?_insert] at member
    by_cases same : key = owner
    · simp only [same, ↓reduceIte] at member
      exact .inr (.inr member)
    · simp only [same, ↓reduceIte] at member
      exact .inl (.address owner member)

theorem of_put_rule (registry : Registry) {key : String} {new : RuleRecord}
    (holds : after.Holds id)
    (endpoints : after.endpoints = registry.endpoints)
    (rules : after.rules = registry.rules.insert key new)
    (associations : after.associations = registry.associations) : registry.Holds id ∨ id = key := by
  cases holds with
  | association member => exact .inl (.association (associations ▸ member))
  | address owner member =>
    rw [addressIds, endpoints] at member
    exact .inl (.address owner member)
  | live kind live =>
    cases kind with
    | endpoint => exact .inl (.live .endpoint (by simpa [Live, endpoints] using live))
    | rule =>
      simp only [Live, rules, NameMap.get?_insert] at live
      split at live
      · next same => exact .inr same.symm
      · exact .inl (.live .rule live)

theorem of_fewer (holds : after.Holds id)
    (endpoints : ∀ key stored, after.endpoints.get? key = some stored →
      registry.endpoints.get? key = some stored)
    (rules : ∀ key, after.rules.get? key ≠ none → registry.rules.get? key ≠ none)
    (associations : ∀ id, id ∈ after.associations.map AssociationRecord.id →
      id ∈ registry.associations.map AssociationRecord.id) : registry.Holds id := by
  cases holds with
  | association member => exact .association (associations id member)
  | live kind live =>
    cases kind with
    | rule => exact .live .rule (rules id live)
    | endpoint =>
      obtain ⟨stored, held⟩ := Option.ne_none_iff_exists'.1 live
      exact .live .endpoint (by simp [Live, endpoints id stored held])
  | address owner member =>
    refine .address owner ?_
    unfold addressIds at member ⊢
    split at member
    · next stored held => simpa [endpoints owner stored held] using member
    · simp at member

theorem of_replaced_endpoint {key : String} {old new : StoredEndpoint}
    (held : registry.endpoints.get? key = some old) (holds : after.Holds id)
    (endpoints : after.endpoints = registry.endpoints.insert key new)
    (rules : after.rules = registry.rules)
    (associations : after.associations = registry.associations) :
    registry.Holds id ∨ id ∈ new.addresses.map Address.ipId := by
  rcases holds.of_put_endpoint registry endpoints rules associations with before | rfl | its
  · exact .inl before
  · exact .inl (.live .endpoint (by simp [Live, held]))
  · exact .inr its

end Holds

theorem Holds.before_or_issued {call : Call} {value : call.Value} {id : String}
    (done : registry.perform site now call = .ok (value, after)) (holds : after.Holds id) :
    registry.Holds id ∨ id ∈ issued registry after call := by
  cases call with
  | getEndpoint | listAddresses | getRule | listAssociations | listTags =>
    rw [(look_eq_ok_iff.1 done).2] at holds
    exact .inl holds
  | createEndpoint request =>
    cases known : registry.endpointTokens.get? request.creatorRequestId with
    | some entry =>
      rw [((createEndpoint_of_known known).1 done).2.1] at holds
      exact .inl holds
    | none =>
      obtain ⟨-, -, -, rfl⟩ := (createEndpoint_of_unknown known).1 done
      rw [issued_addEndpoint _ known (newEndpoint_meets site now registry request)]
      rw [newEndpoint_snd] at holds
      simpa using holds.of_put_endpoint registry rfl rfl rfl
  | createRule request =>
    cases known : registry.ruleTokens.get? request.creatorRequestId with
    | some entry =>
      rw [((createRule_of_known known).1 done).2.1] at holds
      exact .inl holds
    | none =>
      obtain ⟨-, -, rfl⟩ := (createRule_of_unknown known).1 done
      have put := holds.of_put_rule registry rfl rfl rfl
      simpa [issued, known, addRule, putRule, newRule] using put
  | associateAddress key request =>
    obtain ⟨stored, held, effect⟩ := associateAddress_eq_ok_iff.1 done
    split at effect
    · rw [effect.2] at holds
      exact .inl holds
    · rw [effect.2] at holds ⊢
      rcases holds.of_replaced_endpoint held rfl rfl rfl with before | its
      · exact .inl before
      · have old : stored.addresses.map Address.ipId = registry.addressIds key := by
          rw [addressIds, held]
        simp only [grownEndpoint, withAddresses, List.map_append, List.mem_append, old] at its
        refine its.imp (.address key) fun new => ?_
        simpa [issued, addressIds, held, grownEndpoint, withAddresses] using new
  | associateRule ruleId vpcId =>
    obtain ⟨-, ⟨-, rfl⟩ | ⟨-, -, rfl⟩⟩ := associateRule_eq_ok done
    · exact .inl holds
    · cases holds with
      | live kind live => exact .inl (.live kind (by cases kind <;> exact live))
      | address owner member => exact .inl (.address owner member)
      | association member =>
        simp only [List.map_append, List.mem_append] at member
        exact member.imp .association fun new => by simpa [issued] using new
  | updateEndpoint key update =>
    obtain ⟨stored, held, -, rfl⟩ := updateEndpoint_eq_ok_iff.1 done
    rcases holds.of_replaced_endpoint held rfl rfl rfl with before | its
    · exact .inl before
    · exact .inl (.address key (by simpa [addressIds, held, updatedEndpoint] using its))
  | disassociateAddress key ipId =>
    obtain ⟨stored, held, effect⟩ := disassociateAddress_eq_ok_iff.1 done
    split at effect
    · rw [effect.2.2] at holds
      rcases holds.of_replaced_endpoint held rfl rfl rfl with before | its
      · exact .inl before
      · have fewer : (shrunkEndpoint now ipId stored).addresses.Sublist stored.addresses :=
          List.eraseP_sublist
        refine .inl (.address key ?_)
        rw [addressIds, held]
        exact (fewer.map Address.ipId).subset its
    · rw [effect.2] at holds
      exact .inl holds
  | deleteEndpoint key =>
    obtain ⟨stored, held, rfl⟩ := deleteEndpoint_eq_ok_iff.1 done
    refine .inl (holds.of_fewer (fun other found kept => ?_) (fun _ live => live)
      fun _ same => same)
    simp only [NameMap.get?_erase] at kept
    split at kept
    · cases kept
    · exact kept
  | updateRule key update =>
    obtain ⟨-, old, held, allowed, -, rfl⟩ := updateRule_eq_ok_iff.1 done
    rcases holds.of_put_rule registry rfl rfl rfl with before | rfl
    · exact .inl before
    · exact .inl (.live .rule (by simp [Live, held]))
  | deleteRule key =>
    obtain ⟨record, held, rfl⟩ := deleteRule_eq_ok done
    refine .inl (holds.of_fewer (fun _ _ same => same) (fun other live => ?_) fun id member => ?_)
    · simp only [NameMap.get?_erase] at live
      split at live
      · exact absurd rfl live
      · exact live
    · exact (List.filter_sublist.map _).subset member
  | disassociateRule ruleId vpcId =>
    obtain ⟨associations, retired, rfl⟩ := disassociateRule_eq_ok_iff.1 done
    obtain ⟨before, old, rest, shape, -, -, -, rfl⟩ := retireLast_eq_some retired
    refine .inl (holds.of_fewer (fun _ _ same => same) (fun _ live => live) fun id member => ?_)
    simpa [shape] using member
  | tag arn added =>
    obtain ⟨tags, bound, rfl⟩ := tag_eq_ok_iff.1 done
    exact .inl (holds.of_fewer (fun _ _ same => same) (fun _ live => live) fun _ same => same)
  | untag arn keys =>
    obtain ⟨tags, bound, rfl⟩ := untag_eq_ok_iff.1 done
    exact .inl (holds.of_fewer (fun _ _ same => same) (fun _ live => live) fun _ same => same)

end Issuance

end Registry

namespace World

/-- What comes of a new provider, and the ids that calls have issued on the way. -/
inductive Ledger : List String → World → Prop where
  | new {world : World} (sized : 0 < world.site.pageSize) (bare : world.registry = ∅) :
      Ledger [] world
  | begun {issued : List String} {world : World} (bounds : Bounds) (call : Call)
      (ledger : Ledger issued world) : Ledger issued (world.begin bounds call).2
  | completed {issued : List String} {world : World} (call : Call) (ledger : Ledger issued world) :
      Ledger (issued ++ world.registry.issued (world.complete call).2.registry call)
        (world.complete call).2
  | elapsed {issued : List String} {world : World} (time : Nat) (ledger : Ledger issued world) :
      Ledger issued { world with time }
  | arranged {issued : List String} {world : World} (fault : Fault)
      (ledger : Ledger issued world) :
      Ledger issued { world with journal := world.journal.failNth fault }
  | cleared {issued : List String} {world : World} (ledger : Ledger issued world) :
      Ledger issued { world with journal := world.journal.clear }
  | forced {issued : List String} {world : World} {id : String} {status : EndpointState}
      {registry : Registry} (forced : world.registry.setStatus id status = .ok registry)
      (ledger : Ledger issued world) : Ledger issued { world with registry }

namespace Ledger

variable {issued : List String} {world : World}

theorem exists_of_reachable (reached : world.Reachable) : ∃ issued, Ledger issued world := by
  induction reached with
  | new sized bare => exact ⟨[], .new sized bare⟩
  | begun bounds call _ ih => exact ih.imp fun _ => .begun bounds call
  | completed call _ ih => exact ih.elim fun _ ledger => ⟨_, ledger.completed call⟩
  | elapsed time _ ih => exact ih.imp fun _ => .elapsed time
  | arranged fault _ ih => exact ih.imp fun _ => .arranged fault
  | cleared _ ih => exact ih.imp fun _ => .cleared
  | forced forced _ ih => exact ih.imp fun _ => .forced forced

theorem reachable (ledger : Ledger issued world) : world.Reachable := by
  induction ledger with
  | new sized bare => exact .new sized bare
  | begun bounds call _ ih => exact ih.begun bounds call
  | completed call _ ih => exact ih.completed call
  | elapsed time _ ih => exact ih.elapsed time
  | arranged fault _ ih => exact ih.arranged fault
  | cleared _ ih => exact ih.cleared
  | forced forced _ ih => exact ih.forced forced

theorem numbers (ledger : Ledger issued world) :
    issued.map idNumber = List.range' 1 world.registry.serial := by
  induction ledger with
  | @new world sized bare => simp [bare, EmptyCollection.emptyCollection, Registry.empty]
  | @begun issued world bounds call ledger ih => rwa [begin_registry]
  | elapsed | arranged | cleared => assumption
  | @forced issued world id status registry forced ledger ih =>
    obtain ⟨stored, held, rfl⟩ := Registry.setStatus_eq_ok_iff.1 forced
    exact ih
  | @completed issued world call ledger ih =>
    unfold complete
    split
    · next value registry done =>
      have grown := (Registry.perform_valid ledger.reachable.valid.1 world.now call done).2
      have next : 1 + world.registry.serial = world.registry.serial + 1 := Nat.add_comm _ _
      rw [List.map_append, ih, Registry.map_idNumber_issued done, ← next, List.range'_append_1]
      congr 1
      simp only
      omega
    · simpa using ih

theorem mem_of_holds (ledger : Ledger issued world) {id : String}
    (holds : world.registry.Holds id) : id ∈ issued := by
  induction ledger with
  | new sized bare =>
    rw [bare] at holds
    cases holds with
    | live kind live => cases kind <;> exact absurd rfl live
    | address owner member => cases member
    | association member => cases member
  | begun bounds call ledger ih =>
    rw [begin_registry] at holds
    exact ih holds
  | elapsed time ledger ih => exact ih holds
  | arranged fault ledger ih => exact ih holds
  | cleared ledger ih => exact ih holds
  | forced forced ledger ih =>
    obtain ⟨stored, held, rfl⟩ := Registry.setStatus_eq_ok_iff.1 forced
    rcases holds.of_replaced_endpoint held rfl rfl rfl with before | its
    · exact ih before
    · exact ih (.address _ (by rwa [Registry.addressIds, held]))
  | @completed issued world call ledger ih =>
    unfold complete at holds ⊢
    split at holds
    · next value registry done =>
      rcases holds.before_or_issued done with before | new
      · exact List.mem_append_left _ (ih before)
      · exact List.mem_append_right _ (by simpa [done] using new)
    · exact List.mem_append_left _ (ih holds)

/-- At all times what a provider holds fits together, every id of it has been issued, and no id was
ever issued twice. -/
theorem sound (ledger : Ledger issued world) :
    world.registry.Coherent world.site ∧ issued.Nodup ∧
      ∀ id, world.registry.Holds id → id ∈ issued := by
  refine ⟨ledger.reachable.valid.1.coherent, ?_, fun id => ledger.mem_of_holds⟩
  have numbers : (issued.map idNumber).Nodup := by
    rw [ledger.numbers]
    exact List.nodup_range'
  exact List.Pairwise.of_map idNumber (fun _ _ apart same => apart (congrArg idNumber same)) numbers

end Ledger

/-- The ids that calls issue one after the other. -/
def issuedBy : World → List Call → List String
  | _, [] => []
  | world, call :: rest =>
    world.registry.issued (world.complete call).2.registry call ++
      issuedBy (world.complete call).2 rest

theorem Ledger.completeAll {issued : List String} {world : World} (ledger : Ledger issued world)
    (calls : List Call) : Ledger (issued ++ world.issuedBy calls) (world.completeAll calls) := by
  induction calls generalizing issued world with
  | nil => simpa [issuedBy, World.completeAll] using ledger
  | cons call rest ih =>
    have next := ih (ledger.completed call)
    simpa [issuedBy, World.completeAll] using next

/-- An endpoint is made, used by a rule, deleted and made again under its token; the rule is taken
from a network and given back to it. -/
def revival : List Call :=
  let endpoint : EndpointRequest :=
    { creatorRequestId := "once"
      name := "outbound"
      direction := .outbound
      endpointType := none
      securityGroupIds := ["sg-1"]
      ipAddresses := [⟨"subnet-a", none, none⟩, ⟨"subnet-b", none, none⟩]
      tags := [] }
  let rule : RuleRequest :=
    { creatorRequestId := "once"
      name := "internal"
      domainName := "corp.example."
      ruleType := .forward
      resolverEndpointId := some "rslvr-out-00000000000000001"
      targetIps := [⟨some "10.1.0.2", none, some 53⟩]
      tags := [] }
  [.createEndpoint endpoint, .createRule rule,
    .associateRule "rslvr-rr-00000000000000004" "vpc-1",
    .disassociateRule "rslvr-rr-00000000000000004" "vpc-1",
    .associateRule "rslvr-rr-00000000000000004" "vpc-1",
    .deleteEndpoint "rslvr-out-00000000000000001", .createEndpoint endpoint]

theorem sound_revival :
    still.issuedBy revival = ["rslvr-out-00000000000000001", "rni-00000000000000002",
        "rni-00000000000000003", "rslvr-rr-00000000000000004", "rslvr-rrassoc-00000000000000005",
        "rslvr-rrassoc-00000000000000006", "rslvr-out-00000000000000007",
        "rni-00000000000000008", "rni-00000000000000009"] ∧
      (still.completeAll revival).registry.Coherent still.site ∧ (still.issuedBy revival).Nodup ∧
      ∀ id, (still.completeAll revival).registry.Holds id → id ∈ still.issuedBy revival := by
  have new : Ledger [] still := .new Nat.one_pos rfl
  have ledger : Ledger (still.issuedBy revival) (still.completeAll revival) :=
    new.completeAll revival
  exact ⟨by decide +kernel, ledger.sound⟩

end World

end Converge.Provider
