import Converge.Proofs.Registry.Effects

/-! What calls do to a registry. One that deletes nothing replaces what is held under one id or
adds one thing under a new id. Everything that all calls keep is proved once for each of these
ways. -/
namespace Converge.Provider

open Converge.Resolver

namespace Registry

variable {site : Site} {registry after : Registry}

/-- The ways in which a registry changes when nothing is deleted. -/
inductive Growth (site : Site) (registry : Registry) : Registry → Prop where
  | same : Growth site registry registry
  | endpoint {id : String} {old new : StoredEndpoint} {serial : Nat}
      (held : registry.endpoints.get? id = some old) (grown : registry.serial ≤ serial)
      (fits : new.Valid site serial id)
      (token : new.record.creatorRequestId = old.record.creatorRequestId) :
      Growth site registry { registry with endpoints := registry.endpoints.insert id new, serial }
  | newEndpoint {stored : StoredEndpoint} {serial : Nat} (tags : Tags)
      (grown : registry.serial ≤ serial) (fits : stored.Valid site serial stored.record.id)
      (unknown : registry.endpointTokens.get? stored.record.creatorRequestId = none)
      (fresh : ¬Issued registry.serial stored.record.id) :
      Growth site registry (addEndpoint { registry with serial } stored tags)
  | rule {id : String} {old new : RuleRecord} (held : registry.rules.get? id = some old)
      (fits : new.Valid site registry.serial id)
      (token : new.creatorRequestId = old.creatorRequestId) :
      Growth site registry { registry with rules := registry.rules.insert id new }
  | newRule {record : RuleRecord} {serial : Nat} (tags : Tags)
      (grown : registry.serial ≤ serial) (fits : record.Valid site serial record.id)
      (unknown : registry.ruleTokens.get? record.creatorRequestId = none)
      (fresh : ¬Issued registry.serial record.id) :
      Growth site registry (addRule { registry with serial } record tags)
  | association {association : AssociationRecord} (live : registry.Live association.ruleId .rule)
      (named : association.id = idText "rslvr-rrassoc" (registry.serial + 1))
      (inactive : ∀ other ∈ registry.associations, other.ruleId = association.ruleId →
        other.vpcId = association.vpcId → isActive other = false) :
      Growth site registry { registry with
        associations := registry.associations ++ [association]
        serial := registry.serial + 1 }
  | retired {ruleId vpcId : String} {retired : AssociationRecord}
      {associations : List AssociationRecord}
      (done : retireLast ruleId vpcId registry.associations = some (retired, associations)) :
      Growth site registry { registry with associations }
  | retagged {arn : String} (bound : registry.tags.get? arn ≠ none) (tags : Tags) :
      Growth site registry { registry with tags := registry.tags.insert arn tags }

namespace Growth

theorem valid (valid : registry.Valid site) (growth : Growth site registry after) :
    after.Valid site := by
  cases growth with
  | same => exact valid
  | endpoint held grown fits token => exact (valid.raise grown).replaceEndpoint held fits token
  | newEndpoint tags grown fits unknown fresh =>
    refine (valid.raise grown).addEndpoint tags fits unknown ?_
    refine Option.eq_none_iff_forall_ne_some.2 fun stored held => fresh ?_
    exact (valid.endpoint _ stored held).issued
  | rule held fits token => exact valid.replaceRule held fits token
  | newRule tags grown fits unknown fresh =>
    refine (valid.raise grown).addRule tags fits unknown ?_
    refine Option.eq_none_iff_forall_ne_some.2 fun record held => fresh ?_
    exact (valid.rule _ record held).issued
  | association live named inactive => exact valid.addAssociation live named inactive
  | retired done => exact valid.retire done
  | retagged bound tags => exact valid.retag bound tags

theorem serial_le (growth : Growth site registry after) : registry.serial ≤ after.serial := by
  cases growth with
  | same | rule | retired | retagged => exact Nat.le_refl _
  | endpoint _ grown | newEndpoint _ grown | newRule _ grown => exact grown
  | association => exact Nat.le_succ _

theorem endpointToken (valid : registry.Valid site) (growth : Growth site registry after)
    {id token : String} (owned : registry.endpointToken id = some token) :
    after.endpointToken id = some token := by
  cases growth with
  | same | rule | newRule | association | retired | retagged => exact owned
  | @endpoint other old new serial held grown fits same =>
    simp only [Registry.endpointToken, NameMap.get?_insert] at owned ⊢
    split
    · next here =>
      rw [← here, held] at owned
      exact (congrArg some same).trans owned
    · exact owned
  | @newEndpoint stored serial tags grown fits unknown fresh =>
    obtain ⟨old, held, -⟩ := Option.map_eq_some_iff.1 owned
    have apart : stored.record.id ≠ id := fun here =>
      fresh (here ▸ (valid.endpoint id old held).issued)
    simp only [Registry.endpointToken, addEndpoint, putEndpoint, NameMap.get?_insert, apart,
      ↓reduceIte]
    exact owned

theorem ruleToken (valid : registry.Valid site) (growth : Growth site registry after)
    {id token : String} (owned : registry.ruleToken id = some token) :
    after.ruleToken id = some token := by
  cases growth with
  | same | endpoint | newEndpoint | association | retired | retagged => exact owned
  | @rule other old new held fits same =>
    simp only [Registry.ruleToken, NameMap.get?_insert] at owned ⊢
    split
    · next here =>
      rw [← here, held] at owned
      exact (congrArg some same).trans owned
    · exact owned
  | @newRule record serial tags grown fits unknown fresh =>
    obtain ⟨old, held, -⟩ := Option.map_eq_some_iff.1 owned
    have apart : record.id ≠ id := fun here => fresh (here ▸ (valid.rule id old held).issued)
    simp only [Registry.ruleToken, addRule, putRule, NameMap.get?_insert, apart, ↓reduceIte]
    exact owned

end Growth

section Deletion

namespace Valid

theorem dropEndpoint (valid : registry.Valid site) {id : String} {stored : StoredEndpoint}
    (held : registry.endpoints.get? id = some stored) :
    Valid site { registry with
      endpoints := registry.endpoints.erase id
      tags := registry.tags.erase stored.record.arn
      endpointTokens := registry.endpointTokens.filter fun _ entry => entry.id ≠ id } where
  endpoint other kept found := by
    rw [NameMap.get?_erase] at found
    split at found
    · cases found
    · exact valid.endpoint other kept found
  rule := valid.rule
  endpointTokens := by
    have tokened := valid.endpointTokens.erase id
    refine fun token other => (tokened token other).trans ?_
    simp only [Registry.endpointToken, NameMap.get?_erase]
    split <;> rfl
  ruleTokens := valid.ruleTokens
  tagged := by
    have tagged := valid.tagged.erase .endpoint id
    rw [← (valid.endpoint id stored held).arn] at tagged
    refine tagged.congr fun other kind => ?_
    cases kind with
    | rule => simp [Live]
    | endpoint =>
      simp only [Live, NameMap.get?_erase]
      split
      · next same => simp [same]
      · next apart => simp [Ne.symm apart]
  owned := valid.owned
  ordered := valid.ordered
  listed := valid.listed
  apart := valid.apart
  associated := valid.associated

theorem dropRule (valid : registry.Valid site) {id : String} {record : RuleRecord}
    (held : registry.rules.get? id = some record) :
    Valid site { registry with
      rules := registry.rules.erase id
      tags := registry.tags.erase record.arn
      associations := registry.associations.filter fun association => association.ruleId ≠ id
      ruleTokens := registry.ruleTokens.filter fun _ entry => entry.id ≠ id } where
  endpoint := valid.endpoint
  rule other kept found := by
    rw [NameMap.get?_erase] at found
    split at found
    · cases found
    · exact valid.rule other kept found
  endpointTokens := valid.endpointTokens
  ruleTokens := by
    have tokened := valid.ruleTokens.erase id
    refine fun token other => (tokened token other).trans ?_
    simp only [Registry.ruleToken, NameMap.get?_erase]
    split <;> rfl
  tagged := by
    have tagged := valid.tagged.erase .rule id
    rw [← (valid.rule id record held).arn] at tagged
    refine tagged.congr fun other kind => ?_
    cases kind with
    | endpoint => simp [Live]
    | rule =>
      simp only [Live, NameMap.get?_erase]
      split
      · next same => simp [same]
      · next apart => simp [Ne.symm apart]
  owned association member := by
    obtain ⟨old, apart⟩ := List.mem_filter.1 member
    have live := valid.owned association old
    simp only [Live, NameMap.get?_erase] at live ⊢
    rw [if_neg (Ne.symm (of_decide_eq_true apart))]
    exact live
  ordered := valid.ordered.filter _
  listed := Nat.le_trans (List.length_filter_le _ _) valid.listed
  apart := valid.apart.sublist (List.filter_sublist.map _)
  associated association member := valid.associated association (List.mem_filter.1 member).1

end Valid

end Deletion

section Operations

variable {now : Timestamp}

namespace Valid

variable {id : String} {stored : StoredEndpoint}

theorem updatedEndpoint (valid : registry.Valid site)
    (held : registry.endpoints.get? id = some stored) (update : EndpointUpdate) :
    (updatedEndpoint now update stored).Valid site registry.serial id :=
  { valid.endpoint id stored held with }

theorem grownEndpoint (valid : registry.Valid site)
    (held : registry.endpoints.get? id = some stored) (request : AddressRequest) :
    (registry.grownEndpoint now request stored).Valid site (registry.serial + 1) id := by
  have old := valid.endpoint id stored held
  have ipId : (registry.allocate now request).1.ipId = idText "rni" (registry.serial + 1) := rfl
  have addresses : (registry.grownEndpoint now request stored).addresses =
      stored.addresses ++ [(registry.allocate now request).1] := rfl
  exact
    { old.mono (Nat.le_succ registry.serial) with
      counted := rfl
      enough := by
        rw [addresses, List.length_append]
        exact Nat.le_trans old.enough (Nat.le_add_right _ _)
      bounded := by
        rw [addresses, List.length_append]
        exact Nat.succ_le_succ old.bounded
      apart := by
        rw [addresses, List.map_append, List.map_singleton]
        refine List.nodup_append.2 ⟨old.apart, List.pairwise_singleton _ _, ?_⟩
        intro name member last here
        obtain ⟨address, present, rfl⟩ := List.mem_map.1 member
        rw [List.mem_singleton.1 here, ipId]
        exact (old.addressed address present).ne_idText _ (Nat.lt_succ_self registry.serial)
      addressed := by
        rw [addresses]
        intro address member
        rcases List.mem_append.1 member with present | new
        · exact (old.addressed address present).mono (Nat.le_succ registry.serial)
        · rw [List.mem_singleton.1 new, ipId]
          exact issued_idText _ (Nat.le_refl _) }

theorem shrunkEndpoint (valid : registry.Valid site)
    (held : registry.endpoints.get? id = some stored) {ipId : String}
    (spare : leastAddresses < stored.addresses.length) :
    (shrunkEndpoint now ipId stored).Valid site registry.serial id := by
  have old := valid.endpoint id stored held
  let gone (address : Address) : Bool := address.ipId = ipId
  have addresses : (Registry.shrunkEndpoint now ipId stored).addresses =
      stored.addresses.eraseP gone := rfl
  have shorter : (stored.addresses.eraseP gone).length ≤ stored.addresses.length :=
    List.length_eraseP_le
  have atMostOne : stored.addresses.length - 1 ≤ (stored.addresses.eraseP gone).length :=
    List.le_length_eraseP
  exact
    { old with
      counted := rfl
      enough := by
        rw [addresses]
        omega
      bounded := by
        rw [addresses]
        exact Nat.le_trans shorter old.bounded
      apart := by
        rw [addresses]
        exact old.apart.sublist ((List.eraseP_sublist).map _)
      addressed := fun address member => old.addressed address (List.mem_of_mem_eraseP member) }

theorem updatedRule (valid : registry.Valid site) {record : RuleRecord}
    (held : registry.rules.get? id = some record) {update : RuleUpdate}
    (allowed : ¬(record.ruleType = .forward ∧ update.targetIps = some [])) :
    (updatedRule now update record).Valid site registry.serial id := by
  have old := valid.rule id record held
  refine { old with forwards := fun forward => ?_ }
  obtain ⟨endpoint, targets⟩ := old.forwards forward
  constructor
  · show (update.resolverEndpointId <|> record.resolverEndpointId) ≠ none
    cases update.resolverEndpointId with
    | none => exact endpoint
    | some other => exact Option.some_ne_none other
  · show update.targetIps.getD record.targetIps ≠ []
    cases given : update.targetIps with
    | none => exact targets
    | some others => exact fun none => allowed ⟨forward, given.trans (congrArg some none)⟩

end Valid

theorem perform_growth (valid : registry.Valid site) {call : Call} {value : call.Value}
    (keeps : call.operation ≠ .deleteEndpoint ∧ call.operation ≠ .deleteRule)
    (done : registry.perform site now call = .ok (value, after)) : Growth site registry after := by
  cases call with
  | deleteEndpoint | deleteRule => simp [Call.operation] at keeps
  | getEndpoint | listAddresses | getRule | listAssociations | listTags =>
    rw [(look_eq_ok_iff.1 done).2]
    exact .same
  | createEndpoint request =>
    cases known : registry.endpointTokens.get? request.creatorRequestId with
    | some entry =>
      rw [((createEndpoint_of_known known).1 done).2.1]
      exact .same
    | none =>
      obtain ⟨enough, -, -, rfl⟩ := (createEndpoint_of_unknown known).1 done
      rw [newEndpoint_snd]
      refine .newEndpoint _ ?_ (newEndpoint_valid site now registry request enough) known ?_
      · omega
      · rintro ⟨stem, number, bound, shape⟩
        exact (issued_idText stem bound).ne_idText _ (Nat.lt_succ_self registry.serial) shape.symm
  | updateEndpoint id update =>
    obtain ⟨stored, held, -, rfl⟩ := updateEndpoint_eq_ok_iff.1 done
    exact .endpoint held (Nat.le_refl _) (valid.updatedEndpoint held update) rfl
  | associateAddress id request =>
    obtain ⟨stored, held, effect⟩ := associateAddress_eq_ok_iff.1 done
    split at effect
    · rw [effect.2]
      exact .same
    · rw [effect.2]
      exact .endpoint held (Nat.le_succ _) (valid.grownEndpoint held request) rfl
  | disassociateAddress id ipId =>
    obtain ⟨stored, held, effect⟩ := disassociateAddress_eq_ok_iff.1 done
    split at effect
    · rw [effect.2.2]
      exact .endpoint held (Nat.le_refl _) (valid.shrunkEndpoint held effect.1) rfl
    · rw [effect.2]
      exact .same
  | createRule request =>
    cases known : registry.ruleTokens.get? request.creatorRequestId with
    | some entry =>
      rw [((createRule_of_known known).1 done).2.1]
      exact .same
    | none =>
      obtain ⟨checked, -, rfl⟩ := (createRule_of_unknown known).1 done
      refine .newRule _ (Nat.le_succ _) (newRule_valid site now registry request checked) known ?_
      rintro ⟨stem, number, bound, shape⟩
      exact (issued_idText stem bound).ne_idText _ (Nat.lt_succ_self registry.serial) shape.symm
  | updateRule id update =>
    obtain ⟨-, old, held, allowed, -, rfl⟩ := updateRule_eq_ok_iff.1 done
    exact .rule held (valid.updatedRule held allowed) rfl
  | associateRule ruleId vpcId =>
    obtain ⟨live, ⟨-, rfl⟩ | ⟨none, -, rfl⟩⟩ := associateRule_eq_ok done
    · exact .same
    · refine .association live rfl fun other member rule vpc => ?_
      exact Bool.eq_false_iff.2 fun active => none other ⟨member, rule, vpc, active⟩
  | disassociateRule ruleId vpcId =>
    obtain ⟨associations, retired, rfl⟩ := disassociateRule_eq_ok_iff.1 done
    exact .retired retired
  | tag arn added =>
    obtain ⟨tags, bound, rfl⟩ := tag_eq_ok_iff.1 done
    exact .retagged (Option.ne_none_iff_exists'.2 ⟨tags, bound⟩) _
  | untag arn keys =>
    obtain ⟨tags, bound, rfl⟩ := untag_eq_ok_iff.1 done
    exact .retagged (Option.ne_none_iff_exists'.2 ⟨tags, bound⟩) _

theorem perform_valid (valid : registry.Valid site) (now : Timestamp) (call : Call)
    {value : call.Value}
    (done : registry.perform site now call = .ok (value, after)) :
    after.Valid site ∧ registry.serial ≤ after.serial := by
  by_cases keeps : call.operation ≠ .deleteEndpoint ∧ call.operation ≠ .deleteRule
  · have growth := perform_growth valid keeps done
    exact ⟨growth.valid valid, growth.serial_le⟩
  · cases call with
    | deleteEndpoint id =>
      obtain ⟨stored, held, rfl⟩ := deleteEndpoint_eq_ok_iff.1 done
      exact ⟨valid.dropEndpoint held, Nat.le_refl _⟩
    | deleteRule id =>
      obtain ⟨record, held, rfl⟩ := deleteRule_eq_ok done
      exact ⟨valid.dropRule held, Nat.le_refl _⟩
    | _ => exact absurd ⟨nofun, nofun⟩ keeps

theorem setStatus_growth (valid : registry.Valid site) {id : String} {status : EndpointState}
    (done : registry.setStatus id status = .ok after) : Growth site registry after := by
  obtain ⟨stored, held, rfl⟩ := setStatus_eq_ok_iff.1 done
  exact .endpoint held (Nat.le_refl _) { valid.endpoint id stored held with } rfl

end Operations

end Registry

end Converge.Provider
