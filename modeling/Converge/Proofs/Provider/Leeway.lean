import Converge.Proofs.Provider.Shared

/-! What calls may take away. An address, an association or a tag that is not given up stays where
it is through every call that keeps within the leeway. -/
namespace Converge.Provider

open Converge.Resolver

structure Leeway where
  ipIds : String → Prop
  vpcIds : String → Prop
  /-- The only values that tags may be set to. Tags that have one are not removed. -/
  tags : Tags

/-- The call creates and deletes no resource, and otherwise takes away only what is given up. -/
def Call.IsWithin (leeway : Leeway) : Call → Prop
  | disassociateAddress _ ipId => leeway.ipIds ipId
  | disassociateRule _ vpcId => leeway.vpcIds vpcId
  | tag _ added => ∀ tag ∈ added, leeway.tags.get? tag.key = some tag.value
  | untag _ keys => ∀ key ∈ keys, leeway.tags.get? key = none
  | call => call.isPlain = true

namespace Registry

/-- The endpoint has the address. -/
def HasAddress (registry : Registry) (id : String) (address : Address) : Prop :=
  ∃ stored, registry.endpoints.get? id = some stored ∧ address ∈ stored.addresses

def HasTag (registry : Registry) (arn key first second : String) : Prop :=
  ∃ tags, registry.tags.get? arn = some tags ∧
    (tags.get? key = some first ∨ tags.get? key = some second)

structure Spares (leeway : Leeway) (before after : Registry) : Prop where
  addresses : ∀ {id address}, before.HasAddress id address → ¬leeway.ipIds address.ipId →
    after.HasAddress id address
  associations : ∀ {association}, association ∈ before.associations →
    ¬leeway.vpcIds association.vpcId → association ∈ after.associations
  tags : ∀ {arn key first second}, before.HasTag arn key first second →
    leeway.tags.get? key = some second → after.HasTag arn key first second

variable {site : Site} {now : Timestamp} {registry after : Registry} {leeway : Leeway} {call : Call}
  {value : call.Value}

namespace Spares

theorem refl (leeway : Leeway) (registry : Registry) : registry.Spares leeway registry :=
  ⟨fun has _ => has, fun member _ => member, fun has _ => has⟩

theorem trans {first second third : Registry} (before : first.Spares leeway second)
    (after : second.Spares leeway third) : first.Spares leeway third where
  addresses has spared := after.addresses (before.addresses has spared) spared
  associations member spared := after.associations (before.associations member spared) spared
  tags has aimed := after.tags (before.tags has aimed) aimed

theorem replaceEndpoint {id : String} {old new : StoredEndpoint} {serial : Nat}
    (held : registry.endpoints.get? id = some old)
    (keeps : ∀ address ∈ old.addresses, ¬leeway.ipIds address.ipId → address ∈ new.addresses) :
    registry.Spares leeway
      { registry with endpoints := registry.endpoints.insert id new, serial } where
  addresses {other address} has spared := by
    obtain ⟨stored, there, member⟩ := has
    by_cases same : id = other
    · subst same
      cases there.symm.trans held
      exact ⟨new, (NameMap.get?_insert _ _ _ _).trans (if_pos rfl), keeps address member spared⟩
    · exact ⟨stored, (NameMap.get?_insert _ _ _ _).trans ((if_neg same).trans there), member⟩
  associations member _ := member
  tags has _ := has

theorem retag {arn : String} {old new : Tags} (held : registry.tags.get? arn = some old)
    (keeps : ∀ key aim, leeway.tags.get? key = some aim →
      new.get? key = old.get? key ∨ new.get? key = some aim) :
    registry.Spares leeway { registry with tags := registry.tags.insert arn new } where
  addresses has _ := has
  associations member _ := member
  tags {other key first second} has aimed := by
    obtain ⟨tags, there, either⟩ := has
    by_cases same : arn = other
    · subst same
      cases there.symm.trans held
      refine ⟨new, (NameMap.get?_insert _ _ _ _).trans (if_pos rfl), ?_⟩
      rcases keeps key second aimed with kept | set
      · rwa [kept]
      · exact .inr set
    · exact ⟨tags, (NameMap.get?_insert _ _ _ _).trans ((if_neg same).trans there), either⟩

theorem tag {arn : String} {added : List Tag}
    (fits : ∀ tag ∈ added, leeway.tags.get? tag.key = some tag.value)
    (done : registry.tag arn added = .ok ((), after)) : registry.Spares leeway after := by
  obtain ⟨old, held, rfl⟩ := tag_eq_ok_iff.1 done
  refine retag held fun key aim aimed => ?_
  have only : ∀ value, (key, value) ∈ added.map (fun tag => (tag.key, tag.value)) →
      value = aim := by
    intro value member
    obtain ⟨tag, listed, same⟩ := List.mem_map.1 member
    cases same
    exact Option.some.inj ((fits tag listed).symm.trans aimed)
  by_cases set : (key, aim) ∈ added.map fun tag => (tag.key, tag.value)
  · exact .inr (NameMap.get?_insertAll_of_mem set only old)
  · refine .inl (NameMap.get?_insertAll_of_notMem (fun value member => ?_) old)
    exact set (only value member ▸ member)

theorem untag {arn : String} {keys : List String}
    (fits : ∀ key ∈ keys, leeway.tags.get? key = none)
    (done : registry.untag arn keys = .ok ((), after)) : registry.Spares leeway after := by
  obtain ⟨old, held, rfl⟩ := untag_eq_ok_iff.1 done
  refine retag held fun key aim aimed => .inl ?_
  have stays : key ∉ keys := fun member => by cases (fits key member).symm.trans aimed
  exact (NameMap.get?_eraseAll keys old key).trans (if_neg stays)

theorem disassociateRule {ruleId vpcId : String} {association : AssociationRecord}
    (fits : leeway.vpcIds vpcId)
    (done : registry.disassociateRule ruleId vpcId = .ok (association, after)) :
    registry.Spares leeway after := by
  obtain ⟨associations, retired, rfl⟩ := disassociateRule_eq_ok_iff.1 done
  obtain ⟨before, old, rest, shape, -, vpc, -, rfl⟩ := retireLast_eq_some retired
  refine ⟨fun has _ => has, fun {association} member spared => ?_, fun has _ => has⟩
  have apart : association ≠ old := by
    rintro rfl
    exact spared (vpc ▸ fits)
  rw [shape] at member
  simp only [List.mem_append, List.mem_cons] at member ⊢
  exact member.imp_right fun later => .inr (later.resolve_left apart)

end Spares

theorem spares_perform (fits : call.IsWithin leeway)
    (done : registry.perform site now call = .ok (value, after)) :
    registry.Spares leeway after := by
  cases call with
  | createEndpoint | createRule | deleteEndpoint | deleteRule => cases fits
  | getEndpoint | getRule | listAddresses | listAssociations | listTags =>
    obtain ⟨-, rfl⟩ := look_eq_ok_iff.1 done
    exact .refl leeway _
  | updateEndpoint =>
    obtain ⟨old, held, -, rfl⟩ := updateEndpoint_eq_ok_iff.1 done
    exact .replaceEndpoint held fun _ member _ => member
  | associateAddress =>
    obtain ⟨old, held, effect⟩ := associateAddress_eq_ok_iff.1 done
    split at effect
    · exact effect.2 ▸ .refl leeway registry
    · exact effect.2 ▸ .replaceEndpoint held fun _ member _ => List.mem_append_left _ member
  | disassociateAddress id ipId =>
    obtain ⟨old, held, effect⟩ := disassociateAddress_eq_ok_iff.1 done
    split at effect
    · refine effect.2.2 ▸ .replaceEndpoint held fun address member spared => ?_
      have apart : address.ipId ≠ ipId := fun same => spared (same ▸ fits)
      exact (List.mem_eraseP_of_neg (by simpa using apart)).2 member
    · exact effect.2 ▸ .refl leeway registry
  | updateRule =>
    obtain ⟨-, old, -, -, -, rfl⟩ := updateRule_eq_ok_iff.1 done
    exact ⟨fun has _ => has, fun member _ => member, fun has _ => has⟩
  | associateRule =>
    obtain ⟨-, ⟨-, rfl⟩ | ⟨-, -, rfl⟩⟩ := associateRule_eq_ok done
    · exact .refl leeway _
    · exact ⟨fun has _ => has, fun member _ => List.mem_append_left _ member, fun has _ => has⟩
  | disassociateRule => exact .disassociateRule fits done
  | tag => exact .tag fits done
  | untag => exact .untag fits done

end Registry

end Converge.Provider
