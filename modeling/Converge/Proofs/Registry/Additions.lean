import Converge.Proofs.Registry.Valid

/-! What operations add to a registry: endpoints with new addresses, rules, associations and tags.
New ids are unlike all that were issued before, and a registry that is valid stays so. -/
namespace Converge.Provider

open Converge.Resolver

namespace Registry

section Allocation

variable (now : Timestamp) (requests : List AddressRequest) (registry : Registry)

@[simp]
theorem allocateAll_snd : (allocateAll now requests registry).2 =
    { registry with serial := registry.serial + requests.length } := by
  induction requests generalizing registry with
  | nil => rfl
  | cons request rest ih =>
    rw [allocateAll]
    simp only [ih, List.length_cons]
    have serials : registry.serial + 1 + rest.length = registry.serial + (rest.length + 1) := by
      omega
    simp only [allocate, issue, serials]

@[simp]
theorem map_subnetId_allocateAll :
    (allocateAll now requests registry).1.map Address.subnetId =
      requests.map AddressRequest.subnetId := by
  induction requests generalizing registry with
  | nil => rfl
  | cons request rest ih =>
    rw [allocateAll]
    simp only [List.map_cons, ih]
    rfl

@[simp]
theorem length_allocateAll : (allocateAll now requests registry).1.length = requests.length := by
  rw [← List.length_map Address.subnetId, map_subnetId_allocateAll, List.length_map]

theorem number_of_mem_allocateAll {address : Address}
    (member : address ∈ (allocateAll now requests registry).1) :
    ∃ number, registry.serial < number ∧ number ≤ registry.serial + requests.length ∧
      address.ipId = idText "rni" number := by
  induction requests generalizing registry with
  | nil => cases member
  | cons request rest ih =>
    rw [allocateAll] at member
    rcases List.mem_cons.1 member with rfl | later
    · exact ⟨registry.serial + 1, by omega, by simp [List.length_cons], rfl⟩
    · obtain ⟨number, above, bound, shape⟩ := ih _ later
      have beyond : registry.serial + 1 < number := above
      have within : number ≤ registry.serial + 1 + rest.length := bound
      exact ⟨number, by omega, by rw [List.length_cons]; omega, shape⟩

theorem nodup_ipId_allocateAll :
    ((allocateAll now requests registry).1.map Address.ipId).Nodup := by
  induction requests generalizing registry with
  | nil => exact List.nodup_nil
  | cons request rest ih =>
    rw [allocateAll]
    refine List.nodup_cons.2 ⟨fun member => ?_, ih _⟩
    obtain ⟨other, later, same⟩ := List.mem_map.1 member
    obtain ⟨number, above, -, shape⟩ := number_of_mem_allocateAll now rest _ later
    have first : idText "rni" (registry.serial + 1) = idText "rni" number :=
      same.symm.trans shape
    have numbers := congrArg idNumber first
    rw [idNumber_idText, idNumber_idText] at numbers
    have beyond : registry.serial + 1 < number := above
    omega

end Allocation

section Retirement

variable {ruleId vpcId : String}

theorem retireLast_eq_none_iff (associations : List AssociationRecord) :
    retireLast ruleId vpcId associations = none ↔
      ∀ association ∈ associations, ¬(association.ruleId = ruleId ∧ association.vpcId = vpcId) := by
  induction associations with
  | nil => simp [retireLast]
  | cons association others ih =>
    rw [retireLast]
    split
    · next found rest later =>
      have some : retireLast ruleId vpcId others ≠ none := by simp [later]
      simp only [reduceCtorEq, false_iff]
      exact fun all => some (ih.2 fun other member => all other (List.mem_cons_of_mem _ member))
    · next absent =>
      have rest := ih.1 absent
      split
      · next here =>
        simp only [reduceCtorEq, false_iff]
        exact fun all => all association List.mem_cons_self here
      · next apart =>
        simp only [true_iff]
        intro other member
        rcases List.mem_cons.1 member with rfl | later
        · exact apart
        · exact rest other later

theorem retireLast_eq_some {associations after : List AssociationRecord}
    {retired : AssociationRecord}
    (done : retireLast ruleId vpcId associations = some (retired, after)) :
    ∃ before old rest, associations = before ++ old :: rest ∧ old.ruleId = ruleId ∧
      old.vpcId = vpcId ∧
      (∀ other ∈ rest, ¬(other.ruleId = ruleId ∧ other.vpcId = vpcId)) ∧
      after = before ++ { old with status := .deleting } :: rest := by
  induction associations generalizing retired after with
  | nil => cases done
  | cons association others ih =>
    rw [retireLast] at done
    split at done
    · next found rest later =>
      obtain ⟨before, old, behind, shape, rule, vpc, last, result⟩ := ih later
      cases done
      exact ⟨association :: before, old, behind, by simp [shape], rule, vpc, last,
        by simp [result]⟩
    · next absent =>
      split at done
      · next here =>
        cases done
        exact ⟨[], association, others, rfl, here.1, here.2,
          (retireLast_eq_none_iff others).1 absent, rfl⟩
      · cases done

end Retirement

end Registry

structure StoredEndpoint.Meets (stored : StoredEndpoint) (request : EndpointRequest) : Prop where
  token : stored.record.creatorRequestId = request.creatorRequestId
  name : stored.record.name = request.name
  direction : stored.record.direction = request.direction
  endpointType : stored.record.endpointType = request.endpointType.getD .ipv4
  groups : stored.record.securityGroupIds = request.securityGroupIds
  subnets : stored.addresses.map Address.subnetId =
    request.ipAddresses.map AddressRequest.subnetId
  operational : stored.record.status = .operational

namespace Registry

variable {site : Site} {now : Timestamp} {registry after : Registry}

section Creation

variable (site : Site) (now : Timestamp) (registry : Registry)

theorem newEndpoint_snd (request : EndpointRequest) :
    (registry.newEndpoint site now request).2 =
      { registry with serial := registry.serial + 1 + request.ipAddresses.length } := by
  simp only [newEndpoint, allocateAll_snd]
  rfl

theorem newEndpoint_meets (request : EndpointRequest) :
    (registry.newEndpoint site now request).1.Meets request where
  token := rfl
  name := rfl
  direction := rfl
  endpointType := rfl
  groups := rfl
  subnets := map_subnetId_allocateAll now request.ipAddresses _
  operational := rfl

theorem newEndpoint_valid (request : EndpointRequest)
    (enough : leastAddresses ≤ request.ipAddresses.length) :
    (registry.newEndpoint site now request).1.Valid site
      (registry.serial + 1 + request.ipAddresses.length)
      (registry.newEndpoint site now request).1.record.id := by
  have count : (registry.newEndpoint site now request).1.addresses.length =
      request.ipAddresses.length := length_allocateAll now request.ipAddresses _
  exact
    { keyed := rfl
      issued := issued_idText _ (by omega)
      arn := rfl
      counted := rfl
      enough := by omega
      bounded := by omega
      apart := nodup_ipId_allocateAll now request.ipAddresses _
      addressed := fun address member => by
        obtain ⟨number, -, bound, shape⟩ :=
          number_of_mem_allocateAll now request.ipAddresses _ member
        exact shape ▸ issued_idText "rni" bound }

theorem newRule_valid (request : RuleRequest) (checked : registry.checkRule request = .ok ()) :
    (registry.newRule site now request).1.Valid site (registry.serial + 1)
      (registry.newRule site now request).1.id where
  keyed := rfl
  issued := issued_idText _ (Nat.le_refl _)
  arn := rfl
  complete := rfl
  forwards forward := by
    have asked : request.ruleType = .forward := forward
    have targets : (registry.newRule site now request).1.targetIps = request.targetIps := rfl
    have endpoint : (registry.newRule site now request).1.resolverEndpointId =
        request.resolverEndpointId := rfl
    rw [targets, endpoint]
    unfold checkRule at checked
    split at checked
    · cases checked
    · split at checked
      · cases checked
      · next some =>
        refine ⟨fun none => ?_, fun none => some (List.isEmpty_iff.2 none)⟩
        rw [none] at checked
        cases checked

end Creation

namespace Valid

variable {site : Site} {registry : Registry}

theorem addEndpoint (valid : registry.Valid site) {stored : StoredEndpoint} (tags : Tags)
    (fits : stored.Valid site registry.serial stored.record.id)
    (unknown : registry.endpointTokens.get? stored.record.creatorRequestId = none)
    (fresh : registry.endpoints.get? stored.record.id = none) :
    (registry.addEndpoint stored tags).Valid site where
  endpoint id other found := by
    simp only [Registry.addEndpoint, putEndpoint, NameMap.get?_insert] at found
    split at found
    · next same =>
      cases found
      exact same ▸ fits
    · exact valid.endpoint id other found
  rule := valid.rule
  endpointTokens := by
    have owner : (registry.addEndpoint stored tags).endpointToken = fun id =>
        if stored.record.id = id then some stored.record.creatorRequestId
        else registry.endpointToken id := by
      funext id
      simp only [endpointToken, Registry.addEndpoint, putEndpoint, NameMap.get?_insert]
      split <;> rfl
    rw [owner]
    exact valid.endpointTokens.insert stored.record.name unknown (by simp [endpointToken, fresh])
  ruleTokens := valid.ruleTokens
  tagged := by
    have tagged := valid.tagged.insert .endpoint stored.record.id tags
    rw [← fits.arn] at tagged
    refine tagged.congr fun id kind => ?_
    cases kind with
    | rule => simp [Live, Registry.addEndpoint, putEndpoint]
    | endpoint =>
      simp only [Live, Registry.addEndpoint, putEndpoint, NameMap.get?_insert]
      split
      · next same => simp [same]
      · next apart => simp [Ne.symm apart]
  owned := valid.owned
  ordered := valid.ordered
  listed := valid.listed
  apart := valid.apart
  associated := valid.associated

theorem addRule (valid : registry.Valid site) {record : RuleRecord} (tags : Tags)
    (fits : record.Valid site registry.serial record.id)
    (unknown : registry.ruleTokens.get? record.creatorRequestId = none)
    (fresh : registry.rules.get? record.id = none) :
    (registry.addRule record tags).Valid site where
  endpoint := valid.endpoint
  rule id other found := by
    simp only [Registry.addRule, putRule, NameMap.get?_insert] at found
    split at found
    · next same =>
      cases found
      exact same ▸ fits
    · exact valid.rule id other found
  endpointTokens := valid.endpointTokens
  ruleTokens := by
    have owner : (registry.addRule record tags).ruleToken = fun id =>
        if record.id = id then some record.creatorRequestId else registry.ruleToken id := by
      funext id
      simp only [ruleToken, Registry.addRule, putRule, NameMap.get?_insert]
      split <;> rfl
    rw [owner]
    exact valid.ruleTokens.insert record.name unknown (by simp [ruleToken, fresh])
  tagged := by
    have tagged := valid.tagged.insert .rule record.id tags
    rw [← fits.arn] at tagged
    refine tagged.congr fun id kind => ?_
    cases kind with
    | endpoint => simp [Live, Registry.addRule, putRule]
    | rule =>
      simp only [Live, Registry.addRule, putRule, NameMap.get?_insert]
      split
      · next same => simp [same]
      · next apart => simp [Ne.symm apart]
  owned association member := by
    have live := valid.owned association member
    simp only [Live, Registry.addRule, putRule, NameMap.get?_insert] at live ⊢
    split
    · exact Option.some_ne_none record
    · exact live
  ordered := valid.ordered
  listed := valid.listed
  apart := valid.apart
  associated := valid.associated

theorem addAssociation (valid : registry.Valid site) {association : AssociationRecord}
    (live : registry.Live association.ruleId .rule)
    (named : association.id = idText "rslvr-rrassoc" (registry.serial + 1))
    (inactive : ∀ other ∈ registry.associations, other.ruleId = association.ruleId →
      other.vpcId = association.vpcId → isActive other = false) :
    Valid site { registry with
      associations := registry.associations ++ [association]
      serial := registry.serial + 1 } :=
  { valid.raise (Nat.le_succ registry.serial) with
    owned := fun other member => by
      rcases List.mem_append.1 member with old | new
      · exact valid.owned other old
      · exact List.mem_singleton.1 new ▸ live
    ordered := by
      refine List.pairwise_append.2 ⟨valid.ordered, List.pairwise_singleton _ _, ?_⟩
      intro other member last here
      cases List.mem_singleton.1 here
      exact inactive other member
    listed := by
      rw [List.length_append, List.length_singleton]
      exact Nat.succ_le_succ valid.listed
    apart := by
      rw [List.map_append, List.map_singleton]
      refine List.nodup_append.2 ⟨valid.apart, List.pairwise_singleton _ _, ?_⟩
      intro id member last here
      obtain ⟨other, old, rfl⟩ := List.mem_map.1 member
      rw [List.mem_singleton.1 here, named]
      exact (valid.associated other old).ne_idText _ (Nat.lt_succ_self registry.serial)
    associated := fun other member => by
      rcases List.mem_append.1 member with old | new
      · exact (valid.associated other old).mono (Nat.le_succ registry.serial)
      · rw [List.mem_singleton.1 new, named]
        exact issued_idText _ (Nat.le_refl _) }

theorem retire (valid : registry.Valid site) {ruleId vpcId : String}
    {retired : AssociationRecord} {associations : List AssociationRecord}
    (done : retireLast ruleId vpcId registry.associations = some (retired, associations)) :
    Valid site { registry with associations } := by
  obtain ⟨before, old, rest, shape, -, -, -, rfl⟩ := retireLast_eq_some done
  have owned := valid.owned
  have ordered := valid.ordered
  have listed := valid.listed
  have apart := valid.apart
  have associated := valid.associated
  simp only [shape, List.forall_mem_append, List.forall_mem_cons] at owned associated
  rw [shape, List.pairwise_append, List.pairwise_cons] at ordered
  rw [shape, List.length_append, List.length_cons] at listed
  rw [shape, List.map_append, List.map_cons] at apart
  exact
    { valid with
      owned := by
        simp only [List.forall_mem_append, List.forall_mem_cons]
        exact owned
      ordered := by
        refine List.pairwise_append.2 ⟨ordered.1, ?_, fun earlier member later last => ?_⟩
        · exact List.pairwise_cons.2 ⟨fun _ _ _ _ => rfl, ordered.2.1.2⟩
        · rcases List.mem_cons.1 last with rfl | behind
          · exact ordered.2.2 earlier member old List.mem_cons_self
          · exact ordered.2.2 earlier member later (List.mem_cons_of_mem _ behind)
      listed := by
        rw [List.length_append, List.length_cons]
        exact listed
      apart := by
        rw [List.map_append, List.map_cons]
        exact apart
      associated := by
        simp only [List.forall_mem_append, List.forall_mem_cons]
        exact associated }

theorem retag (valid : registry.Valid site) {arn : String} (bound : registry.tags.get? arn ≠ none)
    (tags : Tags) : Valid site { registry with tags := registry.tags.insert arn tags } :=
  { valid with tagged := valid.tagged.replace bound tags }

end Valid

end Registry

end Converge.Provider
