import Converge.Proofs.Endpoint.Convergence
import Converge.Proofs.Endpoint.Tracking
import Converge.Proofs.Moves
import Converge.Proofs.Provider.Leeway
import Converge.Proofs.Rule.Convergence
import Converge.Proofs.Rule.Tracking
import Mathlib.Data.List.Nodup

/-! What a pass leaves alone. From the moment that it has found its resource, a pass takes away
only what is not desired, so what is there and desired is there between any two of its calls,
wherever it stops. -/
namespace Converge

open Provider Resolver Program

namespace Manager

section Updates

variable {Call : Type} {Reply : Call → Type} {D O : Type} {manager : Manager Call Reply D O}
  {desired : D} {observed : O} {allowed : Call → Prop}

theorem asks_update (known : O → Prop)
    (tags : (manager.syncTags desired observed).outcome.Asks allowed)
    (tagged : (manager.syncTags desired observed).outcome.Always anyReply
      (fun reply _ => ∀ updated, reply = .ok updated → known updated) ())
    (collections : ∀ seen delta, known seen →
      (manager.syncCollections desired seen delta).Asks allowed)
    (primary : ∀ seen delta, (manager.update desired seen delta).outcome.Asks allowed)
    (start : known observed) (paths : List String) :
    (manager.part desired (Pass.update paths observed)).Asks allowed := by
  have finishes : ∀ seen changes, (manager.part desired (Pass.finish seen changes)).Asks allowed :=
    fun _ _ => by rw [part_finish]; trivial
  have patched : ∀ delta seen changes,
      (manager.part desired (Pass.updatePrimary paths delta seen changes)).Asks allowed := by
    intro delta seen changes
    unfold Pass.updatePrimary
    split
    · rw [part_step]
      refine Asks.bind (primary seen delta) fun reply => ?_
      cases reply with
      | error failure => trivial
      | ok updated => exact finishes _ _
    · exact finishes _ _
  have collected : ∀ delta seen changes, known seen →
      (manager.part desired (Pass.updateCollections paths delta seen changes)).Asks allowed := by
    intro delta seen changes holds
    unfold Pass.updateCollections
    split
    · rw [part_step]
      refine Asks.bind (collections seen delta holds) fun applied => ?_
      simp only
      split
      · trivial
      · exact patched _ _ _
    · exact patched _ _ _
  have tagging : ∀ delta,
      (manager.part desired (Pass.updateTags paths delta observed)).Asks allowed := by
    intro delta
    unfold Pass.updateTags
    split
    · rw [part_step]
      refine Asks.bind_of_always tags tagged fun reply holds => ?_
      cases reply with
      | error failure => trivial
      | ok updated => exact collected _ _ _ (holds updated rfl)
    · exact collected _ _ _ start
  unfold Pass.update
  rw [part_step]
  refine Asks.bind trivial fun reply => ?_
  cases reply with
  | error failure => trivial
  | ok =>
    simp only
    rw [part_step]
    refine Asks.bind trivial fun delta => ?_
    split
    · exact finishes _ _
    · exact tagging _

end Updates

end Manager

theorem tagDiff_isWithin {leeway : Leeway} {wanted : Tags} (aims : leeway.tags = wanted)
    (observed : Tags) (arn : String) :
    Call.IsWithin leeway (.tag arn (tagDiff wanted observed).added) ∧
      Call.IsWithin leeway (.untag arn (tagDiff wanted observed).removed) := by
  subst aims
  refine ⟨fun tag member => ?_, fun key member => ?_⟩
  · exact ((mem_added_pairs _ _ _ _).1 (List.mem_map_of_mem member)).1
  · exact ((mem_removed_tagDiff _ _ key).1 member).1

namespace Resolver

namespace Endpoint

/-- A pass over an endpoint gives up the addresses in subnets that are not desired. -/
def leeway (desired : EndpointSpec) (stored : StoredEndpoint) : Leeway where
  ipIds ipId := ∃ address ∈ stored.addresses, address.subnetId ∉ desired.subnets ∧
    address.ipId = ipId
  vpcIds _ := False
  tags := desired.tags

theorem asks_update_within (desired : EndpointSpec) (stored : StoredEndpoint) (tags : Tags) :
    (endpointManager.part desired (Pass.update endpointManager.collectionPaths
      (ofStored desired stored tags))).Asks (Call.IsWithin (leeway desired stored)) := by
  refine Manager.asks_update (fun seen => seen.status.ipAddresses = stored.addresses) ?_ ?_
    (fun seen delta known => ?_) (fun seen delta => asks_update (fun _ _ => rfl) delta) rfl _
  · exact asks_syncTags (fun arn => (tagDiff_isWithin rfl _ arn).1)
      fun arn => (tagDiff_isWithin rfl _ arn).2
  · exact always_syncTags_rest.imp fun _ _ rest updated same => by rw [rest updated same]; rfl
  · refine asks_syncAddresses (fun _ _ => rfl) fun id subnet ipId unwanted recorded => ?_
    obtain ⟨address, first, same⟩ := Option.map_eq_some_iff.1 recorded
    have lies : address.subnetId = subnet := by simpa using List.find?_some first
    exact ⟨address, known ▸ List.mem_of_find?_eq_some first, lies ▸ unwanted, same⟩

theorem not_leeway_ipIds {desired : EndpointSpec} {stored : StoredEndpoint} {address : Address}
    (apart : (stored.addresses.map Address.ipId).Nodup) (member : address ∈ stored.addresses)
    (wanted : address.subnetId ∈ desired.subnets) :
    ¬(leeway desired stored).ipIds address.ipId := by
  -- Ids are different, so what is desired is not given up.
  rintro ⟨other, there, unwanted, same⟩
  obtain rfl := List.inj_on_of_nodup_map apart there member same
  exact unwanted wanted

end Endpoint

namespace Rule

/-- A pass over a rule gives up the networks that are not desired. -/
def leeway (desired : RuleSpec) : Leeway where
  ipIds _ := False
  vpcIds vpcId := vpcId ∉ desired.vpcs
  tags := desired.tags

theorem asks_update_within (desired : RuleSpec) (observed : Rule) :
    (ruleManager.part desired (Pass.update ruleManager.collectionPaths observed)).Asks
      (Call.IsWithin (leeway desired)) := by
  refine Manager.asks_update (fun _ => True) ?_ (.of_forall fun _ _ _ _ => trivial)
    (fun seen delta _ => asks_syncAssociations (fun _ _ => rfl) fun _ _ unwanted => unwanted)
    (fun seen delta => asks_update fun _ => rfl) trivial _
  exact asks_syncTags (fun arn => (tagDiff_isWithin rfl _ arn).1)
    fun arn => (tagDiff_isWithin rfl _ arn).2

end Rule

end Resolver

namespace Manager

variable {D O : Type} {desired : D} {last : Option O} {world : World} {bounds : Bounds}

theorem spares_of_found (manager : Manager Call Call.Reply D O) {found : O} {leeway : Leeway}
    (valid : world.registry.Valid world.site)
    (finds : ((manager.observe desired last).outcome.run (World.serve bounds) world).1 =
      .ok (some found))
    (looks : (manager.observe desired last).outcome.Asks (Call.IsWithin leeway))
    (updates : (manager.part desired (Pass.update manager.collectionPaths found)).Asks
      (Call.IsWithin leeway)) :
    ∀ middle ∈ manager.worlds desired bounds last world,
      world.registry.Spares leeway middle.registry := by
  have early := World.forall_states (world.registry.Spares leeway) bounds valid looks
    (fun fits _ kept done => kept.trans (Registry.spares_perform fits done)) (.refl leeway _)
  intro middle there
  rcases mem_worlds_of_found finds there with before | later
  · exact (early middle before).2
  · have looked := early _ (run_mem_states _ _)
    have site : ((manager.observe desired last).outcome.run (World.serve bounds) world).2.site =
        world.site := World.run_later.site
    exact (World.forall_states (world.registry.Spares leeway) bounds (site ▸ looked.1) updates
      (fun fits _ kept done => kept.trans (Registry.spares_perform fits done)) looked.2 middle
      later).2

theorem found_of_run {program : Program Call Call.Reply (Except Failure (Option O))} {found : O}
    {there : Option O}
    (observes : program.Always (Answered world.site anyRefusal)
      (fun reply after => after = world.registry ∧ (reply = .ok there ∨
        ∃ failure, Refused anyRefusal failure ∧ (reply = .ok none ∨ reply = .error failure)))
      world.registry)
    (finds : (program.run (World.serve bounds) world).1 = .ok (some found)) :
    there = some found := by
  obtain ⟨-, shown | ⟨failure, -, none | failed⟩⟩ := World.post_run program anyRefusal
    (fun _ _ _ => trivial) (fun _ _ _ _ _ _ _ => trivial) observes
  · exact Except.ok.inj (shown.symm.trans finds)
  · cases none.symm.trans finds
  · cases failed.symm.trans finds

/-- A pass that has found its endpoint or rule does not disturb what is to stay, however its calls
fail. Between any two of them and at its end, every address in a desired subnet is the same as
before, so is every association with a desired network, and every key that was observed and is
desired has the one value or the other. -/
theorem undisturbed (reached : world.Reachable) (room : world.registry.HasRoom 0) :
    (∀ {desired : EndpointSpec} {last : Option Endpoint} {found : Endpoint},
      ((Endpoint.observe desired last).outcome.run (World.serve bounds) world).1 =
        .ok (some found) →
      ∃ id stored, found.id? = some id ∧ found.status.arn = some stored.record.arn ∧
        world.registry.endpoints.get? id = some stored ∧
        ∀ middle ∈ endpointManager.worlds desired bounds last world,
          (∀ address ∈ stored.addresses, address.subnetId ∈ desired.subnets →
            middle.registry.HasAddress id address) ∧
          ∀ key seen aim, found.spec.tags.get? key = some seen →
            desired.tags.get? key = some aim →
            middle.registry.HasTag stored.record.arn key seen aim) ∧
    ∀ {desired : RuleSpec} {last : Option Rule} {found : Rule},
      ((Rule.observe desired last).outcome.run (World.serve bounds) world).1 =
        .ok (some found) →
      ∃ id record, found.id? = some id ∧ found.status.arn = some record.arn ∧
        world.registry.rules.get? id = some record ∧
        ∀ middle ∈ ruleManager.worlds desired bounds last world,
          (∀ association ∈ world.registry.associations, association.ruleId = id →
            association.vpcId ∈ desired.vpcs → association ∈ middle.registry.associations) ∧
          ∀ key seen aim, found.spec.tags.get? key = some seen →
            desired.tags.get? key = some aim →
            middle.registry.HasTag record.arn key seen aim := by
  obtain ⟨valid, sized⟩ := reached.valid
  constructor
  · intro desired last found finds
    have there := found_of_run
      (Endpoint.always_observe valid sized room.serial_le desired last) finds
    obtain ⟨id, -, shown⟩ := Option.bind_eq_some_iff.1 there
    obtain ⟨stored, tags, held, tagged, rfl⟩ := Endpoint.held_of_found shown
    have fits := valid.endpoint id stored held
    have spares := spares_of_found endpointManager valid finds
      (Endpoint.asks_observe (fun _ => rfl) (fun _ _ => rfl) (fun _ => rfl) last)
      (Endpoint.asks_update_within desired stored tags)
    refine ⟨id, stored, congrArg some fits.keyed, rfl, held, fun middle member => ⟨?_, ?_⟩⟩
    · exact fun address own wanted => (spares middle member).addresses ⟨stored, held, own⟩
        (Endpoint.not_leeway_ipIds fits.apart own wanted)
    · exact fun key seen aim was aimed => (spares middle member).tags ⟨tags, tagged, .inl was⟩ aimed
  · intro desired last found finds
    have there := found_of_run
      (Rule.always_observe valid sized room.serial_le desired last) finds
    obtain ⟨id, -, shown⟩ := Option.bind_eq_some_iff.1 there
    obtain ⟨record, tags, held, tagged, rfl⟩ := Rule.held_of_found shown
    have spares := spares_of_found ruleManager valid finds
      (Rule.asks_observe (fun _ => rfl) (fun _ _ => rfl) (fun _ => rfl) last)
      (Rule.asks_update_within desired _)
    refine ⟨id, record, congrArg some (valid.rule id record held).keyed, rfl, held,
      fun middle member => ⟨?_, ?_⟩⟩
    · exact fun association own _ wanted => (spares middle member).associations own
        fun unwanted => unwanted wanted
    · exact fun key seen aim was aimed => (spares middle member).tags ⟨tags, tagged, .inl was⟩ aimed

def hampered (world : World) (operation : Operation) : World :=
  { world with journal := world.journal.failNth ⟨operation, 1, "ThrottlingException"⟩ }

def extendedRule : RuleSpec :=
  { Rule.movedRule with
    associations := [⟨"vpc-3"⟩, ⟨"vpc-1"⟩]
    tags := Tags.ofTags [⟨"team", "web"⟩] }

theorem undisturbed_hampered :
    let endpointId := "rslvr-in-00000000000000001"
    let known : Endpoint := { (default : Endpoint) with status := { (default : EndpointStatus) with
      id := some endpointId } }
    let crowded := hampered Endpoint.crowdedWorld .updateEndpoint
    let ruleId := "rslvr-rr-00000000000000004"
    let knownRule : Rule := { (default : Rule) with status := { (default : RuleStatus) with
      id := some ruleId } }
    let trail := hampered Rule.trailWorld .updateRule
    (∀ middle ∈ endpointManager.worlds Endpoint.spreadEndpoint .unbounded (some known) crowded,
      ∃ stored, middle.registry.endpoints.get? endpointId = some stored ∧
        "subnet-b" ∈ stored.subnets) ∧
    ∀ middle ∈ ruleManager.worlds extendedRule .unbounded (some knownRule) trail,
      ⟨"rslvr-rrassoc-00000000000000007", ruleId, "vpc-1", .complete, none⟩ ∈
        middle.registry.associations := by
  intro endpointId known crowded ruleId knownRule trail
  let stored := (crowded.registry.endpoints.get? endpointId).getD default
  let record := (trail.registry.rules.get? ruleId).getD default
  let tags := Tags.ofTags [⟨"team", "net"⟩]
  constructor
  · have finds : ((Endpoint.observe Endpoint.spreadEndpoint (some known)).outcome.run
        (World.serve .unbounded) crowded).1 =
          .ok (some (Endpoint.ofStored Endpoint.spreadEndpoint stored tags)) := by
      decide +kernel
    have reached : crowded.Reachable := (World.Reachable.still.completed _).arranged _
    obtain ⟨id, held, named, -, same, stays⟩ :=
      (undisturbed reached (by decide +kernel)).1 finds
    obtain rfl : endpointId = id := by
      refine Option.some.inj (Eq.trans ?_ named)
      decide +kernel
    have there : ∃ address ∈ held.addresses, address.subnetId = "subnet-b" := by
      have own : crowded.registry.endpoints.get? endpointId = some stored := by decide +kernel
      obtain rfl := Option.some.inj (own.symm.trans same)
      decide +kernel
    obtain ⟨address, own, lies⟩ := there
    intro middle member
    obtain ⟨current, now, kept⟩ := (stays middle member).1 address own (lies ▸ by decide +kernel)
    exact ⟨current, now, lies ▸ List.mem_map_of_mem kept⟩
  · have finds : ((Rule.observe extendedRule (some knownRule)).outcome.run
        (World.serve .unbounded) trail).1 =
          .ok (some (Rule.ofStored extendedRule record ["vpc-1"] tags)) := by
      decide +kernel
    have reached : trail.Reachable := (World.Reachable.still.completeAll _).arranged _
    obtain ⟨id, held, named, -, same, stays⟩ :=
      (undisturbed reached (by decide +kernel)).2 finds
    obtain rfl : ruleId = id := by
      refine Option.some.inj (Eq.trans ?_ named)
      decide +kernel
    exact fun middle member => (stays middle member).1 _ (by decide +kernel) rfl (by decide +kernel)

end Manager

end Converge
