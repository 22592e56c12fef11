import Converge.Proofs.Endpoint.Convergence
import Converge.Proofs.Endpoint.Failures
import Converge.Proofs.Moves
import Converge.Proofs.Provider.Isolation
import Converge.Proofs.Tagging

/-! The least number of addresses. Everything that is missing is attached before anything is
detached. So as long as there is an address to detach, every desired subnet has one as well, and the
endpoint has more addresses than there are desired subnets. -/
namespace Converge

open Provider Resolver Program

namespace Provider

def tooFew : Failure :=
  invalidRequest s!"an endpoint must keep at least {leastAddresses} ip addresses"

/-- The call deletes no endpoint, and detaches an address only where there are more than so many. -/
def Call.Sparing (least : Nat) : Call → Registry → Prop
  | deleteEndpoint _, _ => False
  | disassociateAddress id ipId, registry => ∀ stored, registry.endpoints.get? id = some stored →
      ipId ∈ stored.addresses.map Address.ipId → least < stored.addresses.length
  | _, _ => True

namespace Call.Sparing

variable {site : Site} {now : Timestamp} {registry after : Registry} {least few : Nat} {call : Call}
  {value : call.Value} {id : String} {stored : StoredEndpoint}

theorem perform (sparing : call.Sparing least registry) (valid : registry.Valid site)
    (held : registry.endpoints.get? id = some stored) (below : few ≤ least)
    (enough : few ≤ stored.addresses.length)
    (done : registry.perform site now call = .ok (value, after)) :
    ∃ current, after.endpoints.get? id = some current ∧ few ≤ current.addresses.length := by
  by_cases named : call.IsFor site .endpoint id
  · cases call with
    | createEndpoint | createRule => exact named.elim
    | deleteEndpoint => exact sparing.elim
    | getRule | updateRule | deleteRule | associateRule | disassociateRule | listAssociations =>
      exact nomatch named.1
    | getEndpoint | listAddresses | listTags =>
      obtain ⟨-, rfl⟩ := Registry.look_eq_ok_iff.1 done
      exact ⟨stored, held, enough⟩
    | tag arn tags =>
      obtain ⟨-, -, rfl⟩ := Registry.tag_eq_ok_iff.1 done
      exact ⟨stored, held, enough⟩
    | untag arn keys =>
      obtain ⟨-, -, rfl⟩ := Registry.untag_eq_ok_iff.1 done
      exact ⟨stored, held, enough⟩
    | updateEndpoint other update =>
      obtain ⟨-, rfl⟩ := named
      obtain ⟨found, there, -, rfl⟩ := Registry.updateEndpoint_eq_ok_iff.1 done
      obtain rfl : stored = found := Option.some.inj (held.symm.trans there)
      exact ⟨_, (NameMap.get?_insert _ _ _ _).trans (if_pos rfl), enough⟩
    | associateAddress other request =>
      obtain ⟨-, rfl⟩ := named
      obtain ⟨found, there, effect⟩ := Registry.associateAddress_eq_ok_iff.1 done
      obtain rfl : stored = found := Option.some.inj (held.symm.trans there)
      split at effect
      · rw [effect.2]
        exact ⟨stored, held, enough⟩
      · rw [effect.2]
        refine ⟨_, (NameMap.get?_insert _ _ _ _).trans (if_pos rfl), Nat.le_trans enough ?_⟩
        exact (List.sublist_append_left _ _).length_le
    | disassociateAddress other ipId =>
      obtain ⟨-, rfl⟩ := named
      obtain ⟨found, there, effect⟩ := Registry.disassociateAddress_eq_ok_iff.1 done
      obtain rfl : stored = found := Option.some.inj (held.symm.trans there)
      split at effect
      · next present =>
        rw [effect.2.2]
        refine ⟨_, (NameMap.get?_insert _ _ _ _).trans (if_pos rfl), ?_⟩
        have left : stored.addresses.length - 1 ≤
            (Registry.shrunkEndpoint now ipId stored).addresses.length := List.le_length_eraseP
        have spare := sparing stored held present
        omega
      · rw [effect.2]
        exact ⟨stored, held, enough⟩
  · have issued := (valid.endpoint id stored held).issued
    have same := Registry.share_perform valid issued.not_pending named done
    exact ⟨stored, (Share.endpoint.inj same).1.trans held, enough⟩

theorem ne_tooFew {ipId : String} (sparing : (disassociateAddress id ipId).Sparing least registry)
    (enough : leastAddresses ≤ least) :
    registry.disassociateAddress now id ipId ≠ .error tooFew := by
  cases held : registry.endpoints.get? id with
  | none =>
    have missing : registry.disassociateAddress now id ipId = .error (missingEndpoint id) := by
      simp [Registry.disassociateAddress, Registry.endpoint, held, bind, Except.bind]
    have apart : Failure.notFoundCode ≠ invalidRequestCode := by decide
    rw [missing]
    exact fun same => apart (Failure.provider.inj (Except.error.inj same)).1
  | some stored =>
    by_cases present : ipId ∈ stored.addresses.map Address.ipId
    · have spare := Nat.lt_of_le_of_lt enough (sparing stored held present)
      rw [Registry.disassociateAddress_of_present held present spare]
      intro refused
      cases refused
    · rw [Registry.disassociateAddress_of_absent held present]
      intro refused
      cases refused

end Call.Sparing

theorem Fault.failure_ne_tooFew (fault : Fault) : fault.failure ≠ tooFew := by
  have apart : ∀ operation : Operation, s!"injected failure of {operation.label}" ≠
      s!"an endpoint must keep at least {leastAddresses} ip addresses" := by
    intro operation
    cases operation <;> decide +kernel
  exact fun same => apart fault.operation (Failure.provider.inj same).2

namespace World

variable {world : World} {least : Nat} {id : String}

theorem serve_ne_tooFew {bounds : Bounds} {ipId : String}
    (sparing : (Call.disassociateAddress id ipId).Sparing least world.registry)
    (enough : leastAddresses ≤ least) :
    (world.serve bounds (.disassociateAddress id ipId)).1 ≠ .error tooFew := by
  intro same
  have answered : Answered world.site (fun _ failure => failure ≠ tooFew)
      (.disassociateAddress id ipId) world.registry
      (world.serve bounds (.disassociateAddress id ipId)).1
      (world.serve bounds (.disassociateAddress id ipId)).2.registry := by
    refine serve_answered _ (fun failure cut => ?_) fun fault _ _ _ _ => fault.failure_ne_tooFew
    rcases cut with rfl | rfl <;> exact nofun
  rw [same] at answered
  generalize (world.serve bounds _).2.registry = after at answered
  cases answered with
  | rejected now rejected => exact sparing.ne_tooFew enough rejected
  | refused other => exact other rfl

variable {α : Type} {program : Program Call Call.Reply α} {post : α → Registry → Prop}

section Runs

variable (bounds : Bounds) (valid : world.registry.Valid world.site)
  (always : program.Always (guarded (Call.Sparing least) (Answered world.site anyRefusal))
    (Within post) (some world.registry))

include valid always

theorem sparing_of_mem_moves : ∀ move ∈ program.moves (World.serve bounds) world,
    (Later world move.before ∧ move.before.registry.Valid world.site) ∧
      move.call.Sparing least move.before.registry := by
  have serves : ∀ call (middle : World), Later world middle →
      Answered world.site anyRefusal call middle.registry (middle.serve bounds call).1
        (middle.serve bounds call).2.registry := by
    intro call middle later
    rw [← later.site]
    exact answered_serve
  refine allowed_of_mem_moves World.registry
    (fun middle => Later world middle ∧ middle.registry.Valid world.site) ?_ ?_
    ⟨.refl world, valid⟩ always
  · exact fun call middle kept => ⟨.trans _ _ _ kept.1 serve_later,
      ((serves call middle kept.1).valid kept.2).1⟩
  · exact fun call middle kept => serves call middle kept.1

theorem addresses_le_of_sparing {stored : StoredEndpoint} {few : Nat}
    (held : world.registry.endpoints.get? id = some stored) (below : few ≤ least)
    (enough : few ≤ stored.addresses.length) :
    ∀ middle ∈ program.states (World.serve bounds) world, ∃ current,
      middle.registry.endpoints.get? id = some current ∧ few ≤ current.addresses.length := by
  refine forall_states_of_moves _ (fun move made holds => ?_) ⟨stored, held, enough⟩
  obtain ⟨⟨later, valid⟩, sparing⟩ := sparing_of_mem_moves bounds valid always move made
  rw [(of_mem_moves made).2]
  by_cases same : (move.before.serve bounds move.call).2.registry = move.before.registry
  · rw [same]
    exact holds
  · obtain ⟨current, held, enough⟩ := holds
    obtain ⟨now, value, done⟩ := registry_serve same
    rw [later.site] at done
    exact sparing.perform valid held below enough done

theorem ne_tooFew_of_sparing (enough : leastAddresses ≤ least) {ipId : String}
    {reply : (Call.disassociateAddress id ipId).Reply}
    (told : ⟨.disassociateAddress id ipId, reply⟩ ∈ program.transcript (World.serve bounds) world) :
    reply ≠ .error tooFew := by
  rw [transcript_eq_map_moves] at told
  obtain ⟨⟨call, before, after⟩, made, same⟩ := List.mem_map.1 told
  obtain ⟨-, sparing⟩ := sparing_of_mem_moves bounds valid always _ made
  cases same
  exact serve_ne_tooFew sparing enough

end Runs

end World

end Provider

namespace Resolver.Endpoint

variable {site : Site} {registry : Registry} {id : String} {stored : StoredEndpoint}
  {desired : EndpointSpec} {seen : Endpoint} {last : Option Endpoint} {token : Token}

theorem always_syncTags_endpoints (valid : registry.Valid site) :
    (syncTags desired seen).outcome.Always (Answered site anyRefusal)
      (fun _ after => after.Valid site ∧ after.endpoints = registry.endpoints) registry := by
  have asks : (syncTags desired seen).outcome.Asks fun call => call.isTagging = true :=
    asks_syncTags (fun _ => rfl) fun _ => rfl
  refine Asks.always_kept
    (fun after : Registry => after.Valid site ∧ after.endpoints = registry.endpoints) asks ?_
    ⟨valid, rfl⟩
  rintro call before reply after tagging ⟨valid, same⟩ answered
  refine ⟨(answered.valid valid).1, ?_⟩
  cases answered with
  | rejected | refused => exact same
  | done now done =>
    cases call with
    | tag arn tags =>
      obtain ⟨-, -, rfl⟩ := Registry.tag_eq_ok_iff.1 done
      exact same
    | untag arn keys =>
      obtain ⟨-, -, rfl⟩ := Registry.untag_eq_ok_iff.1 done
      exact same
    | _ => cases tagging

theorem always_detach_sparing {middle : Registry} {subnet : String} {done : List String}
    {attached : Nat} (two : leastAddresses ≤ desired.subnets.dedup.length)
    (among : seen.status.ipAddresses ⊆ stored.addresses)
    (there : subnet ∈ seen.status.ipAddresses.map Address.subnetId)
    (unwanted : subnet ∉ desired.subnets) (next : subnet ∉ done)
    (detached : Detaching site id registry stored desired attached done middle) :
    ((addresses id seen).detach subnet).outcome.Always
      (guarded (Call.Sparing desired.subnets.dedup.length) (Answered site anyRefusal))
      (Within fun reply after => match reply with
        | .ok _ => Detaching site id registry stored desired attached (done ++ [subnet]) after
        | .error _ => True) (some middle) := by
  have ⟨_, current, resized, kept, _, present⟩ := detached
  obtain ⟨address, -, -, known, spare⟩ := spare_of_kept among there unwanted next kept present
  have detaching : (addresses id seen).detach subnet = (do
      let record ← Provider.ask (.disassociateAddress id address.ipId)
      pure (some record.ipAddressCount)) := by
    simp only [addresses, known]
  have sparing : (Call.disassociateAddress id address.ipId).Sparing desired.subnets.dedup.length
      middle := by
    intro found held _
    obtain rfl : current = found := Option.some.inj (resized.held.symm.trans held)
    exact spare
  have shrinks : ((addresses id seen).detach subnet).outcome.Always (Answered site anyRefusal) _
      middle := always_detach_next two among there unwanted next detached
  rw [detaching] at shrinks ⊢
  have shrinks := (Attempt.always_outcome_bind _ _ _ _).1 shrinks
  refine (Attempt.always_outcome_bind _ _ _ _).2 ((shrinks.guarded_request sparing).imp ?_)
  rintro reply _ ⟨after, rfl, given⟩
  cases reply with
  | error failure => exact ⟨after, rfl, trivial⟩
  | ok record => exact ⟨after, rfl, given⟩

/-- A sync detaches addresses only after every desired subnet has got one. -/
theorem always_syncAddresses_sparing (valid : registry.Valid site)
    (held : registry.endpoints.get? id = some stored) (given : seen.IsGiven)
    (named : seen.id? = some id) (among : seen.status.ipAddresses ⊆ stored.addresses)
    (two : leastAddresses ≤ desired.subnets.dedup.length) :
    (syncAddresses desired seen).Always
      (guarded (Call.Sparing desired.subnets.dedup.length) (Answered site anyRefusal))
      (Within fun _ _ => True) (some registry) := by
  let plan := diff AddressRequest.subnetId desired.ipAddresses seen.spec.ipAddresses
  have shown : seen.spec.ipAddresses.map AddressRequest.subnetId ⊆ stored.subnets :=
    given.subnets_eq ▸ List.map_subset _ among
  unfold syncAddresses
  rw [named]
  refine (always_bind _ _ _ _).2 ((Collection.always_sync
    (fun done state => ∃ middle ∈ state, Attaching site id registry stored desired done middle)
    (fun done state => ∃ middle ∈ state,
      Detaching site id registry stored desired plan.added.length done middle)
    (fun _ state => ∃ middle, middle ∈ state) ?_ ?_ ?_ ?_).imp ?_)
  · exact ⟨registry, rfl, Nat.le_refl _, stored, [], .start valid held, (List.append_nil _).symm,
      fun _ member => absurd member List.not_mem_nil,
      fun _ member => absurd member List.not_mem_nil⟩
  · rintro done request rest _ whole ⟨middle, rfl, attached⟩
    obtain ⟨⟨asked, -⟩, -⟩ := of_added_eq whole
    have grows : ((addresses id seen).attach request).outcome.Always (Answered site anyRefusal) _
        middle := always_attach_next asked attached
    refine (grows.guarded (Attempt.asks_bind (asks_ask fun _ => trivial) fun _ => trivial)).imp ?_
    rintro reply _ ⟨after, rfl, given⟩
    cases reply with
    | error failure => exact ⟨after, rfl⟩
    | ok count => exact ⟨after, rfl, given⟩
  · rintro _ ⟨middle, rfl, attached⟩
    exact ⟨middle, rfl, detaching_of_attaching shown attached⟩
  · rintro done subnet rest _ (whole : plan.removed = done ++ subnet :: rest)
      ⟨middle, rfl, detached⟩
    obtain ⟨⟨there, unwanted⟩, next⟩ := of_removed_eq whole
    rw [given.subnets_eq] at there
    refine (always_detach_sparing two among there unwanted next detached).imp ?_
    rintro reply _ ⟨after, rfl, given⟩
    cases reply with
    | error failure => exact ⟨after, rfl⟩
    | ok count => exact ⟨after, rfl, given⟩
  · rintro progress state done
    refine (always_pure _ _ _).2 ?_
    cases failed : progress.failure with
    | some failure =>
      simp only [failed] at done
      obtain ⟨middle, rfl⟩ := done
      exact ⟨middle, rfl, trivial⟩
    | none =>
      simp only [failed] at done
      obtain ⟨⟨middle, rfl, -⟩, -⟩ := done
      exact ⟨middle, rfl, trivial⟩

theorem always_found_sparing (valid : registry.Valid site)
    (held : registry.endpoints.get? id = some stored) (given : seen.IsGiven)
    (named : seen.id? = some id) (among : seen.status.ipAddresses ⊆ stored.addresses)
    (two : leastAddresses ≤ desired.subnets.dedup.length) :
    (endpointManager.part desired (Pass.update [addressesPath] seen)).Always
      (guarded (Call.Sparing desired.subnets.dedup.length) (Answered site anyRefusal))
      (Within fun _ _ => True) (some registry) := by
  refine (Manager.always_update_of_stages [addressesPath]
    (fun seen _ state => seen.IsGiven ∧ seen.id? = some id ∧
      seen.status.ipAddresses ⊆ stored.addresses ∧ ∃ middle ∈ state, middle.Valid site ∧
        middle.endpoints.get? id = some stored)
    (fun _ _ state => ∃ middle, middle ∈ state) ?_ ?_ ?_ ?_ ?_).imp ?_
  · intro _
    have asks : (syncTags desired seen).outcome.Asks fun call =>
        ∀ state, call.Sparing desired.subnets.dedup.length state :=
      asks_syncTags (fun _ _ => trivial) fun _ _ => trivial
    refine (((always_syncTags_endpoints valid).and always_syncTags_rest).guarded asks).imp ?_
    rintro reply _ ⟨middle, rfl, ⟨valid, same⟩, rest⟩
    cases reply with
    | error failure => exact ⟨middle, rfl⟩
    | ok updated =>
      obtain rfl := rest updated rfl
      exact ⟨⟨given.named, given.located, given.shown⟩, named, among, middle, rfl, valid,
        same ▸ held⟩
  · rintro seen changes delta _ ⟨given, named, among, middle, rfl, valid, held⟩
    refine (always_syncAddresses_sparing valid held given named among two).imp ?_
    rintro applied _ ⟨after, rfl, -⟩
    exact ⟨after, rfl⟩
  · rintro seen changes _ ⟨-, -, -, middle, rfl, -⟩
    exact ⟨middle, rfl⟩
  · rintro seen changes delta _ ⟨middle, rfl⟩
    have asks : (update desired seen delta).outcome.Asks fun call =>
        ∀ state, call.Sparing desired.subnets.dedup.length state :=
      asks_update (fun _ _ _ => trivial) delta
    refine asks.always_within.imp ?_
    rintro reply _ ⟨after, rfl, -⟩
    cases reply <;> exact ⟨after, rfl⟩
  · exact ⟨given, named, among, registry, rfl, valid, held⟩
  · rintro result _ ⟨seen, -, after, rfl⟩
    exact ⟨after, rfl, trivial⟩

theorem always_pass_sparing (valid : registry.Valid site)
    (held : registry.endpoints.get? id = some stored) (named : last.bind id? = some id)
    (two : leastAddresses ≤ desired.subnets.dedup.length) :
    (endpointManager.pass desired token last).Always
      (guarded (Call.Sparing desired.subnets.dedup.length) (Answered site anyRefusal))
      (Within fun _ _ => True) (some registry) := by
  have looks : (observe desired last).outcome.Asks fun call =>
      ∀ state, call.Sparing desired.subnets.dedup.length state :=
    asks_observe (fun _ _ => trivial) (fun _ _ _ => trivial) (fun _ _ => trivial) last
  have observes : (observe desired last).outcome.Always (Answered site anyRefusal) _ registry :=
    (always_observe_shown valid desired last).and always_observe_given
  refine (Manager.always_pass token last).2 ((observes.guarded looks).imp ?_)
  rintro reply _ ⟨middle, rfl, ⟨rfl, shown⟩, given⟩
  match reply with
  | .error failure => exact ⟨middle, rfl, trivial⟩
  | .ok none =>
    have asks : (create desired token).outcome.Asks fun call =>
        ∀ state, call.Sparing desired.subnets.dedup.length state :=
      Attempt.asks_bind (asks_ask fun _ => trivial) fun _ => trivial
    refine (Manager.always_create last token).2 (asks.always_within.imp ?_)
    rintro reply _ ⟨after, rfl, -⟩
    cases reply <;> exact ⟨after, rfl, trivial⟩
  | .ok (some seen) =>
    obtain ⟨other, found, addresses, tags, same, there, -, among, rfl⟩ := shown seen rfl
    obtain rfl : other = id := Option.some.inj (same.symm.trans named)
    obtain rfl : found = stored := Option.some.inj (there.symm.trans held)
    have keyed := (valid.endpoint other found held).keyed
    exact always_found_sparing valid held (given _ rfl _ rfl) (congrArg some keyed) among two

/-- A pass that is to leave an endpoint with addresses in two subnets never asks for so much that
the provider refuses it to keep the least number of addresses, and never lacks the id of an address
that it means to detach. Between any two of its calls the endpoint has at least as many addresses as
there are desired subnets, or as many as it had. -/
theorem addresses_spared {world : World} (reached : world.Reachable)
    (held : world.registry.endpoints.get? id = some stored) (desired : EndpointSpec)
    (two : 2 ≤ desired.subnets.dedup.length) {last : Option Endpoint}
    (named : last.bind id? = some id) (bounds : Bounds) :
    let pass := endpointManager.pass desired (endpointManager.token desired world.now) last
    (∀ other ipId reply, ⟨.disassociateAddress other ipId, reply⟩ ∈
        endpointManager.calls desired bounds last world → reply ≠ .error tooFew) ∧
    (∀ subnet : String, (pass.run (World.serve bounds) world).1.ending ≠
      .failed (.validation s!"no address id recorded for subnet {subnet}")) ∧
    ∀ middle ∈ endpointManager.worlds desired bounds last world, ∃ current,
      middle.registry.endpoints.get? id = some current ∧
      min stored.addresses.length desired.subnets.dedup.length ≤ current.addresses.length := by
  intro pass
  have valid := reached.valid.1
  have spares : pass.Always _ _ (some world.registry) := always_pass_sparing valid held named two
  refine ⟨fun other ipId reply => ?_, fun subnet failed => ?_, ?_⟩
  · exact World.ne_tooFew_of_sparing bounds valid spares two
  · exact ending_ne_validation world bounds desired _ last _ failed
  · exact World.addresses_le_of_sparing bounds valid spares held (Nat.min_le_right _ _)
      (Nat.min_le_left _ _)

theorem crowded_addresses_spared :
    let id := "rslvr-in-00000000000000001"
    let known : Endpoint := { (default : Endpoint) with status := { (default : EndpointStatus) with
      id := some id } }
    let calls := endpointManager.calls spreadEndpoint .unbounded (some known) crowdedWorld
    (∃ taken ∈ calls, taken.call = .disassociateAddress id "rni-00000000000000002") ∧
    (∀ other ipId reply, ⟨.disassociateAddress other ipId, reply⟩ ∈ calls →
      reply ≠ .error tooFew) ∧
    ∀ middle ∈ endpointManager.worlds spreadEndpoint .unbounded (some known) crowdedWorld,
      ∃ current, middle.registry.endpoints.get? id = some current ∧
        2 ≤ current.addresses.length := by
  intro id known calls
  let stored := (crowdedWorld.registry.endpoints.get? id).getD default
  have reached : crowdedWorld.Reachable := World.Reachable.still.completed _
  have held : crowdedWorld.registry.endpoints.get? id = some stored := by decide +kernel
  have many : min stored.addresses.length spreadEndpoint.subnets.dedup.length = 2 := by
    decide +kernel
  obtain ⟨fine, -, left⟩ := addresses_spared reached held spreadEndpoint
    (show 2 ≤ spreadEndpoint.subnets.dedup.length by decide +kernel)
    (show (some known).bind id? = some id from rfl) .unbounded
  rw [many] at left
  exact ⟨by decide +kernel, fine, left⟩

end Resolver.Endpoint

end Converge
