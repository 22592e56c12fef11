import Converge.Proofs.Endpoint.Passes

/-! Convergence of endpoints. A pass that finds the wrong subnets attaches all that are missing and
takes one address from every subnet that is not desired, so the number of passes is bounded by the
most crowded of these. -/
namespace Converge.Resolver.Endpoint

open Converge.Provider

variable {site : Site} {refusal : Call → Failure → Prop} {registry : Registry} {id : String}
  {stored : StoredEndpoint} {tags : Tags} {desired : EndpointSpec}

/-- The largest number of stored addresses that share one subnet which is not desired. -/
def crowding (desired : EndpointSpec) (stored : StoredEndpoint) : Nat :=
  let strays := stored.subnets.filter fun subnet => subnet ∉ desired.subnets
  (strays.map fun subnet => sharing subnet stored.addresses).foldr max 0

theorem sharing_le_crowding {subnet : String} (outside : subnet ∉ desired.subnets) :
    sharing subnet stored.addresses ≤ crowding desired stored := by
  by_cases there : subnet ∈ stored.subnets
  · have stray : subnet ∈ stored.subnets.filter fun subnet => subnet ∉ desired.subnets :=
      List.mem_filter.2 ⟨there, decide_eq_true outside⟩
    have greatest : ∀ (counts : List Nat) count, count ∈ counts → count ≤ counts.foldr max 0 := by
      intro counts count member
      induction counts with
      | nil => cases member
      | cons head rest ih =>
        rcases List.mem_cons.1 member with rfl | later
        · exact Nat.le_max_left _ _
        · exact Nat.le_trans (ih later) (Nat.le_max_right _ _)
    exact greatest _ _ (List.mem_map_of_mem stray)
  · rw [sharing_eq_zero there]
    exact Nat.zero_le _

structure Reshaped (desired : EndpointSpec) (id : String) (before : Registry)
    (stored : StoredEndpoint) (result : PassResult Endpoint) (after : Registry)
    (new : StoredEndpoint) : Prop where
  named : result.observed.bind id? = some id
  ending : result.ending = .stale
  serial : after.serial ≤ before.serial + (diff AddressRequest.subnetId desired.ipAddresses
    (stored.addresses.map Address.toRequest)).added.length
  tagged : after.tags.get? stored.record.arn = some desired.tags
  held : after.endpoints.get? id = some new
  patched : Patched desired stored new
  counted : ∀ subnet ∉ desired.subnets,
    sharing subnet new.addresses = sharing subnet stored.addresses - 1
  present : ∀ subnet ∈ desired.subnets, subnet ∈ new.subnets

theorem always_updateCollections_reshaping (valid : registry.Valid site)
    (held : registry.endpoints.get? id = some stored)
    (tagged : registry.tags.get? stored.record.arn = some tags)
    (differ : ¬SubnetsAgree desired (ofStored desired stored tags))
    (two : ∃ first ∈ desired.subnets, ∃ second ∈ desired.subnets, first ≠ second)
    (changed : Bool) :
    (endpointManager.part desired (Pass.updateCollections [addressesPath]
      (delta desired (ofStored desired stored tags)) (ofStored desired stored desired.tags)
      { Changes.none with tags := changed })).Always (Answered site refusal) (fun result after =>
        result.StoppedBy refusal ∨ ∃ new, Reshaped desired id registry stored result after new)
      (registry.withTags stored.record.arn desired.tags) := by
  have named : (ofStored desired stored desired.tags).id? = some id :=
    congrArg some (valid.endpoint id stored held).keyed
  have differs : ¬SubnetsAgree desired (ofStored desired stored desired.tags) := differ
  have retagged : (registry.withTags stored.record.arn desired.tags).Valid site :=
    valid.retag (Option.ne_none_iff_exists'.2 ⟨tags, tagged⟩) desired.tags
  refine (Manager.always_updateCollections _ _ _ _).2 ?_
  rw [if_pos (Bool.ne_false_iff.1 fun same => differ ((differentAt_addresses desired _).1 same))]
  have synced := always_syncAddresses refusal (ofStored desired stored desired.tags) retagged held
    named rfl (map_subnetId_ofStored desired stored desired.tags) two
  refine (synced.and (always_syncAddresses_changed differs)).imp fun applied middle given => ?_
  obtain ⟨done, complete⟩ := given
  cases failed : applied.failure with
  | some failure =>
    simp only [failed] at done
    exact .inl ⟨failure, done, rfl⟩
  | none =>
    simp only [failed] at done
    obtain ⟨named, serial, current, resized, counted, present⟩ := done
    have patches := always_updatePrimary refusal desired (ofStored desired stored tags)
      applied.observed { Changes.none with tags := changed, collections := applied.changed }
      resized.valid resized.held named
      (fun same => absurd (complete failed) (Bool.eq_false_iff.1 same))
      (by rw [resized.settings]; rfl) (by rw [resized.settings]; rfl)
    refine patches.imp fun result after given => given.imp_right ?_
    rintro ⟨named, ending, sameTags, sameSerial, new, held, patched, addresses⟩
    refine ⟨new, named, ?_, sameSerial ▸ serial, ?_, held, ?_, ?_, ?_⟩
    · rw [ending, endingOf, if_pos (complete failed)]
    · rw [sameTags, resized.tags]
      exact (Registry.get?_withTags _ _ _ _).trans (if_pos rfl)
    · exact
        { patched with
          arn := patched.arn.trans (by rw [resized.settings])
          direction := patched.direction.trans (by rw [resized.settings])
          groups := patched.groups.trans (by rw [resized.settings])
          status := patched.status.trans (by rw [resized.settings]) }
    · rw [addresses]
      exact counted
    · rw [StoredEndpoint.subnets, addresses]
      exact present

theorem always_update_reshaping (valid : registry.Valid site)
    (held : registry.endpoints.get? id = some stored)
    (tagged : registry.tags.get? stored.record.arn = some tags)
    (immutable : checkImmutable desired (ofStored desired stored tags) = .ok ())
    (differ : ¬SubnetsAgree desired (ofStored desired stored tags))
    (two : ∃ first ∈ desired.subnets, ∃ second ∈ desired.subnets, first ≠ second) :
    (endpointManager.part desired (Pass.update [addressesPath] (ofStored desired stored
      tags))).Always (Answered site refusal) (fun result after => result.StoppedBy refusal ∨
        ∃ new, Reshaped desired id registry stored result after new) registry := by
  refine (Manager.always_update _ _).2 ?_
  rw [show endpointManager.checkImmutable desired (ofStored desired stored tags) = .ok () from
    immutable]
  have some : ¬(endpointManager.delta desired (ofStored desired stored tags)).isEmpty = true :=
    fun none => differ ((isEmpty_delta_iff desired _).1 none).2.1
  simp only [if_neg some]
  exact always_updateTags tagged
    (always_updateCollections_reshaping valid held tagged differ two)
    fun result after stopped => .inl stopped

theorem always_pass_of_held {token : Token} {last : Option Endpoint}
    {post : PassResult Endpoint → Registry → Prop} (valid : registry.Valid site)
    (sized : 0 < site.pageSize) (room : registry.serial ≤ Walk.pageLimit)
    (named : last.bind id? = some id) (held : registry.endpoints.get? id = some stored)
    (tagged : registry.tags.get? stored.record.arn = some tags)
    (next : (endpointManager.part desired (Pass.update [addressesPath] (ofStored desired stored
      tags))).Always (Answered site noRefusal) post registry) :
    (endpointManager.pass desired token last).Always (Answered site noRefusal) post registry := by
  refine (Manager.always_pass token last).2
    ((always_observe valid sized room desired last).imp ?_)
  rintro reply after ⟨rfl, same | ⟨failure, refused, -⟩⟩
  · rw [named] at same
    have there : reply = .ok (some (ofStored desired stored tags)) :=
      same.trans (congrArg Except.ok (found_eq desired held tagged))
    rw [there]
    exact next
  · exact absurd refused (not_refused failure)

/-- A series of passes over a live endpoint that is not done yet. The measure bounds what is left of
every subnet that is not desired. -/
structure Underway (desired : EndpointSpec) (id : String) (measure : Nat) (last : Option Endpoint)
    (world : World) (stored : StoredEndpoint) : Prop where
  reached : world.Reachable
  calm : world.IsCalm
  named : last.bind id? = some id
  held : world.registry.endpoints.get? id = some stored
  quiet : stored.record.status.isTransitional = false
  direction : desired.direction = stored.record.direction
  groups : ∀ group, group ∈ desired.securityGroupIds ↔ group ∈ stored.record.securityGroupIds
  crowded : ∀ subnet ∉ desired.subnets, sharing subnet stored.addresses ≤ measure
  shaped : measure = 0 → ∀ subnet ∈ desired.subnets, subnet ∈ stored.subnets
  room : world.registry.HasRoom desired.ipAddresses.length ∨
    world.registry.HasRoom 0 ∧ ∀ subnet ∈ desired.subnets, subnet ∈ stored.subnets

structure Realized (desired : EndpointSpec) (id : String) (registry : Registry)
    (stored : StoredEndpoint) : Prop where
  held : registry.endpoints.get? id = some stored
  tags : registry.tags.get? stored.record.arn = some desired.tags
  subnets : ∀ subnet, subnet ∈ stored.subnets ↔ subnet ∈ desired.subnets
  name : stored.record.name = desired.name
  endpointType : ∀ wanted ∈ desired.endpointType, stored.record.endpointType = wanted

theorem Underway.at {measure : Nat} {last : Option Endpoint} {world : World}
    (underway : Underway desired id measure last world stored) (time : Nat) :
    Underway desired id measure last { world with time } stored :=
  { underway with reached := underway.reached.elapsed time }

theorem Underway.measure_pos {measure : Nat} {last : Option Endpoint} {world : World}
    (underway : Underway desired id measure last world stored)
    (differ : ¬SubnetsAgree desired (ofStored desired stored tags)) : 0 < measure := by
  refine Nat.pos_of_ne_zero fun done => differ (subnetsAgree_ofStored_iff.2 fun subnet => ?_)
  refine ⟨underway.shaped done subnet, fun there => ?_⟩
  refine Classical.byContradiction fun outside => ?_
  have some := (sharing_pos_iff subnet).2 there
  have none := underway.crowded subnet outside
  omega

theorem Underway.hasRoom {measure : Nat} {last : Option Endpoint} {world : World}
    (underway : Underway desired id measure last world stored) {after : Registry}
    (serial : after.serial ≤ world.registry.serial + (diff AddressRequest.subnetId
      desired.ipAddresses (stored.addresses.map Address.toRequest)).added.length) :
    after.HasRoom 0 := by
  unfold Registry.HasRoom
  rcases underway.room with room | ⟨room, all⟩
  · have few := length_added_le AddressRequest.subnetId desired.ipAddresses
      (stored.addresses.map Address.toRequest)
    exact Nat.lt_of_le_of_lt (Nat.le_trans serial (Nat.add_le_add_left few _)) room
  · have nothing := added_eq_nil AddressRequest.subnetId desired.ipAddresses
      (stored.addresses.map Address.toRequest) (by rw [List.map_map]; exact all)
    rw [nothing] at serial
    exact Nat.lt_of_le_of_lt serial room

/-- A pass of a series converges, or is followed by another one that has less left to do. -/
theorem Underway.step
    (two : ∃ first ∈ desired.subnets, ∃ second ∈ desired.subnets, first ≠ second)
    (delays : PassDelays) (prior : Conditions) {measure : Nat} {last : Option Endpoint}
    {world : World} (underway : Underway desired id measure last world stored) :
    let (result, after) := endpointManager.reconcile delays desired .unbounded last prior world
    (result.outcome = .converged ∧ ∃ new, Realized desired id after.registry new) ∨
      (result.outcome = .retry (some delays.refresh) refreshReason ∧
        ∃ smaller < measure, ∃ new, Underway desired id smaller result.observed after new) := by
  let pass := endpointManager.pass desired (endpointManager.token desired world.now) last
  obtain ⟨valid, sized⟩ := underway.reached.valid
  obtain ⟨tags, tagged⟩ := valid.tags_of_endpoint underway.held
  have fits : world.registry.serial ≤ Walk.pageLimit :=
    underway.room.elim (·.serial_le) (·.1.serial_le)
  have immutable : checkImmutable desired (ofStored desired stored tags) = .ok () :=
    (checkImmutable_eq_ok_iff _ _).2 ⟨underway.direction, underway.groups⟩
  by_cases agree : SubnetsAgree desired (ofStored desired stored tags)
  · have post := World.post_run_unbounded pass underway.calm
      (always_pass_of_held valid sized fits underway.named underway.held tagged
        (always_update_of_agree valid underway.held tagged immutable agree))
    obtain ⟨-, ending, tags, new, held, patched, addresses⟩ :=
      post.resolve_left (PassResult.not_stoppedBy _)
    rw [underway.quiet] at ending
    refine .inl ⟨Manager.outcome_of_settled ending, new, held, patched.arn ▸ tags,
      fun subnet => ?_, patched.name, patched.endpointType⟩
    rw [StoredEndpoint.subnets, addresses]
    exact (subnetsAgree_ofStored_iff.1 agree subnet).symm
  · have post := World.post_run_unbounded pass underway.calm
      (always_pass_of_held valid sized fits underway.named underway.held tagged
        (always_update_reshaping valid underway.held tagged immutable agree two))
    obtain ⟨new, reshaped⟩ := post.resolve_left (PassResult.not_stoppedBy _)
    have positive := underway.measure_pos agree
    refine .inr ⟨Manager.outcome_of_stale reshaped.ending, measure - 1, by omega, new, ?_⟩
    exact
      { reached := underway.reached.run .unbounded pass
        calm := underway.calm.later World.run_later
        named := by
          rw [PassResult.observed_conclude]
          exact reshaped.named
        held := reshaped.held
        quiet := reshaped.patched.status ▸ underway.quiet
        direction := underway.direction.trans reshaped.patched.direction.symm
        groups := reshaped.patched.groups ▸ underway.groups
        crowded := fun subnet outside => by
          have before := underway.crowded subnet outside
          have after := reshaped.counted subnet outside
          omega
        shaped := fun _ => reshaped.present
        room := .inr ⟨underway.hasRoom reshaped.serial, reshaped.present⟩ }

/-- Passes that nothing disturbs make a live endpoint what is desired, whatever snapshot of it they
start from. All but the last one have to be read back, and there are at most as many of these as
addresses share one subnet that is not desired, or one if addresses are only missing. -/
theorem endpoint_series_realizes {world : World} (reached : world.Reachable) (calm : world.IsCalm)
    (held : world.registry.endpoints.get? id = some stored)
    (quiet : stored.record.status.isTransitional = false)
    (direction : desired.direction = stored.record.direction)
    (groups : ∀ group,
      group ∈ desired.securityGroupIds ↔ group ∈ stored.record.securityGroupIds)
    (two : ∃ first ∈ desired.subnets, ∃ second ∈ desired.subnets, first ≠ second)
    (room : world.registry.HasRoom desired.ipAddresses.length)
    {last : Endpoint} (named : last.id? = some id)
    (delays : PassDelays) (begins : Nat → Nat) (prior : Conditions) :
    let pass := endpointManager.series delays desired begins (some last) prior world
    ∃ count ≤ max 1 (crowding desired stored),
      (∀ earlier < count, (pass earlier).1.outcome = .retry (some delays.refresh) refreshReason) ∧
      (pass count).1.outcome = .converged ∧
      ∃ new, Realized desired id (pass count).2.registry new := by
  refine Manager.series_converges
    (fun measure last world => ∃ stored, Underway desired id measure last world stored)
    (fun world => ∃ new, Realized desired id world.registry new)
    (fun measure last prior world time good => ?_) _ begins (some last) prior world ⟨stored, ?_⟩
  · obtain ⟨stored, underway⟩ := good
    exact (underway.at time).step two delays prior
  · exact
      { reached, calm, named, held, quiet, direction, groups
        crowded := fun subnet outside =>
          Nat.le_trans (sharing_le_crowding outside) (Nat.le_max_right _ _)
        shaped := fun none => absurd none (Nat.ne_of_gt (Nat.le_max_left 1 _))
        room := .inl room }

/-- A provider with an endpoint three of whose four addresses share a subnet. -/
def crowdedWorld : World :=
  (World.still.complete (.createEndpoint
    { creatorRequestId := "inbound-0"
      name := "inbound"
      direction := .inbound
      endpointType := none
      securityGroupIds := ["sg-1"]
      ipAddresses := ["subnet-a", "subnet-a", "subnet-b", "subnet-a"].map fun subnet =>
        ⟨subnet, none, none⟩
      tags := [⟨"team", "net"⟩] })).2

/-- The same endpoint as it should be, elsewhere and under another name. -/
def spreadEndpoint : EndpointSpec where
  name := "entry"
  createdAt := none
  direction := .inbound
  endpointType := some .dualstack
  securityGroupIds := ["sg-1", "sg-1"]
  ipAddresses := ["subnet-c", "subnet-b", "subnet-c"].map fun subnet => ⟨subnet, none, none⟩
  tags := Tags.ofTags [⟨"team", "web"⟩]

theorem crowded_series_realizes :
    let id := "rslvr-in-00000000000000001"
    let stored := (crowdedWorld.registry.endpoints.get? id).getD default
    let known : Endpoint := { (default : Endpoint) with status := { (default : EndpointStatus) with
      id := some id } }
    let pass := endpointManager.series {} spreadEndpoint (fun pass => 5000 * pass) (some known) ∅
      crowdedWorld
    crowding spreadEndpoint stored = 3 ∧ ∃ count ≤ 3,
      (∀ earlier < count, (pass earlier).1.outcome = .retry (some 5000) refreshReason) ∧
      (pass count).1.outcome = .converged ∧
      ∃ new, Realized spreadEndpoint id (pass count).2.registry new := by
  intro id stored known pass
  have held : crowdedWorld.registry.endpoints.get? id = some stored := by decide +kernel
  have reached : crowdedWorld.Reachable := World.Reachable.still.completed _
  have calm : crowdedWorld.IsCalm := World.still_isCalm.later World.complete_later
  have quiet : stored.record.status.isTransitional = false := by decide +kernel
  have direction : spreadEndpoint.direction = stored.record.direction := by decide +kernel
  have groups : ∀ group,
      group ∈ spreadEndpoint.securityGroupIds ↔ group ∈ stored.record.securityGroupIds := by
    have only : stored.record.securityGroupIds = ["sg-1"] := by decide +kernel
    intro group
    rw [only]
    simp [spreadEndpoint]
  have two : ∃ first ∈ spreadEndpoint.subnets, ∃ second ∈ spreadEndpoint.subnets,
      first ≠ second := by decide +kernel
  have room : crowdedWorld.registry.HasRoom spreadEndpoint.ipAddresses.length := by decide +kernel
  have crowds : crowding spreadEndpoint stored = 3 := by decide +kernel
  have series := endpoint_series_realizes reached calm held quiet direction groups two room
    (show known.id? = some id from rfl) {} (fun pass => 5000 * pass) ∅
  rw [crowds] at series
  exact ⟨crowds, series⟩

end Converge.Resolver.Endpoint
