import Converge.Proofs.Endpoint.Convergence
import Converge.Proofs.Endpoint.Tracking
import Converge.Proofs.Provider.Transcripts
import Converge.Proofs.Resumption

/-! The addresses that a pass leaves and the addresses that it reports. A sync goes by subnets: a
missing one gets an address, and one that is not desired loses one, however many it has. If no call
of the sync fails, the report counts all addresses and has the desired subnets right. -/
namespace Converge

open Provider Resolver Program

namespace Provider

/-- The call changes which addresses some endpoint has. -/
def Call.isResizing : Call → Bool
  | associateAddress _ _ | disassociateAddress _ _ => true
  | _ => false

end Provider

namespace Resolver.Endpoint

variable {site : Site} {refusal : Call → Failure → Prop} {before middle after : Registry}
  {log : Log} {id : String} {stored current : StoredEndpoint} {desired : EndpointSpec}
  {tags : Tags} {seen : Endpoint}

theorem count_subnets (subnet : String) (stored : StoredEndpoint) :
    stored.subnets.count subnet = sharing subnet stored.addresses := by
  rw [StoredEndpoint.subnets, List.count, List.countP_map, sharing]
  exact List.countP_congr fun address _ => by simp

/-- What has become of the stored addresses of an endpoint, and what its snapshot says of them. A
subnet that is not desired loses one address; so all such subnets are left, and the snapshot shows
what there is, if none of them had more. -/
structure Tallied (desired : EndpointSpec) (stored current : StoredEndpoint) (seen : Endpoint) :
    Prop where
  present : ∀ subnet ∈ desired.subnets, subnet ∈ current.subnets
  thinned : ∀ subnet ∉ desired.subnets,
    sharing subnet current.addresses = sharing subnet stored.addresses - 1
  counted : seen.status.ipAddressCount = current.addresses.length % Nat.pow 2 32
  exactly : current.addresses.length < Nat.pow 2 32 →
    seen.status.ipAddressCount = current.addresses.length
  shown : ∀ subnet ∈ desired.subnets,
    seen.spec.subnets.count subnet = current.subnets.count subnet
  settled : (∀ subnet ∉ desired.subnets, sharing subnet stored.addresses ≤ 1) →
    (∀ subnet, subnet ∈ current.subnets ↔ subnet ∈ desired.subnets) ∧
      seen.spec.subnets.Perm current.subnets

/-- How far a sync of addresses has come. An attached subnet has one address more, and a detached
one has one less. -/
structure Tallying (site : Site) (id : String) (before : Registry) (stored : StoredEndpoint)
    (progress : Progress AddressRequest String Nat) (after : Registry)
    (current : StoredEndpoint) : Prop where
  resized : Resized site id before stored after current
  counted : progress.aggregate.getD stored.record.ipAddressCount = addressCount current.addresses
  kept : ∀ address ∈ stored.addresses,
    address.subnetId ∉ progress.detached → address ∈ current.addresses
  shared : ∀ subnet,
    sharing subnet current.addresses + (if subnet ∈ progress.detached then 1 else 0) =
      sharing subnet stored.addresses +
        (progress.attached.map AddressRequest.subnetId).count subnet

namespace Tallying

variable {progress : Progress AddressRequest String Nat}

theorem start (valid : before.Valid site) (held : before.endpoints.get? id = some stored) :
    Tallying site id before stored .none before stored where
  resized := .start valid held
  counted := (valid.endpoint id stored held).counted
  kept _ member _ := member
  shared _ := rfl

theorem fail (tallying : Tallying site id before stored progress middle current)
    (failure : Failure) :
    Tallying site id before stored (progress.fail failure) middle current :=
  ⟨tallying.resized, tallying.counted, tallying.kept, tallying.shared⟩

theorem attach (tallying : Tallying site id before stored progress middle current)
    {request : AddressRequest} {now : Timestamp} {record : EndpointRecord}
    (absent : request.subnetId ∉ current.subnets)
    (done : middle.associateAddress now id request = .ok (record, after)) :
    ∃ new, Tallying site id before stored (progress.attach request (some record.ipAddressCount))
      after new := by
  have valid := (Registry.perform_valid tallying.resized.valid now (.associateAddress id request)
    done).1
  obtain ⟨found, held, effect⟩ := Registry.associateAddress_eq_ok_iff.1 done
  obtain rfl : current = found := Option.some.inj (tallying.resized.held.symm.trans held)
  obtain ⟨rfl, rfl⟩ := (if_neg absent).mp effect
  refine ⟨middle.grownEndpoint now request current, ?_, rfl, fun address member stays => ?_,
    fun subnet => ?_⟩
  · exact tallying.resized.withAddresses valid rfl now _
      ((NameMap.get?_insert _ _ _ _).trans (if_pos rfl))
  · exact List.mem_append_left _ (tallying.kept address member stays)
  · have more : ((progress.attached ++ [request]).map AddressRequest.subnetId).count subnet =
        (progress.attached.map AddressRequest.subnetId).count subnet +
          if request.subnetId = subnet then 1 else 0 := by
      simp [List.count_append, List.count_singleton]
    have grown : sharing subnet (middle.grownEndpoint now request current).addresses =
        sharing subnet current.addresses + if request.subnetId = subnet then 1 else 0 :=
      sharing_concat subnet current.addresses _
    show _ + (if subnet ∈ progress.detached then 1 else 0) =
      _ + ((progress.attached ++ [request]).map AddressRequest.subnetId).count subnet
    rw [grown, more]
    have shared := tallying.shared subnet
    omega

theorem detach (tallying : Tallying site id before stored progress middle current)
    {address : Address} {now : Timestamp} {record : EndpointRecord}
    (fresh : address.subnetId ∉ progress.detached) (member : address ∈ stored.addresses)
    (done : middle.disassociateAddress now id address.ipId = .ok (record, after)) :
    ∃ new, Tallying site id before stored
      (progress.detach address.subnetId (some record.ipAddressCount)) after new := by
  have valid := (Registry.perform_valid tallying.resized.valid now
    (.disassociateAddress id address.ipId) done).1
  obtain ⟨found, held, effect⟩ := Registry.disassociateAddress_eq_ok_iff.1 done
  obtain rfl : current = found := Option.some.inj (tallying.resized.held.symm.trans held)
  have here := tallying.kept address member fresh
  obtain ⟨-, rfl, rfl⟩ := (if_pos (List.mem_map_of_mem here)).mp effect
  have shrunk : (Registry.shrunkEndpoint now address.ipId current).addresses =
      current.addresses.erase address :=
    eraseP_ipId (tallying.resized.valid.endpoint id current tallying.resized.held).apart here
  refine ⟨Registry.shrunkEndpoint now address.ipId current, ?_, rfl, fun other old stays => ?_,
    fun subnet => ?_⟩
  · exact tallying.resized.withAddresses valid rfl now _
      ((NameMap.get?_insert _ _ _ _).trans (if_pos rfl))
  · have apart : other ≠ address := by
      rintro rfl
      exact stays (List.mem_append_right _ (List.mem_singleton_self _))
    rw [shrunk, List.mem_erase_of_ne apart]
    exact tallying.kept other old fun early => stays (List.mem_append_left _ early)
  · have shared := tallying.shared subnet
    have some : 0 < sharing address.subnetId current.addresses :=
      (sharing_pos_iff _).2 (List.mem_map_of_mem here)
    simp only [shrunk, sharing_erase subnet here, Progress.detach, List.mem_append,
      List.mem_singleton]
    by_cases same : subnet = address.subnetId
    · subst same
      simp only [fresh, if_false, or_true, if_true] at shared ⊢
      omega
    · simp only [same, or_false, if_false]
      exact shared

theorem tallied (tallying : Tallying site id before stored progress after current)
    (attached : progress.attached = (diff AddressRequest.subnetId desired.ipAddresses
      (stored.addresses.map Address.toRequest)).added)
    (detached : progress.detached = (diff AddressRequest.subnetId desired.ipAddresses
      (stored.addresses.map Address.toRequest)).removed) :
    Tallied desired stored current ((ofStored desired stored tags).withProgress progress) := by
  have gone : ∀ subnet, subnet ∈ progress.detached ↔
      subnet ∈ stored.subnets ∧ subnet ∉ desired.subnets := by
    intro subnet
    rw [detached, mem_removed_iff, map_subnetId_toRequest]
    rfl
  have come : ∀ subnet, subnet ∈ progress.attached.map AddressRequest.subnetId ↔
      subnet ∈ desired.subnets ∧ subnet ∉ stored.subnets := by
    intro subnet
    rw [attached, mem_map_added_iff, map_subnetId_toRequest]
    rfl
  have shows : ∀ subnet,
      ((ofStored desired stored tags).withProgress progress).spec.subnets.count subnet =
        (if subnet ∈ progress.detached then 0 else sharing subnet stored.addresses) +
          (progress.attached.map AddressRequest.subnetId).count subnet := by
    intro subnet
    rw [← count_subnets, ← map_subnetId_toRequest]
    exact count_mergeInto subnet
  have wanted : ∀ subnet ∈ desired.subnets, sharing subnet current.addresses =
      sharing subnet stored.addresses +
        (progress.attached.map AddressRequest.subnetId).count subnet := by
    intro subnet inside
    have shared := tallying.shared subnet
    rwa [if_neg fun lost => ((gone subnet).1 lost).2 inside] at shared
  have unwanted : ∀ subnet ∉ desired.subnets,
      (progress.attached.map AddressRequest.subnetId).count subnet = 0 := fun subnet outside =>
    List.count_eq_zero.2 fun added => outside ((come subnet).1 added).1
  have present : ∀ subnet ∈ desired.subnets, subnet ∈ current.subnets := by
    intro subnet inside
    refine (sharing_pos_iff subnet).1 ?_
    rw [wanted subnet inside]
    by_cases there : subnet ∈ stored.subnets
    · exact Nat.add_pos_left ((sharing_pos_iff subnet).2 there) _
    · exact Nat.add_pos_right _ (List.count_pos_iff.2 ((come subnet).2 ⟨inside, there⟩))
  have thinned : ∀ subnet ∉ desired.subnets,
      sharing subnet current.addresses = sharing subnet stored.addresses - 1 := by
    intro subnet outside
    have shared := tallying.shared subnet
    rw [unwanted subnet outside] at shared
    by_cases there : subnet ∈ stored.subnets
    · rw [if_pos ((gone subnet).2 ⟨there, outside⟩)] at shared
      omega
    · rw [sharing_eq_zero there] at shared ⊢
      omega
  have shown : ∀ subnet ∈ desired.subnets,
      ((ofStored desired stored tags).withProgress progress).spec.subnets.count subnet =
        current.subnets.count subnet := by
    intro subnet inside
    rw [shows, if_neg fun lost => ((gone subnet).1 lost).2 inside, count_subnets, wanted _ inside]
  refine ⟨present, thinned, tallying.counted,
    fun few => tallying.counted.trans (addressCount_of_lt few), shown, fun single => ?_⟩
  have left : ∀ subnet ∉ desired.subnets, current.subnets.count subnet = 0 := by
    intro subnet outside
    have few := single subnet outside
    rw [count_subnets, thinned subnet outside]
    omega
  refine ⟨fun subnet => ⟨fun there => ?_, present subnet⟩, List.perm_iff_count.2 fun subnet => ?_⟩
  · refine Classical.byContradiction fun outside => ?_
    exact List.count_eq_zero.1 (left subnet outside) there
  · by_cases inside : subnet ∈ desired.subnets
    · exact shown subnet inside
    · rw [shows, left subnet inside, unwanted subnet inside]
      split
      · rfl
      · next stays =>
        exact sharing_eq_zero fun there => stays ((gone subnet).2 ⟨there, inside⟩)

end Tallying

structure Accounted (site : Site) (id : String) (desired : EndpointSpec) (stored : StoredEndpoint)
    (seen : Endpoint) (after : Registry) : Prop where
  valid : after.Valid site
  named : seen.id? = some id
  tallied : ∃ current, after.endpoints.get? id = some current ∧ Tallied desired stored current seen

/-- What a sync keeps of the addresses and of the record of its calls. -/
def Counting (site : Site) (id : String) (before : Registry) (stored : StoredEndpoint)
    (progress : Progress AddressRequest String Nat) (after : Registry × Log) : Prop :=
  (∃ current, Tallying site id before stored progress after.1 current) ∧
    (Unfailing Call.isResizing after.2 → progress.failure = none)

variable {progress : Progress AddressRequest String Nat}

theorem Counting.fail (counting : Counting site id before stored progress (middle, log))
    (call : Call) (resizes : call.isResizing = true) (failure : Failure) :
    Counting site id before stored (progress.fail failure)
      (middle, log ++ [⟨call, .error failure⟩]) := by
  obtain ⟨⟨current, tallying⟩, -⟩ := counting
  refine ⟨⟨current, tallying.fail failure⟩, fun fine => ?_⟩
  obtain ⟨-, value, same⟩ := (unfailing_concat_iff log ⟨call, .error failure⟩ resizes).1 fine
  cases same

theorem always_attach_counting {request : AddressRequest} {rest : List AddressRequest}
    (planned : (diff AddressRequest.subnetId desired.ipAddresses
      (stored.addresses.map Address.toRequest)).added = progress.attached ++ request :: rest)
    (counting : Counting site id before stored progress (middle, log)) :
    ((addresses id seen).attach request).outcome.Always (traced (Answered site refusal))
      (fun reply after => match reply with
        | .ok aggregate => Counting site id before stored (progress.attach request aggregate) after
        | .error failure => Counting site id before stored (progress.fail failure) after)
      (middle, log) := by
  have ⟨⟨current, tallying⟩, smooth⟩ := counting
  have absent : request.subnetId ∉ current.subnets := by
    obtain ⟨⟨-, missing⟩, fresh⟩ := of_added_eq planned
    rw [map_subnetId_toRequest] at missing
    have none := tallying.shared request.subnetId
    rw [List.count_eq_zero.2 fresh, sharing_eq_zero missing] at none
    intro there
    have some := (sharing_pos_iff request.subnetId).2 there
    omega
  refine (Attempt.always_outcome_bind _ _ _ _).2 ?_
  rintro reply ⟨after, longer⟩ ⟨answered, record⟩
  obtain rfl : longer = log ++ [⟨.associateAddress _ request, reply⟩] := record
  cases answered with
  | done now done =>
    exact (Attempt.always_outcome_pure _ _ _).2 ⟨tallying.attach absent done,
      fun fine => smooth ((unfailing_concat_iff log _ rfl).1 fine).1⟩
  | rejected | refused => exact counting.fail _ rfl _

theorem always_detach_counting {subnet : String} {rest : List String}
    (planned : (diff AddressRequest.subnetId desired.ipAddresses
      (stored.addresses.map Address.toRequest)).removed = progress.detached ++ subnet :: rest)
    (counting : Counting site id before stored progress (middle, log)) :
    ((addresses id (ofStored desired stored tags)).detach subnet).outcome.Always
      (traced (Answered site refusal)) (fun reply after => match reply with
        | .ok aggregate => Counting site id before stored (progress.detach subnet aggregate) after
        | .error failure => Counting site id before stored (progress.fail failure) after)
      (middle, log) := by
  have ⟨⟨current, tallying⟩, smooth⟩ := counting
  obtain ⟨⟨observed, -⟩, fresh⟩ := of_removed_eq planned
  rw [map_subnetId_toRequest] at observed
  have there : subnet ∈ (ofStored desired stored tags).status.ipAddresses.map Address.subnetId :=
    observed
  obtain ⟨address, member, rfl, known⟩ := ipIdFor?_of_mem there
  have detaching : (addresses id (ofStored desired stored tags)).detach address.subnetId = (do
      let record ← ask (.disassociateAddress id address.ipId)
      pure (some record.ipAddressCount)) := by
    simp only [addresses, known]
  rw [detaching]
  refine (Attempt.always_outcome_bind _ _ _ _).2 ?_
  rintro reply ⟨after, longer⟩ ⟨answered, record⟩
  obtain rfl : longer = log ++ [⟨.disassociateAddress id address.ipId, reply⟩] := record
  cases answered with
  | done now done =>
    exact (Attempt.always_outcome_pure _ _ _).2 ⟨tallying.detach fresh member done,
      fun fine => smooth ((unfailing_concat_iff log _ rfl).1 fine).1⟩
  | rejected | refused => exact counting.fail _ rfl _

theorem always_syncAddresses_accounted (valid : before.Valid site)
    (held : before.endpoints.get? id = some stored) :
    (syncAddresses desired (ofStored desired stored tags)).Always (traced (Answered site refusal))
      (fun applied after => Unfailing Call.isResizing after.2 →
        Accounted site id desired stored applied.observed after.1) (before, log) := by
  have named : (ofStored desired stored tags).id? = some id :=
    congrArg some (valid.endpoint id stored held).keyed
  have start : Counting site id before stored .none (before, log) :=
    ⟨⟨stored, .start valid held⟩, fun _ => rfl⟩
  unfold syncAddresses
  rw [named]
  refine (always_bind _ _ _ _).2 (((Collection.always_sync_of_kept
    (Counting site id before stored) ?_ ?_ start).and Collection.always_sync_complete).imp ?_)
  · rintro progress request rest ⟨registry, log⟩ planned counting
    refine (always_attach_counting planned counting).imp fun reply after given => ?_
    cases reply <;> exact given
  · rintro progress subnet rest ⟨registry, log⟩ planned counting
    refine (always_detach_counting planned counting).imp fun reply after given => ?_
    cases reply <;> exact given
  · rintro progress after ⟨⟨⟨current, tallying⟩, smooth⟩, complete⟩
    refine (always_pure _ _ _).2 fun fine => ?_
    obtain ⟨attached, detached⟩ := complete (smooth fine)
    exact ⟨tallying.resized.valid, named, current, tallying.resized.held,
      tallying.tallied attached detached⟩

theorem always_update_accounted (refusal : Call → Failure → Prop)
    (accounted : Accounted site id desired stored seen before)
    (delta : Delta) :
    (update desired seen delta).outcome.Always (Answered site refusal)
      (fun reply after => match reply with
        | .error _ => Accounted site id desired stored seen after
        | .ok updated => Accounted site id desired stored updated after) before := by
  have ⟨valid, named, current, held, tallied⟩ := accounted
  unfold update
  rw [named]
  refine (Attempt.always_outcome_bind _ _ _ _).2 ?_
  refine (Attempt.always_outcome_ofExcept _ _ _).2 ?_
  refine (Attempt.always_outcome_bind _ _ _ _).2 (always_ask (.updateEndpoint id _)
    (fun now record after done => ?_) (fun _ _ _ => accounted) fun _ _ => accounted)
  have kept := (Registry.perform_valid valid now _ done).1
  obtain ⟨found, same, rfl, rfl⟩ := Registry.updateEndpoint_eq_ok_iff.1 done
  obtain rfl : current = found := Option.some.inj (held.symm.trans same)
  have fits := valid.endpoint id current held
  refine (Attempt.always_outcome_pure _ _ _).2 ⟨kept, congrArg some fits.keyed, _,
    (NameMap.get?_insert _ _ _ _).trans (if_pos rfl), ?_⟩
  exact
    { tallied with
      counted := fits.counted
      exactly := fun few => fits.counted.trans (addressCount_of_lt few) }

theorem always_found_accounted {paths : List String} (valid : before.Valid site)
    (held : before.endpoints.get? id = some stored)
    (tagged : before.tags.get? stored.record.arn = some tags)
    (quiet : about Call.isResizing log = []) :
    (endpointManager.part desired (Pass.update paths (ofStored desired stored tags))).Always
      (traced (Answered site refusal)) (fun result after => ∃ seen, result.observed = some seen ∧
        (about Call.isResizing after.2 ≠ [] → Unfailing Call.isResizing after.2 →
          Accounted site id desired stored seen after.1)) (before, log) := by
  refine Manager.always_update_of_stages paths
    (fun seen _ (state : Registry × Log) => about Call.isResizing state.2 = [] ∧
      state.1.Valid site ∧ state.1.endpoints.get? id = some stored ∧
      ∃ tags, seen = ofStored desired stored tags)
    (fun seen _ (state : Registry × Log) => about Call.isResizing state.2 ≠ [] →
      Unfailing Call.isResizing state.2 → Accounted site id desired stored seen state.1)
    ?_ ?_ ?_ ?_ ⟨quiet, valid, held, tags, rfl⟩
  · intro _
    have silent : (syncTags desired (ofStored desired stored tags)).outcome.Asks
        fun call => call.isResizing = false := asks_syncTags (fun _ => rfl) fun _ => rfl
    have synced : (syncTags desired (ofStored desired stored tags)).outcome.Always
        (Answered site refusal) _ before := always_syncTags tagged
    refine (((synced.and (always_valid _ valid)).traced log).and (always_about_same silent)).imp ?_
    rintro reply ⟨middle, longer⟩ ⟨⟨done, valid⟩, same⟩
    have still : about Call.isResizing longer = [] := same.trans quiet
    cases reply with
    | error failure => exact fun reached => absurd still reached
    | ok updated =>
      obtain ⟨rfl, rfl⟩ := done
      exact ⟨still, valid, held, desired.tags, rfl⟩
  · rintro seen changes delta ⟨middle, log⟩ ⟨-, valid, held, tags, rfl⟩
    refine (always_syncAddresses_accounted valid held).imp ?_
    exact fun applied after accounted _ => accounted
  · exact fun seen changes state holds reached => absurd holds.1 reached
  · rintro seen changes delta ⟨middle, log⟩ accounted
    have silent : (update desired seen delta).outcome.Asks fun call => call.isResizing = false :=
      asks_update (fun _ _ => rfl) delta
    by_cases synced : about Call.isResizing log ≠ [] ∧ Unfailing Call.isResizing log
    · have updated := always_update_accounted refusal (accounted synced.1 synced.2) delta
      refine (updated.traced log).imp fun reply after holds => ?_
      cases reply <;> exact fun _ _ => holds
    · refine (always_about_same silent).imp fun reply after same => ?_
      have unsynced : about Call.isResizing after.2 ≠ [] → Unfailing Call.isResizing after.2 →
          False := fun reached fine =>
        synced ⟨fun none => reached (same.trans none), (unfailing_congr same).1 fine⟩
      cases reply <;> exact fun reached fine => (unsynced reached fine).elim

theorem always_pass_accounted {token : Token} {last : Option Endpoint} (valid : before.Valid site)
    (sized : 0 < site.pageSize) (room : before.serial ≤ Walk.pageLimit)
    (named : last.bind id? = some id) (held : before.endpoints.get? id = some stored) :
    (endpointManager.pass desired token last).Always (traced (Answered site refusal))
      (fun result after => about Call.isResizing after.2 ≠ [] → Unfailing Call.isResizing after.2 →
        ∃ seen, result.observed = some seen ∧ Accounted site id desired stored seen after.1)
      (before, []) := by
  have looks : (observe desired last).outcome.Asks fun call => call.isResizing = false :=
    asks_observe (fun _ => rfl) (fun _ _ => rfl) (fun _ => rfl) last
  refine (Manager.always_pass token last).2
    ((((always_observe valid sized room desired last).traced []).and
      (always_about_same looks)).imp ?_)
  rintro reply ⟨middle, log⟩ ⟨⟨rfl, shows⟩, same⟩
  have quiet : about Call.isResizing log = [] := same
  match reply with
  | .error failure => exact fun reached => absurd quiet reached
  | .ok none =>
    have silent : (endpointManager.create desired token).outcome.Asks
        fun call => call.isResizing = false := Attempt.asks_bind (asks_ask rfl) fun _ => trivial
    refine (Manager.always_create last token).2 ((always_about_same silent).imp
      fun reply after same => ?_)
    have still : about Call.isResizing after.2 = [] := same.trans quiet
    cases reply with
    | error failure => exact fun reached => absurd still reached
    | ok created => exact (always_pure _ _ _).2 fun reached => absurd still reached
  | .ok (some seen) =>
    obtain ⟨tags, tagged⟩ := valid.tags_of_endpoint held
    have there : seen = ofStored desired stored tags := by
      rw [named, Option.bind_some, found_eq desired held tagged] at shows
      rcases shows with found | ⟨failure, -, none | failed⟩
      · exact Option.some.inj (Except.ok.inj found)
      · cases none
      · cases failed
    rw [there]
    refine (always_found_accounted valid held tagged quiet).imp ?_
    exact fun result after ⟨seen, shown, accounted⟩ reached fine =>
      ⟨seen, shown, accounted reached fine⟩

/-- A sync only begins if the subnets differ, so it has a call to make. After a pass in which
addresses were synced and no call of the sync failed, whatever else did, every desired subnet is
stored, and every other one has lost one address. What the pass returns counts the stored addresses
and has each desired subnet as often as it is stored; and if no other subnet had more than one
address, just the desired subnets are stored, and it lists what is stored. -/
theorem addresses_tallied {world : World} (reached : world.Reachable)
    (room : world.registry.HasRoom 0) (held : world.registry.endpoints.get? id = some stored)
    (delays : PassDelays) (desired : EndpointSpec) (bounds : Bounds) {last : Option Endpoint}
    (named : last.bind id? = some id) (prior : Conditions) :
    let pass := endpointManager.reconcile delays desired bounds last prior world
    let calls := endpointManager.calls desired bounds last world
    about Call.isResizing calls ≠ [] → Unfailing Call.isResizing calls →
    ∃ current seen, pass.2.registry.endpoints.get? id = some current ∧
      pass.1.observed = some seen ∧ Tallied desired stored current seen := by
  intro pass calls synced fine
  obtain ⟨valid, sized⟩ := reached.valid
  obtain ⟨seen, shown, accounted⟩ := World.post_run_traced anyRefusal (fun _ _ _ => trivial)
    (fun _ _ _ _ => trivial) bounds _ []
    (always_pass_accounted valid sized room.serial_le named held) synced fine
  obtain ⟨current, now, tallied⟩ := accounted.tallied
  exact ⟨current, seen, now, (PassResult.observed_conclude _ _ _ _ _).trans shown, tallied⟩

/-- A provider with an endpoint two of whose three addresses share a subnet. It cannot be updated
at first. -/
def pairedWorld : World :=
  let made := (World.still.complete (.createEndpoint
    { creatorRequestId := "inbound-0"
      name := "inbound"
      direction := .inbound
      endpointType := none
      securityGroupIds := ["sg-1"]
      ipAddresses := ["subnet-a", "subnet-b", "subnet-b"].map fun subnet => ⟨subnet, none, none⟩
      tags := [⟨"team", "net"⟩] })).2
  { made with journal := made.journal.failNth ⟨.updateEndpoint, 1, "ThrottlingException"⟩ }

theorem paired_addresses_tallied :
    let id := "rslvr-in-00000000000000001"
    let known : Endpoint := { (default : Endpoint) with status := { (default : EndpointStatus) with
      id := some id } }
    let pass := endpointManager.reconcile {} spreadEndpoint .unbounded (some known) ∅ pairedWorld
    pass.1.changes.primary = false ∧ ∃ current seen,
      pass.2.registry.endpoints.get? id = some current ∧ pass.1.observed = some seen ∧
      current.subnets.count "subnet-b" = 2 ∧
      (∀ subnet, subnet ∈ current.subnets ↔ subnet ∈ spreadEndpoint.subnets) ∧
      seen.spec.subnets.Perm current.subnets ∧
      seen.status.ipAddressCount = current.addresses.length := by
  intro id known pass
  let stored := (pairedWorld.registry.endpoints.get? id).getD default
  have reached : pairedWorld.Reachable := (World.Reachable.still.completed _).arranged _
  have subnets : stored.subnets = ["subnet-a", "subnet-b", "subnet-b"] := by decide +kernel
  have single : ∀ subnet ∉ spreadEndpoint.subnets, sharing subnet stored.addresses ≤ 1 := by
    intro subnet outside
    have other : "subnet-b" ≠ subnet := by
      rintro rfl
      exact outside (by decide +kernel)
    have counts : stored.subnets.count subnet ≤ 1 := by
      rw [subnets, List.count_cons, List.count_cons_of_ne other, List.count_cons_of_ne other]
      split <;> simp
    rw [← count_subnets]
    exact counts
  obtain ⟨current, seen, now, shown, tallied⟩ := addresses_tallied reached
    (show pairedWorld.registry.HasRoom 0 by decide +kernel)
    (show pairedWorld.registry.endpoints.get? id = some stored by decide +kernel) {}
    spreadEndpoint .unbounded (show (some known).bind id? = some id from rfl) ∅
    (by decide +kernel) (by decide +kernel)
  have settled := tallied.settled single
  have both : ∀ new, pass.2.registry.endpoints.get? id = some new →
      new.subnets.count "subnet-b" = 2 ∧ new.addresses.length < Nat.pow 2 32 := by
    have counts : (pass.2.registry.endpoints.get? id).all (fun new =>
        new.subnets.count "subnet-b" = 2 ∧ new.addresses.length < Nat.pow 2 32) = true := by
      decide +kernel
    intro new there
    simpa only [there, Option.all_some, decide_eq_true_eq] using counts
  have failed : pass.1.changes.primary = false := by decide +kernel
  simp only [pass] at failed both ⊢
  obtain ⟨twice, few⟩ := both current now
  exact ⟨failed, current, seen, now, shown, twice, settled.1, settled.2, tallied.exactly few⟩

/-- A subnet that is not desired but has three addresses keeps two of them, and the pass does not
show these, although no call has failed. -/
theorem crowded_addresses_left :
    let id := "rslvr-in-00000000000000001"
    let known : Endpoint := { (default : Endpoint) with status := { (default : EndpointStatus) with
      id := some id } }
    let pass := endpointManager.reconcile {} spreadEndpoint .unbounded (some known) ∅ crowdedWorld
    let calls := endpointManager.calls spreadEndpoint .unbounded (some known) crowdedWorld
    let current := (pass.2.registry.endpoints.get? id).getD default
    crowdedWorld.Reachable ∧ about Call.isResizing calls ≠ [] ∧ Unfailing Call.isResizing calls ∧
      ¬(∀ subnet, subnet ∈ current.subnets ↔ subnet ∈ spreadEndpoint.subnets) ∧
      ∃ seen, pass.1.observed = some seen ∧ ¬seen.spec.subnets.Perm current.subnets := by
  intro id known pass calls current
  refine ⟨World.Reachable.still.completed _, by decide +kernel, by decide +kernel, fun same => ?_,
    pass.1.observed.getD default, by decide +kernel, by decide +kernel⟩
  exact absurd ((same "subnet-a").1 (by decide +kernel)) (by decide +kernel)

end Resolver.Endpoint

end Converge
