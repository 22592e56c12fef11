import Converge.Proofs.Endpoint.Steps
import Mathlib.Data.List.Dedup

/-! A sync of addresses. Everything that is missing is attached first, so two desired subnets keep
an endpoint above its least size while one address of every other subnet is detached. -/
namespace Converge.Resolver.Endpoint

open Converge.Provider

section Counting

variable {address : Address} {addresses : List Address}

/-- How many addresses lie in a subnet. -/
def sharing (subnet : String) (addresses : List Address) : Nat :=
  addresses.countP fun address => address.subnetId = subnet

theorem sharing_pos_iff (subnet : String) :
    0 < sharing subnet addresses ↔ subnet ∈ addresses.map Address.subnetId := by
  simp [sharing, List.countP_pos_iff]

theorem sharing_eq_zero {subnet : String} (absent : subnet ∉ addresses.map Address.subnetId) :
    sharing subnet addresses = 0 :=
  Nat.eq_zero_of_not_pos fun some => absent ((sharing_pos_iff subnet).1 some)

theorem sharing_append_of_notMem {subnet : String} {added : List Address}
    (elsewhere : ∀ address ∈ added, address.subnetId ≠ subnet) :
    sharing subnet (addresses ++ added) = sharing subnet addresses := by
  have none : added.countP (fun address => address.subnetId = subnet) = 0 :=
    List.countP_eq_zero.2 fun address member => by simpa using elsewhere address member
  rw [sharing, List.countP_append, none]
  rfl

theorem sharing_concat (subnet : String) (addresses : List Address) (address : Address) :
    sharing subnet (addresses ++ [address]) =
      sharing subnet addresses + if address.subnetId = subnet then 1 else 0 := by
  simp [sharing, List.countP_append, List.countP_singleton]

theorem sharing_erase (subnet : String) (member : address ∈ addresses) :
    sharing subnet (addresses.erase address) =
      sharing subnet addresses - if subnet = address.subnetId then 1 else 0 := by
  have split := (List.perm_cons_erase member).countP_eq
    fun address : Address => address.subnetId = subnet
  rw [List.countP_cons] at split
  unfold sharing
  by_cases same : subnet = address.subnetId
  · simp only [same, decide_true, ↓reduceIte] at split ⊢
    omega
  · simp only [Ne.symm same, same, decide_false, Bool.false_eq_true, ↓reduceIte] at split ⊢
    omega

theorem eraseP_ipId (apart : (addresses.map Address.ipId).Nodup) (member : address ∈ addresses) :
    addresses.eraseP (fun other => other.ipId = address.ipId) = addresses.erase address := by
  induction addresses with
  | nil => rfl
  | cons first rest ih =>
    obtain ⟨fresh, others⟩ := List.nodup_cons.1 apart
    by_cases same : first = address
    · simp [same]
    · have later : address ∈ rest := (List.mem_cons.1 member).resolve_left (Ne.symm same)
      have differs : first.ipId ≠ address.ipId := fun equal =>
        fresh (equal ▸ List.mem_map_of_mem later)
      rw [List.eraseP_cons_of_neg (by simpa using differs), ih others later,
        List.erase_cons_tail (by simpa using same)]

theorem length_dedup_lt {wanted : List String} {subnet : String}
    (present : ∀ other ∈ wanted, other ∈ addresses.map Address.subnetId)
    (there : subnet ∈ addresses.map Address.subnetId) (unwanted : subnet ∉ wanted) :
    wanted.dedup.length < addresses.length := by
  -- Another subnet needs an address beside those of the wanted ones.
  have apart : (subnet :: wanted.dedup).Nodup :=
    List.nodup_cons.2 ⟨fun member => unwanted (List.mem_dedup.1 member), List.nodup_dedup wanted⟩
  have inside : subnet :: wanted.dedup ⊆ addresses.map Address.subnetId :=
    List.cons_subset.2 ⟨there, fun other member => present other (List.mem_dedup.1 member)⟩
  have long := apart.length_le_of_subset inside
  rwa [List.length_map] at long

theorem leastAddresses_le_length_dedup {wanted : List String}
    (two : ∃ first ∈ wanted, ∃ second ∈ wanted, first ≠ second) :
    leastAddresses ≤ wanted.dedup.length := by
  obtain ⟨first, one, second, other, apart⟩ := two
  have nodup : [first, second].Nodup := by simp [apart]
  have inside : [first, second] ⊆ wanted.dedup := by simp [one, other]
  exact nodup.length_le_of_subset inside

end Counting

variable {site : Site} {refusal : Call → Failure → Prop} {before middle after : Registry}
  {id : String} {stored current : StoredEndpoint} {observed : Endpoint}

structure Resized (site : Site) (id : String) (before : Registry) (stored : StoredEndpoint)
    (after : Registry) (current : StoredEndpoint) : Prop where
  valid : after.Valid site
  tags : after.tags = before.tags
  held : after.endpoints.get? id = some current
  settings : current.record = { stored.record with
    ipAddressCount := current.record.ipAddressCount
    modificationTime := current.record.modificationTime }

namespace Resized

theorem start (valid : before.Valid site) (held : before.endpoints.get? id = some stored) :
    Resized site id before stored before stored := ⟨valid, rfl, held, rfl⟩

theorem withAddresses (resized : Resized site id before stored middle current)
    (valid : after.Valid site) (tags : after.tags = middle.tags) (now : Timestamp)
    (addresses : List Address)
    (held : after.endpoints.get? id = some (Registry.withAddresses now current addresses)) :
    Resized site id before stored after (Registry.withAddresses now current addresses) where
  valid := valid
  tags := tags.trans resized.tags
  held := held
  settings := by
    unfold Registry.withAddresses
    rw [resized.settings]

end Resized

theorem always_attach (resized : Resized site id before stored middle current)
    (request : AddressRequest) :
    ((addresses id observed).attach request).outcome.Always (Answered site refusal)
      (fun reply after => match reply with
        | .ok _ => after.serial ≤ middle.serial + 1 ∧
            ∃ new added, Resized site id before stored after new ∧
              new.addresses = current.addresses ++ added ∧
              (∀ address ∈ added, address.subnetId = request.subnetId) ∧
              request.subnetId ∈ new.addresses.map Address.subnetId
        | .error failure => Refused refusal failure) middle := by
  refine (Attempt.always_outcome_bind _ _ _ _).2 ?_
  refine always_succeed (.associateAddress id request) (fun now => ?_)
    fun failure refused => ⟨_, refused⟩
  by_cases present : request.subnetId ∈ current.addresses.map Address.subnetId
  · refine ⟨_, _, Registry.associateAddress_of_present resized.held present, ?_⟩
    exact (Attempt.always_outcome_pure _ _ _).2 ⟨Nat.le_succ _, current, [], resized,
      (List.append_nil _).symm, fun _ member => absurd member List.not_mem_nil, present⟩
  · have done : middle.perform site now (.associateAddress id request) = .ok (_, _) :=
      Registry.associateAddress_of_absent resized.held present
    refine ⟨_, _, done, (Attempt.always_outcome_pure _ _ _).2 ⟨Nat.le_refl _,
      middle.grownEndpoint now request current, [(middle.allocate now request).1], ?_, rfl, ?_, ?_⟩⟩
    · exact resized.withAddresses (Registry.perform_valid resized.valid now _ done).1 rfl now _
        ((NameMap.get?_insert _ _ _ _).trans (if_pos rfl))
    · intro address member
      rw [List.mem_singleton.1 member]
      rfl
    · simp [Registry.grownEndpoint, Registry.withAddresses, Registry.allocate]

theorem always_detach (resized : Resized site id before stored middle current) {subnet : String}
    {address : Address} (known : observed.ipIdFor? subnet = some address.ipId)
    (member : address ∈ current.addresses) (spare : leastAddresses < current.addresses.length) :
    ((addresses id observed).detach subnet).outcome.Always (Answered site refusal)
      (fun reply after => match reply with
        | .ok _ => after.serial = middle.serial ∧
            ∃ new, Resized site id before stored after new ∧
              new.addresses = current.addresses.erase address
        | .error failure => Refused refusal failure) middle := by
  have detaching : (addresses id observed).detach subnet = (do
      let record ← ask (.disassociateAddress id address.ipId)
      pure (some record.ipAddressCount)) := by
    simp only [addresses, known]
  rw [detaching]
  refine (Attempt.always_outcome_bind _ _ _ _).2 ?_
  refine always_succeed (.disassociateAddress id address.ipId) (fun now => ?_)
    fun failure refused => ⟨_, refused⟩
  have done : middle.perform site now (.disassociateAddress id address.ipId) = .ok (_, _) :=
    Registry.disassociateAddress_of_present resized.held (List.mem_map_of_mem member) spare
  refine ⟨_, _, done, (Attempt.always_outcome_pure _ _ _).2
    ⟨rfl, Registry.shrunkEndpoint now address.ipId current, ?_, ?_⟩⟩
  · exact resized.withAddresses (Registry.perform_valid resized.valid now _ done).1 rfl now _
      ((NameMap.get?_insert _ _ _ _).trans (if_pos rfl))
  · exact eraseP_ipId (resized.valid.endpoint id current resized.held).apart member

section Syncing

variable {desired : EndpointSpec}

/-- While addresses are attached, those that were there stay where they are. -/
def Attaching (site : Site) (id : String) (before : Registry) (stored : StoredEndpoint)
    (desired : EndpointSpec) (done : List AddressRequest) (middle : Registry) : Prop :=
  middle.serial ≤ before.serial + done.length ∧
    ∃ current added, Resized site id before stored middle current ∧
      current.addresses = stored.addresses ++ added ∧
      (∀ address ∈ added, address.subnetId ∈ desired.subnets) ∧
      ∀ request ∈ done, request.subnetId ∈ current.subnets

/-- While addresses are detached, every subnet that is done with has lost one. -/
def Detaching (site : Site) (id : String) (before : Registry) (stored : StoredEndpoint)
    (desired : EndpointSpec) (attached : Nat) (done : List String) (middle : Registry) : Prop :=
  middle.serial ≤ before.serial + attached ∧
    ∃ current, Resized site id before stored middle current ∧
      (∀ address ∈ stored.addresses, address.subnetId ∉ done → address ∈ current.addresses) ∧
      (∀ subnet ∉ desired.subnets, sharing subnet current.addresses =
        sharing subnet stored.addresses - if subnet ∈ done then 1 else 0) ∧
      ∀ subnet ∈ desired.subnets, subnet ∈ current.subnets

theorem detaching_of_attaching {observed : List AddressRequest}
    (seen : observed.map AddressRequest.subnetId ⊆ stored.subnets)
    (attached : Attaching site id before stored desired
      (diff AddressRequest.subnetId desired.ipAddresses observed).added middle) :
    Detaching site id before stored desired
      (diff AddressRequest.subnetId desired.ipAddresses observed).added.length [] middle := by
  obtain ⟨serial, current, added, resized, addresses, wanted, present⟩ := attached
  refine ⟨serial, current, resized, fun address member _ => ?_, fun subnet outside => ?_,
    fun subnet inside => ?_⟩
  · rw [addresses]
    exact List.mem_append_left _ member
  · rw [addresses, sharing_append_of_notMem, if_neg List.not_mem_nil]
    · rfl
    · intro address member here
      exact outside (here ▸ wanted address member)
  · by_cases there : subnet ∈ observed.map AddressRequest.subnetId
    · rw [StoredEndpoint.subnets, addresses, List.map_append]
      exact List.mem_append_left _ (seen there)
    · have missing := (mem_map_added_iff AddressRequest.subnetId desired.ipAddresses observed
        subnet).2 ⟨inside, there⟩
      obtain ⟨request, member, rfl⟩ := List.mem_map.1 missing
      exact present request member

theorem always_attach_next {request : AddressRequest} {done : List AddressRequest}
    (asked : request.subnetId ∈ desired.subnets)
    (attached : Attaching site id before stored desired done middle) :
    ((addresses id observed).attach request).outcome.Always (Answered site refusal)
      (fun reply after => match reply with
        | .ok _ => Attaching site id before stored desired (done ++ [request]) after
        | .error failure => Refused refusal failure) middle := by
  obtain ⟨serial, current, added, resized, addresses, wanted, present⟩ := attached
  refine (always_attach resized request).imp fun reply after given => ?_
  cases reply with
  | error failure => exact given
  | ok count =>
    obtain ⟨grown, new, more, resized, grows, same, here⟩ := given
    refine ⟨?_, new, added ++ more, resized, ?_, fun address member => ?_, fun item member => ?_⟩
    · rw [List.length_append, List.length_singleton]
      omega
    · rw [grows, addresses, List.append_assoc]
    · rcases List.mem_append.1 member with old | late
      · exact wanted address old
      · rw [same address late]
        exact asked
    · rcases List.mem_append.1 member with old | late
      · rw [StoredEndpoint.subnets, grows, List.map_append]
        exact List.mem_append_left _ (present item old)
      · rw [List.mem_singleton.1 late]
        exact here

theorem ipIdFor?_of_mem {subnet : String}
    (there : subnet ∈ observed.status.ipAddresses.map Address.subnetId) :
    ∃ address ∈ observed.status.ipAddresses, address.subnetId = subnet ∧
      observed.ipIdFor? subnet = some address.ipId := by
  obtain ⟨other, member, rfl⟩ := List.mem_map.1 there
  cases first : observed.status.ipAddresses.find? fun address =>
      address.subnetId = other.subnetId with
  | none => simpa using List.find?_eq_none.1 first other member
  | some address =>
    have lies : address.subnetId = other.subnetId := by simpa using List.find?_some first
    refine ⟨address, List.mem_of_find?_eq_some first, lies, ?_⟩
    rw [ipIdFor?, first]
    rfl

theorem spare_of_kept {subnet : String} {done : List String}
    (known : observed.status.ipAddresses ⊆ stored.addresses)
    (there : subnet ∈ observed.status.ipAddresses.map Address.subnetId)
    (unwanted : subnet ∉ desired.subnets) (next : subnet ∉ done)
    (kept : ∀ address ∈ stored.addresses, address.subnetId ∉ done → address ∈ current.addresses)
    (present : ∀ subnet ∈ desired.subnets, subnet ∈ current.subnets) :
    ∃ address ∈ current.addresses, address.subnetId = subnet ∧
      observed.ipIdFor? subnet = some address.ipId ∧
      desired.subnets.dedup.length < current.addresses.length := by
  obtain ⟨address, held, rfl, named⟩ := ipIdFor?_of_mem there
  have member := kept address (known held) next
  exact ⟨address, member, rfl, named, length_dedup_lt present (List.mem_map_of_mem member) unwanted⟩

theorem always_detach_next {subnet : String} {done : List String} {attached : Nat}
    (two : leastAddresses ≤ desired.subnets.dedup.length)
    (known : observed.status.ipAddresses ⊆ stored.addresses)
    (there : subnet ∈ observed.status.ipAddresses.map Address.subnetId)
    (unwanted : subnet ∉ desired.subnets) (next : subnet ∉ done)
    (detached : Detaching site id before stored desired attached done middle) :
    ((addresses id observed).detach subnet).outcome.Always (Answered site refusal)
      (fun reply after => match reply with
        | .ok _ => Detaching site id before stored desired attached (done ++ [subnet]) after
        | .error failure => Refused refusal failure) middle := by
  obtain ⟨serial, current, resized, kept, counted, present⟩ := detached
  obtain ⟨address, member, rfl, named, spare⟩ :=
    spare_of_kept known there unwanted next kept present
  have enough := Nat.lt_of_le_of_lt two spare
  refine (always_detach resized named member enough).imp fun reply after given => ?_
  cases reply with
  | error failure => exact given
  | ok count =>
    obtain ⟨same, new, resized, shrunk⟩ := given
    refine ⟨same ▸ serial, new, resized, fun other old stays => ?_, fun subnet outside => ?_,
      fun subnet inside => ?_⟩
    · have apart : other ≠ address := by
        rintro rfl
        exact stays (List.mem_append_right _ (List.mem_singleton_self _))
      rw [shrunk, List.mem_erase_of_ne apart]
      exact kept other old fun early => stays (List.mem_append_left _ early)
    · rw [shrunk, sharing_erase subnet member, counted subnet outside]
      by_cases here : subnet = address.subnetId
      · simp [here, next]
      · simp [here]
    · obtain ⟨other, old, rfl⟩ := List.mem_map.1 (present subnet inside)
      have apart : other ≠ address := by
        rintro rfl
        exact unwanted inside
      rw [StoredEndpoint.subnets, shrunk]
      exact List.mem_map_of_mem ((List.mem_erase_of_ne apart).2 old)

theorem sharing_sub_of_removed {subnet : String} {done : List String}
    (all : subnet ∈ stored.subnets → subnet ∈ done) :
    sharing subnet stored.addresses - (if subnet ∈ done then 1 else 0) =
      sharing subnet stored.addresses - 1 := by
  split
  · rfl
  · next stays => rw [sharing_eq_zero fun there => stays (all there)]

theorem always_syncAddresses (refusal : Call → Failure → Prop) (observed : Endpoint)
    (valid : before.Valid site)
    (held : before.endpoints.get? id = some stored) (named : observed.id? = some id)
    (known : observed.status.ipAddresses = stored.addresses)
    (seen : observed.spec.ipAddresses.map AddressRequest.subnetId = stored.subnets)
    (two : ∃ first ∈ desired.subnets, ∃ second ∈ desired.subnets, first ≠ second) :
    (syncAddresses desired observed).Always (Answered site refusal) (fun applied after =>
      match applied.failure with
      | some failure => Refused refusal failure
      | none => applied.observed.id? = some id ∧
          after.serial ≤ before.serial + (diff AddressRequest.subnetId desired.ipAddresses
            observed.spec.ipAddresses).added.length ∧
          ∃ current, Resized site id before stored after current ∧
            (∀ subnet ∉ desired.subnets,
              sharing subnet current.addresses = sharing subnet stored.addresses - 1) ∧
            ∀ subnet ∈ desired.subnets, subnet ∈ current.subnets) before := by
  unfold syncAddresses
  rw [named]
  let plan := diff AddressRequest.subnetId desired.ipAddresses observed.spec.ipAddresses
  have removed : ∀ subnet,
      subnet ∈ plan.removed ↔ subnet ∈ stored.subnets ∧ subnet ∉ desired.subnets := by
    intro subnet
    rw [mem_removed_iff, seen]
    rfl
  refine (Program.always_bind _ _ _ _).2 ((Collection.always_sync
    (Attaching site id before stored desired)
    (Detaching site id before stored desired plan.added.length)
    (fun failure _ => Refused refusal failure) ?_ ?_ ?_ ?_).imp ?_)
  · exact ⟨Nat.le_refl _, stored, [], .start valid held, (List.append_nil _).symm,
      fun _ member => absurd member List.not_mem_nil,
      fun _ member => absurd member List.not_mem_nil⟩
  · intro done request rest state whole attached
    obtain ⟨⟨asked, -⟩, -⟩ := of_added_eq whole
    refine (always_attach_next asked attached).imp fun reply after given => ?_
    cases reply <;> exact given
  · exact fun state => detaching_of_attaching (seen ▸ List.Subset.refl _)
  · intro done subnet rest state (whole : plan.removed = done ++ subnet :: rest) detached
    obtain ⟨⟨shown, unwanted⟩, next⟩ := of_removed_eq whole
    rw [seen] at shown
    have there : subnet ∈ observed.status.ipAddresses.map Address.subnetId := known ▸ shown
    refine (always_detach_next (leastAddresses_le_length_dedup two) (known ▸ List.Subset.refl _)
      there unwanted next detached).imp
      fun reply after given => ?_
    cases reply <;> exact given
  · intro progress after done
    refine (Program.always_pure _ _ _).2 ?_
    cases failed : progress.failure with
    | some failure =>
      simp only [failed] at done ⊢
      exact done
    | none =>
      simp only [failed] at done ⊢
      obtain ⟨⟨serial, current, resized, -, counted, present⟩, -, -⟩ := done
      refine ⟨named, serial, current, resized, fun subnet outside => ?_, present⟩
      rw [counted subnet outside]
      exact sharing_sub_of_removed fun there => (removed subnet).2 ⟨there, outside⟩

theorem always_syncAddresses_changed {σ : Type} {answers : Answers Call Call.Reply σ} {state : σ}
    (differ : ¬SubnetsAgree desired observed) :
    (syncAddresses desired observed).Always answers (fun applied _ =>
      applied.failure = none → applied.changed = true) state := by
  unfold syncAddresses
  cases known "endpoint id" observed.id? with
  | error failure => exact nofun
  | ok id =>
    refine (Program.always_bind _ _ _ _).2 (Collection.always_sync_changed.imp
      fun progress after changed complete => ?_)
    rw [changed complete, Bool.not_eq_true', Bool.eq_false_iff]
    exact fun none => differ ((diff_isEmpty_iff _ _ _).1 none)

end Syncing

end Converge.Resolver.Endpoint
