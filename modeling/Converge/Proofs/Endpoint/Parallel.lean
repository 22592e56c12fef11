import Converge.Proofs.Endpoint.Snapshot
import Converge.Proofs.Parallel
import Converge.Proofs.Provider.Neighbours

/-! Passes over an endpoint on their own and among others. Whatever a pass finds or is told, it
makes the same calls but for the ids of addresses, and ends with a snapshot that says the same under
other numbers. -/
namespace Converge.Resolver

open Converge.Provider Program

variable {base : Nat} {site : Site} {stake : Stake} {names later : Renaming base}

def AddressRequest.plain (request : AddressRequest) : AddressRequest := { request with ip := none }

structure AddressRequest.Alike (names : Renaming base) (request other : AddressRequest) : Prop where
  ip : names.Ips request.ip other.ip
  plain : request.plain = other.plain

/-- What a user can ask for, without the addresses. -/
def EndpointSpec.plain (spec : EndpointSpec) : EndpointSpec := { spec with ipAddresses := [] }

def EndpointStatus.plain (status : EndpointStatus) : EndpointStatus :=
  { status with
    id := none, arn := none, creationTime := none, modificationTime := none, ipAddresses := [] }

structure Endpoint.Alike (site : Site) (names : Renaming base) (observed other : Endpoint) :
    Prop where
  spec : observed.spec.plain = other.spec.plain
  asked : List.Forall₂ (AddressRequest.Alike names) observed.spec.ipAddresses other.spec.ipAddresses
  id : Option.Rel names.Ids observed.status.id other.status.id
  arn : observed.status.arn = observed.status.id.map (site.arn ArnKind.endpoint.label)
  otherArn : other.status.arn = other.status.id.map (site.arn ArnKind.endpoint.label)
  status : observed.status.plain = other.status.plain
  addresses : List.Forall₂ (Address.Alike names) observed.status.ipAddresses
    other.status.ipAddresses

structure Endpoint.SeenAlike (site : Site) (stake : Stake) (names : Renaming base)
    (observed other : Endpoint) : Prop where
  alike : observed.Alike site names other
  known : ∃ id ∈ stake.baseline, observed.status.id = some id ∧ other.status.id = some id

theorem AddressRequest.Alike.subnetId {request other : AddressRequest}
    (alike : request.Alike names other) : request.subnetId = other.subnetId := by
  have same := congrArg AddressRequest.subnetId alike.plain
  exact same

theorem AddressRequest.Alike.mono {request other : AddressRequest}
    (alike : request.Alike names other) (grown : names ≤ later) : request.Alike later other :=
  { alike with ip := alike.ip.mono grown }

theorem AddressRequest.Alike.self (request : AddressRequest) : request.Alike names request :=
  ⟨.inl rfl, rfl⟩

theorem Address.Alike.toRequest {address other : Address} (alike : address.Alike names other) :
    address.toRequest.Alike names other.toRequest where
  ip := alike.ip
  plain := by
    have same := congrArg (fun address : Address => address.toRequest) alike.plain
    exact same

namespace Endpoint

variable {observed other : Endpoint} {desired : EndpointSpec}

namespace Alike

variable (alike : observed.Alike site names other)

include alike

theorem mono (grown : names ≤ later) : observed.Alike site later other :=
  { alike with
    asked := alike.asked.imp fun _ _ alike => alike.mono grown
    id := rel_imp alike.id fun _ _ ids => ids.mono grown
    addresses := alike.addresses.imp fun _ _ alike => alike.mono grown }

theorem subnets : observed.spec.ipAddresses.map AddressRequest.subnetId =
    other.spec.ipAddresses.map AddressRequest.subnetId := by
  refine List.forall₂_eq_eq_eq ▸ List.forall₂_map_left_iff.2 (List.forall₂_map_right_iff.2 ?_)
  exact alike.asked.imp fun _ _ alike => alike.subnetId

theorem spec_eq : observed.spec = { other.spec with ipAddresses := observed.spec.ipAddresses } := by
  have same := congrArg (fun spec : EndpointSpec =>
    { spec with ipAddresses := observed.spec.ipAddresses }) alike.spec
  exact same

theorem delta : delta desired observed = delta desired other := by
  simp only [Endpoint.delta, Delta.compareKeys, alike.subnets]
  rw [alike.spec_eq]

theorem checkImmutable : checkImmutable desired observed = checkImmutable desired other := by
  unfold Endpoint.checkImmutable
  rw [alike.spec_eq]

theorem settled : settled observed = settled other := by
  have state : observed.status.status = other.status.status := by
    have same := congrArg EndpointStatus.status alike.status
    exact same
  simp only [Endpoint.settled, state]

theorem ipIdFor? (subnetId : String) :
    Option.Rel names.Ids (observed.ipIdFor? subnetId) (other.ipIdFor? subnetId) := by
  unfold Endpoint.ipIdFor?
  have each := alike.addresses
  generalize observed.status.ipAddresses = addresses at each ⊢
  generalize other.status.ipAddresses = others at each ⊢
  induction each with
  | nil => exact .none
  | @cons address found _ _ head rest ih =>
    by_cases here : found.subnetId = subnetId
    · simpa [head.subnetId.trans here, here] using Option.Rel.some head.ipId
    · simpa [head.subnetId ▸ here, here] using ih

end Alike

theorem alike_statusOf {spec otherSpec : EndpointSpec} {record counterpart : EndpointRecord}
    {addresses others : List Address} (plain : spec.plain = otherSpec.plain)
    (asked : List.Forall₂ (AddressRequest.Alike names) spec.ipAddresses otherSpec.ipAddresses)
    (alike : record.Alike site names counterpart)
    (each : List.Forall₂ (Address.Alike names) addresses others) :
    Endpoint.Alike site names ⟨spec, statusOf record addresses⟩
      ⟨otherSpec, statusOf counterpart others⟩ where
  spec := plain
  asked := asked
  id := .some alike.id
  arn := congrArg some alike.arn
  otherArn := congrArg some alike.otherArn
  status := by
    have same := congrArg (fun record => (statusOf record []).plain) alike.plain
    exact same
  addresses := each

theorem alike_ofStored {stored counterpart : StoredEndpoint}
    (alike : stored.Alike site names counterpart) (tags : Tags) :
    Endpoint.Alike site names (ofStored desired stored tags) (ofStored desired counterpart tags) := by
  refine alike_statusOf ?_ ?_ alike.record alike.addresses
  · have same := congrArg (fun record => (ofStored desired ⟨record, []⟩ tags).spec)
      alike.record.plain
    exact same
  · exact List.forall₂_map_left_iff.2 (List.forall₂_map_right_iff.2
      (alike.addresses.imp fun _ _ alike => alike.toRequest))

theorem Alike.withProgress (alike : observed.Alike site names other)
    (progress : Progress AddressRequest String Nat) :
    Endpoint.Alike site names (observed.withProgress progress) (other.withProgress progress) where
  spec := alike.spec
  asked := by
    refine List.rel_append (List.rel_filter ?_ alike.asked)
      (List.forall₂_same.2 fun request _ => .self request)
    intro request counterpart alike
    simp only [alike.subnetId]
  id := alike.id
  arn := alike.arn
  otherArn := alike.otherArn
  status := by
    have same := congrArg (fun status : EndpointStatus =>
      { status with ipAddressCount := progress.aggregate.getD status.ipAddressCount }) alike.status
    exact same
  addresses := by
    refine List.rel_filter ?_ alike.addresses
    intro address counterpart alike
    simp only [alike.subnetId]

theorem SeenAlike.mono (seen : observed.SeenAlike site stake names other) (grown : names ≤ later) :
    observed.SeenAlike site stake later other :=
  { seen with alike := seen.alike.mono grown }

section Steps

variable {id : String}

def readOn (desired : EndpointSpec) (id : String) (record : EndpointRecord) :
    Request (Option Endpoint) := do
  let addresses ← Walk.start.collect fun token => ask (.listAddresses id token)
  let tags ← tagAccess.fetch record.arn
  pure (some (ofStored desired ⟨record, addresses⟩ tags))

theorem inStep_readOn (within : id ∈ stake.baseline) {record counterpart : EndpointRecord}
    (alike : record.Alike site names counterpart) (named : record.id = id)
    (namedToo : counterpart.id = id) :
    (readOn desired id record).outcome.InStep (mirroring base site stake)
      (Tied fun later => Option.Rel (SeenAlike site stake later))
      (readOn desired id counterpart).outcome names := by
  have arns : record.arn = counterpart.arn := by
    rw [alike.arn, alike.otherArn, named, namedToo]
  have arn : record.arn = site.arn ArnKind.endpoint.label id := named ▸ alike.arn
  refine Attempt.inStep_bind (Walk.inStep_collect (fun _ _ grown _ _ alike => alike.mono grown)
    (fun token final _ => inStep_same (.listAddresses id token) within nofun) Walk.start) ?_
  intro listed more addresses others each
  rw [← arns]
  refine Attempt.inStep_bind (TagAccess.inStep_fetch
    (inStep_same (.listTags record.arn) ⟨id, within, arn⟩ nofun)) ?_
  intro final last tags _ same
  cases same
  have stored : StoredEndpoint.Alike site final ⟨record, addresses⟩ ⟨counterpart, others⟩ :=
    ⟨(alike.mono more).mono last, each.imp fun _ _ alike => alike.mono last⟩
  exact .some ⟨alike_ofStored stored tags, id, within, congrArg some named, congrArg some namedToo⟩

theorem inStep_observeId (within : id ∈ stake.baseline) :
    (observeId desired id).outcome.InStep (mirroring base site stake)
      (Tied fun later => Option.Rel (SeenAlike site stake later))
      (observeId desired id).outcome names := by
  refine (inStep_same (.getEndpoint id) within nofun).bind fun later grown reply answer tied => ?_
  cases reply with
  | error failure =>
    cases answer with
    | ok => exact tied.elim
    | error other =>
      cases tied
      simp only
      split
      · exact .none
      · rfl
  | ok record =>
    cases answer with
    | error => exact tied.elim
    | ok counterpart => exact inStep_readOn within tied.1 tied.2.1 tied.2.2

theorem inStep_observe {last : Option Endpoint} (known : stake.baseline = last.bind Endpoint.id?) :
    (observe desired last).outcome.InStep (mirroring base site stake)
      (Tied fun later => Option.Rel (SeenAlike site stake later))
      (observe desired last).outcome names := by
  unfold observe
  rw [← known]
  cases within : stake.baseline with
  | none => exact .none
  | some id => exact inStep_observeId within

theorem inStep_create {token : Token} (named : token.text = stake.token) :
    (create desired token).outcome.InStep (mirroring base site stake)
      (Tied (Endpoint.Alike site)) (create desired token).outcome names := by
  refine Attempt.inStep_bind (inStep_same (.createEndpoint _) named nofun) ?_
  intro later grown record counterpart alike
  refine alike_statusOf ?_ (List.forall₂_same.2 fun request _ => .self request) alike .nil
  have same := congrArg (fun record : EndpointRecord => EndpointSpec.plain
    { desired with endpointType := some record.endpointType }) alike.plain
  exact same

theorem inStep_tag {arn : String} (within : id ∈ stake.baseline)
    (named : arn = site.arn ArnKind.endpoint.label id) (added : List Tag) :
    (tagAccess.tag arn added).outcome.InStep (mirroring base site stake) (Tied same)
      (tagAccess.tag arn added).outcome names :=
  (inStep_same (.tag arn added) ⟨id, within, named⟩ nofun).imp
    fun _ _ _ _ tied => tied.imp fun _ _ _ => rfl

theorem inStep_untag {arn : String} (within : id ∈ stake.baseline)
    (named : arn = site.arn ArnKind.endpoint.label id) (keys : List String) :
    (tagAccess.untag arn keys).outcome.InStep (mirroring base site stake) (Tied same)
      (tagAccess.untag arn keys).outcome names :=
  (inStep_same (.untag arn keys) ⟨id, within, named⟩ nofun).imp
    fun _ _ _ _ tied => tied.imp fun _ _ _ => rfl

theorem inStep_known {α : Type} (what : String) (value : α) :
    (Attempt.ofExcept (known what (some value)) : Request α).outcome.InStep
      (mirroring base site stake) (Tied fun _ result answer => result = value ∧ answer = value)
      (Attempt.ofExcept (known what (some value)) : Request α).outcome names :=
  ⟨rfl, rfl⟩

theorem inStep_syncTags (seen : observed.SeenAlike site stake names other) :
    (syncTags desired observed).outcome.InStep (mirroring base site stake)
      (Tied (SeenAlike site stake)) (syncTags desired other).outcome names := by
  obtain ⟨id, within, named, namedToo⟩ := seen.known
  have arn : observed.status.arn = some (site.arn ArnKind.endpoint.label id) := by
    rw [seen.alike.arn, named, Option.map_some]
  have otherArn : other.status.arn = some (site.arn ArnKind.endpoint.label id) := by
    rw [seen.alike.otherArn, namedToo, Option.map_some]
  have tags : other.spec.tags = observed.spec.tags := by rw [seen.alike.spec_eq]
  unfold syncTags
  rw [arn, otherArn, tags]
  refine Attempt.inStep_bind (inStep_known _ _) ?_
  rintro first start _ _ ⟨rfl, rfl⟩
  refine Attempt.inStep_bind (TagAccess.inStep_sync
    (fun added later _ => inStep_tag within rfl added)
    (fun keys later _ => inStep_untag within rfl keys) _ _) ?_
  intro later grown _ _ _
  have still := seen.mono (le_trans start grown)
  refine ⟨{ still.alike with spec := ?_ }, id, within, named, namedToo⟩
  have same := congrArg (fun spec : EndpointSpec => { spec with tags := desired.tags })
    still.alike.spec
  exact same

theorem inStep_attach (within : id ∈ stake.baseline) (request : AddressRequest) :
    ((addresses id observed).attach request).outcome.InStep (mirroring base site stake) (Tied same)
      ((addresses id other).attach request).outcome names := by
  refine Attempt.inStep_bind (inStep_same (.associateAddress id request) within nofun) ?_
  intro later grown record counterpart alike
  exact congrArg some (EndpointRecord.Alike.ipAddressCount alike)

theorem inStep_detach (within : id ∈ stake.baseline) (alike : observed.Alike site names other)
    (subnetId : String) :
    ((addresses id observed).detach subnetId).outcome.InStep (mirroring base site stake) (Tied same)
      ((addresses id other).detach subnetId).outcome names := by
  have ids := alike.ipIdFor? subnetId
  simp only [addresses]
  generalize observed.ipIdFor? subnetId = ipId at ids ⊢
  generalize other.ipIdFor? subnetId = counterpart at ids ⊢
  cases ids with
  | none => rfl
  | some ids =>
    refine Attempt.inStep_bind (inStep_ask (.detach within ids)) ?_
    intro later grown record counterpart alike
    exact congrArg some (EndpointRecord.Alike.ipAddressCount alike)

theorem inStep_syncAddresses (seen : observed.SeenAlike site stake names other) :
    (syncAddresses desired observed).InStep (mirroring base site stake)
      (Applied.Alike (SeenAlike site stake)) (syncAddresses desired other) names := by
  obtain ⟨id, within, named, namedToo⟩ := seen.known
  unfold syncAddresses Endpoint.id?
  rw [named, namedToo]
  have detaches : ∀ subnetId later, names ≤ later →
      ((addresses id observed).detach subnetId).outcome.InStep (mirroring base site stake)
        (Tied same) ((addresses id other).detach subnetId).outcome later :=
    fun subnetId later grown => inStep_detach within (seen.mono grown).alike subnetId
  have keyed : (addresses id observed).key = (addresses id other).key := rfl
  refine (Collection.inStep_sync keyed (fun item later _ => inStep_attach within item) detaches
    desired.ipAddresses seen.alike.subnets).bind ?_
  intro later grown progress _ same
  cases same
  exact ⟨⟨(seen.mono grown).alike.withProgress progress, id, within, named, namedToo⟩, rfl, rfl⟩

theorem inStep_update (delta : Delta) (seen : observed.SeenAlike site stake names other) :
    (update desired observed delta).outcome.InStep (mirroring base site stake)
      (Tied (Endpoint.Alike site)) (update desired other delta).outcome names := by
  obtain ⟨id, within, named, namedToo⟩ := seen.known
  unfold update Endpoint.id?
  rw [named, namedToo]
  refine Attempt.inStep_bind (inStep_known _ _) ?_
  rintro first start _ _ ⟨rfl, rfl⟩
  refine Attempt.inStep_bind (inStep_same (.updateEndpoint _ _) within nofun) ?_
  intro later grown record counterpart alike
  have still := (seen.mono (le_trans start grown)).alike
  refine alike_statusOf ?_ still.asked alike still.addresses
  have same := congrArg₂ (fun (spec : EndpointSpec) (record : EndpointRecord) =>
    { spec with name := record.name, endpointType := some record.endpointType })
    still.spec (EndpointRecord.Alike.plain alike)
  exact same

end Steps

theorem parallel {token : Token} {last : Option Endpoint} (named : token.text = stake.token)
    (known : stake.baseline = last.bind Endpoint.id?) :
    endpointManager.Parallel desired (mirroring base site stake) token last
      (SeenAlike site stake) (Endpoint.Alike site) where
  weaken _ _ _ seen := seen.alike
  observe _ := inStep_observe known
  create _ := inStep_create named
  afterCreate _ _ _ alike := ⟨alike, rfl, rfl⟩
  checkImmutable _ _ _ seen := seen.alike.checkImmutable
  delta _ _ _ seen := seen.alike.delta
  syncTags _ _ _ seen :=
    (inStep_syncTags seen).imp fun _ grown _ _ tied => ⟨tied, seen.mono grown⟩
  syncCollections _ _ _ _ seen := inStep_syncAddresses seen
  update _ _ _ delta seen :=
    (inStep_update delta seen).imp fun _ grown _ _ tied => ⟨tied, seen.mono grown⟩
  settled _ _ _ alike := alike.settled

end Endpoint

end Converge.Resolver
