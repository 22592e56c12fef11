import Converge.Proofs.Provider.Deduplication
import Converge.Proofs.Provider.Renaming

/-! A run alone and a run among others. A run that is about one endpoint and one token sees nothing
but what is held for these. So if two providers hold the same for them, under whatever numbers, its
calls are answered alike by both and leave the same there, while others call one of the two for
something else. -/
namespace Converge.Provider

open Converge.Resolver

/-- What a run is about: the endpoint that it knows of, if any, and the token that it would create
one under. Other endpoints are known to be what others are about. -/
structure Stake where
  baseline : Option String
  token : String
  others : String → Prop

structure Stake.Fair (base : Nat) (stake : Stake) : Prop where
  baseline : ∀ id ∈ stake.baseline, ¬Pending base id
  settled : ∀ id, stake.others id → ¬Pending base id
  apart : ∀ id, stake.others id → id ∉ stake.baseline

section Mirrors

variable {base : Nat}

structure Matches (site : Site) (names : Renaming base) (alone shared : Registry)
    (id other : String) : Prop where
  stored : Option.Rel (StoredEndpoint.Alike site names) (alone.endpoints.get? id)
    (shared.endpoints.get? other)
  tags : alone.tags.get? (site.arn ArnKind.endpoint.label id) =
    shared.tags.get? (site.arn ArnKind.endpoint.label other)

structure TokenEntry.Alike (site : Site) (names : Renaming base) (alone shared : Registry)
    (entry other : TokenEntry) : Prop where
  name : entry.name = other.name
  id : names.Ids entry.id other.id
  held : Matches site names alone shared entry.id other.id

structure Mirrors (site : Site) (stake : Stake) (names : Renaming base)
    (alone shared : Registry) : Prop where
  fair : stake.Fair base
  valid : alone.Valid site
  sharedValid : shared.Valid site
  bounded : names.Bounded alone.serial shared.serial
  baseline : ∀ id ∈ stake.baseline, Matches site names alone shared id id
  token : Option.Rel (TokenEntry.Alike site names alone shared)
    (alone.endpointTokens.get? stake.token) (shared.endpointTokens.get? stake.token)
  clear : ∀ entry ∈ shared.endpointTokens.get? stake.token, ¬stake.others entry.id

def Call.Within (site : Site) (stake : Stake) : Call → Prop
  | createEndpoint request => request.creatorRequestId = stake.token
  | getEndpoint id | listAddresses id _ | updateEndpoint id _ | associateAddress id _
  | disassociateAddress id _ => id ∈ stake.baseline
  | listTags arn | tag arn _ | untag arn _ =>
    ∃ id ∈ stake.baseline, arn = site.arn ArnKind.endpoint.label id
  | _ => False

/-- The calls that a run makes on its own and among others. They are the same but for the ids of
addresses. -/
inductive Corresponds (site : Site) (stake : Stake) (names : Renaming base) : Call → Call → Prop where
  | same {call : Call} (within : call.Within site stake)
      (unnamed : call.operation ≠ .disassociateAddress) : Corresponds site stake names call call
  | detach {id ipId other : String} (within : id ∈ stake.baseline) (ids : names.Ids ipId other) :
      Corresponds site stake names (.disassociateAddress id ipId) (.disassociateAddress id other)

/-- What calls that correspond tell. -/
def ToldAlike (site : Site) (names : Renaming base) :
    (call other : Call) → call.Value → other.Value → Prop
  | .createEndpoint _, .createEndpoint _, record, counterpart
  | .updateEndpoint _ _, .updateEndpoint _ _, record, counterpart
  | .associateAddress _ _, .associateAddress _ _, record, counterpart
  | .disassociateAddress _ _, .disassociateAddress _ _, record, counterpart =>
    record.Alike site names counterpart
  | .getEndpoint id, .getEndpoint _, record, counterpart =>
    record.Alike site names counterpart ∧ record.id = id ∧ counterpart.id = id
  | .listAddresses _ _, .listAddresses _ _, page, counterpart =>
    page.Alike (Address.Alike names) counterpart
  | .listTags _, .listTags _, tags, counterpart => tags = counterpart
  | .tag _ _, .tag _ _, _, _ | .untag _ _, .untag _ _, _, _ => True
  | _, _, _, _ => False

theorem tied_paginate {κ α : Type} {known : κ} {alike : κ → α → α → Prop} {items others : List α}
    (each : List.Forall₂ (alike known) items others) (pageSize : Nat) (token : Option String) :
    Tied (fun later => Page.Alike (alike later)) known (paginate pageSize items token)
      (paginate pageSize others token) := by
  have parts : ∀ stop start, List.Forall₂ (alike known) ((items.take stop).drop start)
      ((others.take stop).drop start) := fun stop start =>
    List.forall₂_drop start (List.forall₂_take stop each)
  unfold paginate
  simp only [← each.length_eq]
  split
  · exact ⟨parts _ _, rfl⟩
  · split
    · exact ⟨parts _ _, rfl⟩
    · rfl

/-- How both are left by calls that correspond. -/
def Carried (site : Site) (stake : Stake) (call other : Call) (names : Renaming base)
    (done : call.Value × Registry) (counterpart : other.Value × Registry) : Prop :=
  ∃ later, names ≤ later ∧ ToldAlike site later call other done.1 counterpart.1 ∧
    Mirrors site stake later done.2 counterpart.2

end Mirrors

section Own

variable {base : Nat} {site : Site} {stake : Stake} {names later : Renaming base}
  {alone shared : Registry} {id other : String} {now now' : Timestamp}

namespace Matches

theorem put (held : Matches site names alone shared id other) {target : String}
    (same : target = id ↔ target = other) (grown : names ≤ later) {serial serial' : Nat}
    {stored counterpart : StoredEndpoint} (alike : stored.Alike site later counterpart) :
    Matches site later { alone with endpoints := alone.endpoints.insert target stored, serial }
      { shared with endpoints := shared.endpoints.insert target counterpart, serial := serial' }
      id other where
  stored := by
    simp only [NameMap.get?_insert]
    by_cases here : target = id
    · rw [if_pos here, if_pos (same.1 here)]
      exact .some alike
    · rw [if_neg here, if_neg (mt same.2 here)]
      exact rel_imp held.stored fun _ _ alike => alike.mono grown
  tags := held.tags

theorem mono (held : Matches site names alone shared id other) (grown : names ≤ later) :
    Matches site later alone shared id other :=
  { held with stored := rel_imp held.stored fun _ _ alike => alike.mono grown }

theorem of_share (held : Matches site names alone shared id other) {left after : Registry}
    (kept : left.share site id .endpoint = alone.share site id .endpoint)
    (sharedKept : after.share site other .endpoint = shared.share site other .endpoint) :
    Matches site names left after id other := by
  obtain ⟨stored, tags, -⟩ := Share.endpoint.inj kept
  obtain ⟨sharedStored, sharedTags, -⟩ := Share.endpoint.inj sharedKept
  constructor
  · rw [stored, sharedStored]
    exact held.stored
  · rw [tags, sharedTags]
    exact held.tags

theorem added {serial serial' : Nat} {stored counterpart : StoredEndpoint}
    (alike : stored.Alike site names counterpart) (tags : Tags) :
    Matches site names (Registry.addEndpoint { alone with serial } stored tags)
      (Registry.addEndpoint { shared with serial := serial' } counterpart tags)
      stored.record.id counterpart.record.id where
  stored := by
    simp only [Registry.addEndpoint, Registry.putEndpoint, NameMap.get?_insert, ↓reduceIte]
    exact .some alike
  tags := by
    simp only [Registry.addEndpoint, NameMap.get?_insert, alike.record.arn, alike.record.otherArn,
      ↓reduceIte]

theorem retag (held : Matches site names alone shared id other) {target : String}
    (same : target = id ↔ target = other) (tags : Tags) :
    Matches site names
      { alone with tags := alone.tags.insert (site.arn ArnKind.endpoint.label target) tags }
      { shared with tags := shared.tags.insert (site.arn ArnKind.endpoint.label target) tags }
      id other where
  stored := held.stored
  tags := by
    have arns : ∀ id, site.arn ArnKind.endpoint.label target = site.arn ArnKind.endpoint.label id ↔
        target = id := fun id => ⟨fun equal => (arn_inj site equal).2, fun equal => equal ▸ rfl⟩
    simp only [NameMap.get?_insert, arns]
    by_cases here : target = id
    · rw [if_pos here, if_pos (same.1 here)]
    · rw [if_neg here, if_neg (mt same.2 here), held.tags]

end Matches

theorem Corresponds.within {call counterpart : Call}
    (calls : Corresponds site stake names call counterpart) : counterpart.Within site stake := by
  cases calls with
  | same within => exact within
  | detach within => exact within

namespace Mirrors

variable (mirrors : Mirrors site stake names alone shared)

include mirrors

theorem eq_iff_eq (within : id ∈ stake.baseline) {entry counterpart : TokenEntry}
    (ids : names.Ids entry.id counterpart.id) : id = entry.id ↔ id = counterpart.id := by
  have settled := mirrors.fair.baseline id within
  constructor
  · rintro rfl
    exact ids.eq_of_settled (.inl settled)
  · rintro rfl
    exact (ids.eq_of_settled (.inr settled)).symm

theorem put (within : id ∈ stake.baseline) (grown : names ≤ later) {serial serial' : Nat}
    (bounded : later.Bounded serial serial') {stored counterpart : StoredEndpoint}
    (alike : stored.Alike site later counterpart)
    (valid : Registry.Valid site
      { alone with endpoints := alone.endpoints.insert id stored, serial })
    (sharedValid : Registry.Valid site
      { shared with endpoints := shared.endpoints.insert id counterpart, serial := serial' }) :
    Mirrors site stake later { alone with endpoints := alone.endpoints.insert id stored, serial }
      { shared with endpoints := shared.endpoints.insert id counterpart, serial := serial' } where
  fair := mirrors.fair
  valid := valid
  sharedValid := sharedValid
  bounded := bounded
  baseline other known := (mirrors.baseline other known).put Iff.rfl grown alike
  token := rel_imp mirrors.token fun _ _ given =>
    { name := given.name
      id := given.id.mono grown
      held := given.held.put (mirrors.eq_iff_eq within given.id) grown alike }
  clear := mirrors.clear

theorem retag {arn : String} (within : id ∈ stake.baseline)
    (named : arn = site.arn ArnKind.endpoint.label id) (change : Tags → Tags) :
    Tied (fun later (done counterpart : Unit × Registry) =>
        Mirrors site stake later done.2 counterpart.2) names
      (do
        let tags ← alone.tagsAt arn
        pure ((), { alone with tags := alone.tags.insert arn (change tags) }))
      (do
        let tags ← shared.tagsAt arn
        pure ((), { shared with tags := shared.tags.insert arn (change tags) })) := by
  subst named
  have same := (mirrors.baseline id within).tags
  unfold Registry.tagsAt
  rw [same]
  cases there : shared.tags.get? (site.arn ArnKind.endpoint.label id) with
  | none => rfl
  | some tags =>
    rw [there] at same
    exact
      { fair := mirrors.fair
        valid := mirrors.valid.retag (Option.ne_none_iff_exists'.2 ⟨tags, same⟩) _
        sharedValid := mirrors.sharedValid.retag (Option.ne_none_iff_exists'.2 ⟨tags, there⟩) _
        bounded := mirrors.bounded
        baseline := fun other known => (mirrors.baseline other known).retag Iff.rfl (change tags)
        token := rel_imp mirrors.token fun _ _ given =>
          { given with held := given.held.retag (mirrors.eq_iff_eq within given.id) (change tags) }
        clear := mirrors.clear }

theorem endpoint_cases (within : id ∈ stake.baseline) :
    (alone.endpoint id = .error (missingEndpoint id) ∧
        shared.endpoint id = .error (missingEndpoint id)) ∨
      ∃ stored counterpart, alone.endpoints.get? id = some stored ∧
        shared.endpoints.get? id = some counterpart ∧ stored.Alike site names counterpart := by
  have held := (mirrors.baseline id within).stored
  unfold Registry.endpoint
  generalize alone.endpoints.get? id = found at held
  generalize shared.endpoints.get? id = counterpart at held
  cases held with
  | none => exact .inl ⟨rfl, rfl⟩
  | some alike => exact .inr ⟨_, _, rfl, rfl, alike⟩

theorem unchanged {call other : Call} {value : call.Value} {counterpart : other.Value}
    (told : ToldAlike site names call other value counterpart) :
    Carried site stake call other names (value, alone) (counterpart, shared) :=
  ⟨names, le_rfl, told, mirrors⟩

theorem look {call other : Call} {found : Except Failure call.Value}
    {counterpart : Except Failure other.Value}
    (tied : Tied (fun later => ToldAlike site later call other) names found counterpart) :
    Tied (Carried site stake call other) names (alone.look found) (shared.look counterpart) := by
  cases found with
  | ok value =>
    cases counterpart with
    | ok result => exact mirrors.unchanged tied
    | error => exact tied.elim
  | error failure =>
    cases counterpart with
    | ok => exact tied.elim
    | error => exact tied

theorem perform_get (within : id ∈ stake.baseline) :
    Tied (Carried site stake (.getEndpoint id) (.getEndpoint id)) names
      (alone.perform site now (.getEndpoint id)) (shared.perform site now' (.getEndpoint id)) := by
  refine mirrors.look ?_
  rcases mirrors.endpoint_cases within with ⟨missing, absent⟩ |
    ⟨stored, counterpart, held, there, alike⟩
  · rw [missing, absent]
    rfl
  · rw [Registry.endpoint_eq_ok_iff.2 held, Registry.endpoint_eq_ok_iff.2 there]
    exact ⟨alike.record, (mirrors.valid.endpoint id stored held).keyed,
      (mirrors.sharedValid.endpoint id counterpart there).keyed⟩

theorem perform_list (within : id ∈ stake.baseline) (token : Option String) :
    Tied (Carried site stake (.listAddresses id token) (.listAddresses id token)) names
      (alone.perform site now (.listAddresses id token))
      (shared.perform site now' (.listAddresses id token)) := by
  refine mirrors.look ?_
  rcases mirrors.endpoint_cases within with ⟨missing, absent⟩ |
    ⟨stored, counterpart, held, there, alike⟩
  · rw [missing, absent]
    rfl
  · rw [Registry.endpoint_eq_ok_iff.2 held, Registry.endpoint_eq_ok_iff.2 there]
    exact tied_paginate alike.addresses site.pageSize token

theorem perform_update (within : id ∈ stake.baseline) (update : EndpointUpdate) :
    Tied (Carried site stake (.updateEndpoint id update) (.updateEndpoint id update)) names
      (alone.perform site now (.updateEndpoint id update))
      (shared.perform site now' (.updateEndpoint id update)) := by
  rcases mirrors.endpoint_cases within with ⟨missing, absent⟩ |
    ⟨stored, counterpart, held, there, alike⟩
  · simp only [Registry.perform, Registry.updateEndpoint, missing, absent]
    rfl
  · have updated : (Registry.updatedEndpoint now update stored).Alike site names
        (Registry.updatedEndpoint now' update counterpart) := alike.updated now now' update
    have done : alone.perform site now (.updateEndpoint id update) = .ok _ :=
      Registry.updateEndpoint_eq_ok_iff.2 ⟨stored, held, rfl, rfl⟩
    have done' : shared.perform site now' (.updateEndpoint id update) = .ok _ :=
      Registry.updateEndpoint_eq_ok_iff.2 ⟨counterpart, there, rfl, rfl⟩
    rw [done, done']
    refine ⟨names, le_rfl, updated.record, ?_⟩
    exact mirrors.put within le_rfl mirrors.bounded updated
      (Registry.perform_valid mirrors.valid now _ done).1
      (Registry.perform_valid mirrors.sharedValid now' _ done').1

theorem perform_attach (within : id ∈ stake.baseline) (request : AddressRequest) :
    Tied (Carried site stake (.associateAddress id request) (.associateAddress id request)) names
      (alone.perform site now (.associateAddress id request))
      (shared.perform site now' (.associateAddress id request)) := by
  rcases mirrors.endpoint_cases within with ⟨missing, absent⟩ |
    ⟨stored, counterpart, held, there, alike⟩
  · simp only [Registry.perform, Registry.associateAddress, missing, absent]
    rfl
  · by_cases present : request.subnetId ∈ stored.addresses.map Address.subnetId
    · simp only [Registry.perform]
      rw [Registry.associateAddress_of_present held present,
        Registry.associateAddress_of_present there (alike.subnets ▸ present)]
      exact mirrors.unchanged alike.record
    · have done : alone.perform site now (.associateAddress id request) = .ok _ :=
        Registry.associateAddress_of_absent held present
      have done' : shared.perform site now' (.associateAddress id request) = .ok _ :=
        Registry.associateAddress_of_absent there (alike.subnets ▸ present)
      rw [done, done']
      have grown : (alone.grownEndpoint now request stored).Alike site
          (names.extend mirrors.bounded 1) (shared.grownEndpoint now' request counterpart) :=
        (alike.mono Renaming.le_extend).grown now now' request
          (Renaming.extend_pairs Nat.one_pos (Nat.le_refl 1))
      refine ⟨_, Renaming.le_extend, grown.record, ?_⟩
      exact mirrors.put within Renaming.le_extend Renaming.extend_bounded grown
        (Registry.perform_valid mirrors.valid now _ done).1
        (Registry.perform_valid mirrors.sharedValid now' _ done').1

theorem perform_detach (within : id ∈ stake.baseline) {ipId other : String}
    (ids : names.Ids ipId other) :
    Tied (Carried site stake (.disassociateAddress id ipId) (.disassociateAddress id other)) names
      (alone.perform site now (.disassociateAddress id ipId))
      (shared.perform site now' (.disassociateAddress id other)) := by
  rcases mirrors.endpoint_cases within with ⟨missing, absent⟩ |
    ⟨stored, counterpart, held, there, alike⟩
  · simp only [Registry.perform, Registry.disassociateAddress, missing, absent]
    rfl
  · have members := alike.mem_ipIds_iff ids
    by_cases present : ipId ∈ stored.addresses.map Address.ipId
    · by_cases spare : leastAddresses < stored.addresses.length
      · have done : alone.perform site now (.disassociateAddress id ipId) = .ok _ :=
          Registry.disassociateAddress_of_present held present spare
        have done' : shared.perform site now' (.disassociateAddress id other) = .ok _ :=
          Registry.disassociateAddress_of_present there (members.1 present)
            (alike.addresses.length_eq ▸ spare)
        rw [done, done']
        have shrunk : (Registry.shrunkEndpoint now ipId stored).Alike site names
            (Registry.shrunkEndpoint now' other counterpart) := alike.shrunk now now' ids
        refine ⟨names, le_rfl, shrunk.record, ?_⟩
        exact mirrors.put within le_rfl mirrors.bounded shrunk
          (Registry.perform_valid mirrors.valid now _ done).1
          (Registry.perform_valid mirrors.sharedValid now' _ done').1
      · have few := Nat.not_lt.1 spare
        simp only [Registry.perform]
        rw [Registry.disassociateAddress_of_few held present few,
          Registry.disassociateAddress_of_few there (members.1 present)
            (alike.addresses.length_eq ▸ few)]
        rfl
    · simp only [Registry.perform]
      rw [Registry.disassociateAddress_of_absent held present,
        Registry.disassociateAddress_of_absent there (mt members.2 present)]
      exact mirrors.unchanged alike.record

theorem perform_listTags {arn : String} (within : id ∈ stake.baseline)
    (named : arn = site.arn ArnKind.endpoint.label id) :
    Tied (Carried site stake (.listTags arn) (.listTags arn)) names
      (alone.perform site now (.listTags arn)) (shared.perform site now' (.listTags arn)) := by
  refine mirrors.look ?_
  have same := (mirrors.baseline id within).tags
  unfold Registry.tagsAt
  rw [named, same]
  cases shared.tags.get? (site.arn ArnKind.endpoint.label id) with
  | none => rfl
  | some tags => rfl

theorem perform_tag {arn : String} (within : id ∈ stake.baseline)
    (named : arn = site.arn ArnKind.endpoint.label id) (added : List Tag) :
    Tied (Carried site stake (.tag arn added) (.tag arn added)) names
      (alone.perform site now (.tag arn added)) (shared.perform site now' (.tag arn added)) :=
  (mirrors.retag within named fun tags => tags.add added).imp
    fun _ _ still => ⟨names, le_rfl, trivial, still⟩

theorem perform_untag {arn : String} (within : id ∈ stake.baseline)
    (named : arn = site.arn ArnKind.endpoint.label id) (keys : List String) :
    Tied (Carried site stake (.untag arn keys) (.untag arn keys)) names
      (alone.perform site now (.untag arn keys)) (shared.perform site now' (.untag arn keys)) :=
  (mirrors.retag within named fun tags => tags.remove keys).imp
    fun _ _ still => ⟨names, le_rfl, trivial, still⟩

theorem add (grown : names ≤ later) {serial serial' : Nat} (bounded : later.Bounded serial serial')
    {stored counterpart : StoredEndpoint} (alike : stored.Alike site later counterpart)
    (token : stored.record.creatorRequestId = stake.token)
    (unknown : alone.endpointTokens.get? stake.token = none)
    (sharedUnknown : shared.endpointTokens.get? stake.token = none)
    (pending : Pending alone.serial stored.record.id)
    (sharedPending : Pending shared.serial counterpart.record.id) {tags : Tags}
    (valid : (Registry.addEndpoint { alone with serial } stored tags).Valid site)
    (sharedValid : (Registry.addEndpoint { shared with serial := serial' } counterpart tags).Valid
      site) :
    Mirrors site stake later (Registry.addEndpoint { alone with serial } stored tags)
      (Registry.addEndpoint { shared with serial := serial' } counterpart tags) := by
  have sharedToken : counterpart.record.creatorRequestId = stake.token :=
    alike.record.creatorRequestId.symm.trans token
  have parted := mirrors.bounded.base_le
  have entry : (Registry.addEndpoint { alone with serial } stored tags).endpointTokens.get?
      stake.token = some ⟨stored.record.id, stored.record.name⟩ := by
    rw [Registry.addEndpoint, NameMap.get?_insert, if_pos token]
  have sharedEntry : (Registry.addEndpoint { shared with serial := serial' } counterpart
      tags).endpointTokens.get? stake.token =
        some ⟨counterpart.record.id, counterpart.record.name⟩ := by
    rw [Registry.addEndpoint, NameMap.get?_insert, if_pos sharedToken]
  exact
    { fair := mirrors.fair
      valid := valid
      sharedValid := sharedValid
      bounded := bounded
      baseline := fun id known => by
        have settled := mirrors.fair.baseline id known
        refine ((mirrors.baseline id known).mono grown).of_share
          (Registry.share_addEndpoint tags alike.record.arn (token ▸ unknown) ?_)
          (Registry.share_addEndpoint tags alike.record.otherArn (sharedToken ▸ sharedUnknown) ?_)
        · exact fun same => settled (same ▸ pending.anti parted.1)
        · exact fun same => settled (same ▸ sharedPending.anti parted.2)
      token := by
        rw [entry, sharedEntry]
        exact .some ⟨alike.record.name, alike.record.id, .added alike tags⟩
      clear := fun found known claimed => by
        obtain rfl := Option.some.inj (sharedEntry.symm.trans known)
        exact mirrors.fair.settled _ claimed (sharedPending.anti parted.2) }

theorem perform_create_of_unknown {request : EndpointRequest}
    (token : request.creatorRequestId = stake.token)
    (unknown : alone.endpointTokens.get? stake.token = none)
    (unknown' : shared.endpointTokens.get? stake.token = none) :
    Tied (Carried site stake (.createEndpoint request) (.createEndpoint request)) names
      (alone.perform site now (.createEndpoint request))
      (shared.perform site now' (.createEndpoint request)) := by
  by_cases few : request.ipAddresses.length < leastAddresses
  · simp only [Registry.perform, Registry.createEndpoint, token, unknown, unknown', few, ↓reduceIte]
    rfl
  by_cases bare : request.securityGroupIds.isEmpty = true
  · simp only [Registry.perform, Registry.createEndpoint, token, unknown, unknown', few, bare,
      ↓reduceIte]
    rfl
  have groups : request.securityGroupIds ≠ [] := fun none => bare (List.isEmpty_iff.2 none)
  have done : alone.perform site now (.createEndpoint request) = .ok _ :=
    (Registry.createEndpoint_of_unknown (token ▸ unknown)).2 ⟨Nat.not_lt.1 few, groups, rfl, rfl⟩
  have done' : shared.perform site now' (.createEndpoint request) = .ok _ :=
    (Registry.createEndpoint_of_unknown (token ▸ unknown')).2 ⟨Nat.not_lt.1 few, groups, rfl, rfl⟩
  have valid := (Registry.perform_valid mirrors.valid now _ done).1
  have sharedValid := (Registry.perform_valid mirrors.sharedValid now' _ done').1
  have alike : (alone.newEndpoint site now request).1.Alike site
      (names.extend mirrors.bounded (1 + request.ipAddresses.length))
      (shared.newEndpoint site now' request).1 :=
    Registry.newEndpoint_alike mirrors.bounded request
  rw [done, done']
  rw [Registry.newEndpoint_snd] at valid sharedValid
  refine ⟨_, Renaming.le_extend, alike.record, ?_⟩
  simp only [Registry.newEndpoint_snd]
  refine mirrors.add Renaming.le_extend ?_ alike token unknown unknown' ?_ ?_ valid sharedValid
  · rw [Nat.add_assoc, Nat.add_assoc]
    exact Renaming.extend_bounded
  · exact pending_idText _ (Nat.lt_succ_self _)
  · exact pending_idText _ (Nat.lt_succ_self _)

theorem perform_create_of_known {request : EndpointRequest} {entry counterpart : TokenEntry}
    (token : request.creatorRequestId = stake.token)
    (known : alone.endpointTokens.get? stake.token = some entry)
    (known' : shared.endpointTokens.get? stake.token = some counterpart)
    (alike : entry.Alike site names alone shared counterpart) :
    Tied (Carried site stake (.createEndpoint request) (.createEndpoint request)) names
      (alone.perform site now (.createEndpoint request))
      (shared.perform site now' (.createEndpoint request)) := by
  rw [← token] at known known'
  by_cases name : entry.name = request.name
  · obtain ⟨stored, held, -⟩ := Option.map_eq_some_iff.1
      ((mirrors.valid.endpointTokens _ entry.id).1 ⟨entry.name, known⟩)
    have both := alike.held.stored
    rw [held] at both
    obtain ⟨other, there, same⟩ : ∃ other,
        shared.endpoints.get? counterpart.id = some other ∧ stored.Alike site names other := by
      generalize shared.endpoints.get? counterpart.id = found at both
      cases both with
      | some same => exact ⟨_, rfl, same⟩
    have done : alone.perform site now (.createEndpoint request) = .ok _ :=
      (Registry.createEndpoint_of_known known).2 ⟨name, rfl, stored, held, rfl⟩
    have done' : shared.perform site now' (.createEndpoint request) = .ok _ :=
      (Registry.createEndpoint_of_known known').2 ⟨alike.name ▸ name, rfl, other, there, rfl⟩
    rw [done, done']
    exact mirrors.unchanged same.record
  · have name' : counterpart.name ≠ request.name := alike.name ▸ name
    simp only [Registry.perform, Registry.createEndpoint, known, known', ne_eq, name, name',
      not_false_eq_true, ↓reduceIte]
    rfl

theorem perform_create {request : EndpointRequest}
    (token : request.creatorRequestId = stake.token) :
    Tied (Carried site stake (.createEndpoint request) (.createEndpoint request)) names
      (alone.perform site now (.createEndpoint request))
      (shared.perform site now' (.createEndpoint request)) := by
  have entries := mirrors.token
  generalize known : alone.endpointTokens.get? stake.token = entry at entries
  generalize known' : shared.endpointTokens.get? stake.token = counterpart at entries
  cases entries with
  | none => exact mirrors.perform_create_of_unknown token known known'
  | some alike => exact mirrors.perform_create_of_known token known known' alike

theorem perform {call counterpart : Call} (calls : Corresponds site stake names call counterpart)
    (now now' : Timestamp) :
    Tied (Carried site stake call counterpart) names (alone.perform site now call)
      (shared.perform site now' counterpart) := by
  cases calls with
  | detach within ids => exact mirrors.perform_detach within ids
  | same within unnamed =>
    cases call with
    | createEndpoint request => exact mirrors.perform_create within
    | getEndpoint id => exact mirrors.perform_get within
    | listAddresses id token => exact mirrors.perform_list within token
    | updateEndpoint id update => exact mirrors.perform_update within update
    | associateAddress id request => exact mirrors.perform_attach within request
    | disassociateAddress => exact absurd rfl unnamed
    | listTags arn =>
      obtain ⟨id, known, named⟩ := within
      exact mirrors.perform_listTags known named
    | tag arn added =>
      obtain ⟨id, known, named⟩ := within
      exact mirrors.perform_tag known named added
    | untag arn keys =>
      obtain ⟨id, known, named⟩ := within
      exact mirrors.perform_untag known named keys
    | _ => exact within.elim

end Mirrors

end Own

end Converge.Provider
