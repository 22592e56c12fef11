import Converge.Proofs.Numbering
import Converge.Proofs.TagSets

/-! What holds of a provider's registry at all times: resources are kept under their own ids, every
token belongs to one live resource, exactly the live resources have tags, and of the associations
of a rule with a network only the last one can be active. Each way in which an operation changes a
registry has a lemma that it stays so. -/
namespace Converge.Provider

open Converge.Resolver

structure StoredEndpoint.Valid (site : Site) (serial : Nat) (id : String)
    (stored : StoredEndpoint) : Prop where
  keyed : stored.record.id = id
  issued : Issued serial id
  arn : stored.record.arn = site.arn ArnKind.endpoint.label id
  counted : stored.record.ipAddressCount = addressCount stored.addresses
  enough : leastAddresses ≤ stored.addresses.length
  bounded : stored.addresses.length ≤ serial
  apart : (stored.addresses.map Address.ipId).Nodup
  addressed : ∀ address ∈ stored.addresses, Issued serial address.ipId

structure RuleRecord.Valid (site : Site) (serial : Nat) (id : String)
    (record : RuleRecord) : Prop where
  keyed : record.id = id
  issued : Issued serial id
  arn : record.arn = site.arn ArnKind.rule.label id
  complete : record.status = .complete
  forwards : record.ruleType = .forward →
    record.resolverEndpointId ≠ none ∧ record.targetIps ≠ []

theorem StoredEndpoint.Valid.mono {site : Site} {serial later : Nat} {id : String}
    {stored : StoredEndpoint} (valid : stored.Valid site serial id) (grown : serial ≤ later) :
    stored.Valid site later id :=
  { valid with
    issued := valid.issued.mono grown
    bounded := Nat.le_trans valid.bounded grown
    addressed := fun address member => (valid.addressed address member).mono grown }

theorem RuleRecord.Valid.mono {site : Site} {serial later : Nat} {id : String}
    {record : RuleRecord} (valid : record.Valid site serial id) (grown : serial ≤ later) :
    record.Valid site later id :=
  { valid with issued := valid.issued.mono grown }

/-- The tokens and the ids of live resources belong together one by one. The owner function says
under which token an id was issued, if it is live. -/
def Tokened (tokens : NameMap TokenEntry) (owner : String → Option String) : Prop :=
  ∀ token id, (∃ name, tokens.get? token = some ⟨id, name⟩) ↔ owner id = some token

namespace Tokened

variable {tokens : NameMap TokenEntry} {owner : String → Option String}

theorem insert (tokened : Tokened tokens owner) {token id : String} (name : String)
    (unknown : tokens.get? token = none) (fresh : owner id = none) :
    Tokened (tokens.insert token ⟨id, name⟩)
      fun other => if id = other then some token else owner other := by
  intro other found
  simp only [NameMap.get?_insert]
  by_cases same : token = other
  · subst same
    by_cases here : id = found
    · simp [here]
    · have apart : owner found ≠ some token := by
        intro owned
        obtain ⟨old, known⟩ := (tokened token found).2 owned
        simp [unknown] at known
      simp [here, apart]
  · by_cases here : id = found
    · subst here
      have none := tokened other id
      simp only [fresh, reduceCtorEq, iff_false] at none
      simp [same, none]
    · simp only [same, here, ↓reduceIte]
      exact tokened other found

theorem erase (tokened : Tokened tokens owner) (id : String) :
    Tokened (tokens.filter fun _ entry => entry.id ≠ id)
      fun other => if id = other then none else owner other := by
  intro token found
  have view := tokened token found
  by_cases here : id = found
  · subst here
    simp [NameMap.get?_filter, Option.filter_eq_some_iff]
  · have apart : found ≠ id := Ne.symm here
    simp [NameMap.get?_filter, Option.filter_eq_some_iff, here, apart, view]

theorem owner_inj (tokened : Tokened tokens owner) {token id other : String}
    (first : owner id = some token) (second : owner other = some token) : id = other := by
  obtain ⟨name, known⟩ := (tokened token id).2 first
  obtain ⟨again, same⟩ := (tokened token other).2 second
  have entries := Option.some.inj (known.symm.trans same)
  exact congrArg TokenEntry.id entries

end Tokened

def Tagged (site : Site) (tags : NameMap Tags) (live : String → ArnKind → Prop) : Prop :=
  ∀ arn, tags.get? arn ≠ none ↔ ∃ kind id, live id kind ∧ arn = site.arn kind.label id

namespace Tagged

variable {site : Site} {tags : NameMap Tags} {live : String → ArnKind → Prop}

theorem congr {others : String → ArnKind → Prop} (tagged : Tagged site tags live)
    (same : ∀ id kind, others id kind ↔ live id kind) : Tagged site tags others := by
  have equal : others = live := funext fun id => funext fun kind => propext (same id kind)
  exact equal ▸ tagged

theorem insert (tagged : Tagged site tags live) (kind : ArnKind) (id : String) (value : Tags) :
    Tagged site (tags.insert (site.arn kind.label id) value) fun other otherKind =>
      (other = id ∧ otherKind = kind) ∨ live other otherKind := by
  intro arn
  rw [NameMap.get?_insert]
  split
  · next here =>
    refine iff_of_true (Option.some_ne_none value) ⟨kind, id, .inl ⟨rfl, rfl⟩, here.symm⟩
  · next apart =>
    refine (tagged arn).trans ⟨?_, ?_⟩
    · rintro ⟨found, other, held, shape⟩
      exact ⟨found, other, .inr held, shape⟩
    · rintro ⟨found, other, ⟨rfl, rfl⟩ | held, shape⟩
      · exact absurd shape.symm apart
      · exact ⟨found, other, held, shape⟩

theorem erase (tagged : Tagged site tags live) (kind : ArnKind) (id : String) :
    Tagged site (tags.erase (site.arn kind.label id)) fun other otherKind =>
      live other otherKind ∧ ¬(other = id ∧ otherKind = kind) := by
  intro arn
  rw [NameMap.get?_erase]
  split
  · next here =>
    refine iff_of_false (fun bound => bound rfl) ?_
    rintro ⟨found, other, ⟨-, apart⟩, shape⟩
    obtain ⟨rfl, rfl⟩ := arn_inj site (here.trans shape)
    exact apart ⟨rfl, rfl⟩
  · next apart =>
    refine (tagged arn).trans ⟨?_, ?_⟩
    · rintro ⟨found, other, held, shape⟩
      refine ⟨found, other, ⟨held, ?_⟩, shape⟩
      rintro ⟨rfl, rfl⟩
      exact apart shape.symm
    · rintro ⟨found, other, ⟨held, -⟩, shape⟩
      exact ⟨found, other, held, shape⟩

theorem replace (tagged : Tagged site tags live) {arn : String} (bound : tags.get? arn ≠ none)
    (value : Tags) : Tagged site (tags.insert arn value) live := by
  intro other
  rw [NameMap.get?_insert]
  split
  · next here => exact iff_of_true (Option.some_ne_none value) ((tagged other).1 (here ▸ bound))
  · exact tagged other

end Tagged

namespace Registry

def endpointToken (registry : Registry) (id : String) : Option String :=
  (registry.endpoints.get? id).map fun stored => stored.record.creatorRequestId

def ruleToken (registry : Registry) (id : String) : Option String :=
  (registry.rules.get? id).map RuleRecord.creatorRequestId

def Live (registry : Registry) (id : String) : ArnKind → Prop
  | .endpoint => registry.endpoints.get? id ≠ none
  | .rule => registry.rules.get? id ≠ none

/-- Ids are numbered in 64 bits, so only so many more can be issued. -/
def HasRoom (registry : Registry) (count : Nat) : Prop :=
  registry.serial + count < Nat.pow 2 64

instance (registry : Registry) (count : Nat) : Decidable (registry.HasRoom count) :=
  inferInstanceAs (Decidable (_ < _))

theorem HasRoom.serial_le {registry : Registry} {count : Nat} (room : registry.HasRoom count) :
    registry.serial ≤ Walk.pageLimit :=
  Nat.le_of_lt (Nat.lt_of_le_of_lt (Nat.le_add_right _ _) room)

structure Valid (site : Site) (registry : Registry) : Prop where
  endpoint : ∀ id stored, registry.endpoints.get? id = some stored →
    stored.Valid site registry.serial id
  rule : ∀ id record, registry.rules.get? id = some record →
    record.Valid site registry.serial id
  endpointTokens : Tokened registry.endpointTokens registry.endpointToken
  ruleTokens : Tokened registry.ruleTokens registry.ruleToken
  tagged : Tagged site registry.tags registry.Live
  owned : ∀ association ∈ registry.associations, registry.Live association.ruleId .rule
  /-- An association that is not the last one of its rule and network is being deleted. -/
  ordered : registry.associations.Pairwise fun earlier later =>
    earlier.ruleId = later.ruleId → earlier.vpcId = later.vpcId → isActive earlier = false
  listed : registry.associations.length ≤ registry.serial
  apart : (registry.associations.map AssociationRecord.id).Nodup
  associated : ∀ association ∈ registry.associations, Issued registry.serial association.id

namespace Valid

variable {site : Site} {registry : Registry}

theorem empty (site : Site) : Valid site ∅ where
  endpoint _ _ held := by cases held
  rule _ _ held := by cases held
  endpointTokens _ _ := by
    constructor
    · rintro ⟨_, known⟩
      cases known
    · intro owned
      cases owned
  ruleTokens _ _ := by
    constructor
    · rintro ⟨_, known⟩
      cases known
    · intro owned
      cases owned
  tagged arn := by
    refine ⟨fun bound => absurd rfl bound, ?_⟩
    rintro ⟨kind, id, live, -⟩
    cases kind <;> exact absurd rfl live
  owned _ member := by cases member
  ordered := List.Pairwise.nil
  listed := Nat.le_refl 0
  apart := List.nodup_nil
  associated _ member := by cases member

theorem tags_of_endpoint (valid : registry.Valid site) {id : String} {stored : StoredEndpoint}
    (held : registry.endpoints.get? id = some stored) :
    ∃ tags, registry.tags.get? stored.record.arn = some tags := by
  refine Option.ne_none_iff_exists'.1 ((valid.tagged _).2 ⟨.endpoint, id, ?_, ?_⟩)
  · exact Option.ne_none_iff_exists'.2 ⟨stored, held⟩
  · exact (valid.endpoint id stored held).arn

theorem tags_of_rule (valid : registry.Valid site) {id : String} {record : RuleRecord}
    (held : registry.rules.get? id = some record) :
    ∃ tags, registry.tags.get? record.arn = some tags := by
  refine Option.ne_none_iff_exists'.1 ((valid.tagged _).2 ⟨.rule, id, ?_, ?_⟩)
  · exact Option.ne_none_iff_exists'.2 ⟨record, held⟩
  · exact (valid.rule id record held).arn

theorem raise (valid : registry.Valid site) {serial : Nat} (grown : registry.serial ≤ serial) :
    Valid site { registry with serial } :=
  { valid with
    endpoint := fun id stored held => (valid.endpoint id stored held).mono grown
    rule := fun id record held => (valid.rule id record held).mono grown
    listed := Nat.le_trans valid.listed grown
    associated := fun association member => (valid.associated association member).mono grown }

theorem replaceEndpoint (valid : registry.Valid site) {id : String} {old new : StoredEndpoint}
    (held : registry.endpoints.get? id = some old) (fits : new.Valid site registry.serial id)
    (token : new.record.creatorRequestId = old.record.creatorRequestId) :
    Valid site { registry with endpoints := registry.endpoints.insert id new } where
  endpoint other stored found := by
    simp only [NameMap.get?_insert] at found
    split at found
    · next same =>
      cases found
      exact same ▸ fits
    · exact valid.endpoint other stored found
  rule := valid.rule
  endpointTokens := by
    have same : endpointToken { registry with endpoints := registry.endpoints.insert id new } =
        registry.endpointToken := by
      funext other
      simp only [endpointToken, NameMap.get?_insert]
      split
      · next same => simp [← same, held, token]
      · rfl
    rw [same]
    exact valid.endpointTokens
  ruleTokens := valid.ruleTokens
  tagged := by
    refine valid.tagged.congr fun other kind => ?_
    cases kind with
    | rule => exact Iff.rfl
    | endpoint =>
      simp only [Live, NameMap.get?_insert]
      split
      · next same => simp [← same, held]
      · rfl
  owned := valid.owned
  ordered := valid.ordered
  listed := valid.listed
  apart := valid.apart
  associated := valid.associated

theorem replaceRule (valid : registry.Valid site) {id : String} {old new : RuleRecord}
    (held : registry.rules.get? id = some old) (fits : new.Valid site registry.serial id)
    (token : new.creatorRequestId = old.creatorRequestId) :
    Valid site { registry with rules := registry.rules.insert id new } := by
  have live : ∀ other kind,
      Live { registry with rules := registry.rules.insert id new } other kind ↔
        registry.Live other kind := by
    intro other kind
    cases kind with
    | endpoint => exact Iff.rfl
    | rule =>
      simp only [Live, NameMap.get?_insert]
      split
      · next same => simp [← same, held]
      · rfl
  have tokens : ruleToken { registry with rules := registry.rules.insert id new } =
      registry.ruleToken := by
    funext other
    simp only [ruleToken, NameMap.get?_insert]
    split
    · next same => simp [← same, held, token]
    · rfl
  exact
    { valid with
      rule := fun other record found => by
        simp only [NameMap.get?_insert] at found
        split at found
        · next same =>
          cases found
          exact same ▸ fits
        · exact valid.rule other record found
      ruleTokens := tokens ▸ valid.ruleTokens
      tagged := valid.tagged.congr live
      owned := fun association member => (live _ .rule).2 (valid.owned association member) }

end Valid

end Registry

end Converge.Provider
