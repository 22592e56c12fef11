import Converge.Proofs.Lockstep
import Converge.Proofs.Provider.Isolation
import Mathlib.Data.List.Forall2

/-! The same under other numbers. Two runs from one state number what they make in their own order.
A renaming says which numbers stand for one another, and from it follow the ids, ARNs and addresses
that do. -/
namespace Converge.Provider

open Converge.Resolver

/-- Which number of one run stands for which of another. The numbers up to the base had been issued
before the runs parted and stand for themselves. -/
structure Renaming (base : Nat) where
  pairs : Nat → Nat → Prop
  old : ∀ number other, number ≤ base ∨ other ≤ base → (pairs number other ↔ number = other)
  unique : ∀ number first second, pairs number first → pairs number second → first = second
  apart : ∀ first second number, pairs first number → pairs second number → first = second

namespace Renaming

variable {base one two : Nat} {names later : Renaming base}

instance : Preorder (Renaming base) where
  le names later := ∀ number other, names.pairs number other → later.pairs number other
  le_refl _ _ _ := id
  le_trans _ _ _ first second number other paired :=
    second number other (first number other paired)

def start (base : Nat) : Renaming base where
  pairs number other := number = other ∧ number ≤ base
  old number other bound := by omega
  unique number first second one two := by omega
  apart first second number one two := by omega

/-- No number beyond these has been issued on either side. -/
def Bounded (names : Renaming base) (one two : Nat) : Prop :=
  ∀ number other, names.pairs number other → number ≤ one ∧ other ≤ two

theorem start_bounded (base : Nat) : (start base).Bounded base base := by
  rintro number other ⟨rfl, bound⟩
  exact ⟨bound, bound⟩

theorem pairs_self {number : Nat} (bound : number ≤ base) : names.pairs number number :=
  (names.old number number (.inl bound)).2 rfl

theorem Bounded.base_le (bounded : names.Bounded one two) : base ≤ one ∧ base ≤ two :=
  bounded base base (pairs_self (Nat.le_refl base))

def extend (names : Renaming base) (bounded : names.Bounded one two) (count : Nat) :
    Renaming base where
  pairs number other := names.pairs number other ∨
    ∃ offset, 0 < offset ∧ offset ≤ count ∧ number = one + offset ∧ other = two + offset
  old number other bound := by
    have parted := bounded.base_le
    refine ⟨?_, fun same => .inl ((names.old number other bound).2 same)⟩
    rintro (before | ⟨offset, positive, -, rfl, rfl⟩)
    · exact (names.old number other bound).1 before
    · omega
  unique number first second one two := by
    rcases one, two with ⟨before | ⟨_, _, _, here, there⟩, again | ⟨_, _, _, here', there'⟩⟩
    · exact names.unique number first second before again
    · have := (bounded number first before).1
      omega
    · have := (bounded number second again).1
      omega
    · omega
  apart first second number one two := by
    rcases one, two with ⟨before | ⟨_, _, _, here, there⟩, again | ⟨_, _, _, here', there'⟩⟩
    · exact names.apart first second number before again
    · have := (bounded first number before).2
      omega
    · have := (bounded second number again).2
      omega
    · omega

variable {bounded : names.Bounded one two} {count : Nat}

theorem le_extend : names ≤ names.extend bounded count := fun _ _ => .inl

theorem extend_bounded : (names.extend bounded count).Bounded (one + count) (two + count) := by
  rintro number other (before | ⟨offset, -, bound, rfl, rfl⟩)
  · have := bounded number other before
    omega
  · omega

theorem extend_pairs {offset : Nat} (positive : 0 < offset) (bound : offset ≤ count) :
    (names.extend bounded count).pairs (one + offset) (two + offset) :=
  .inr ⟨offset, positive, bound, rfl, rfl⟩

section Names

variable {id other : String}

/-- Ids of the same kind of thing, with numbers that stand for one another. -/
def Ids (names : Renaming base) (id other : String) : Prop :=
  ∃ stem number counterpart, names.pairs number counterpart ∧ id = idText stem number ∧
    other = idText stem counterpart

/-- Addresses that were asked for are the same, and the others go with their numbers. -/
def Ips (names : Renaming base) (ip other : Option String) : Prop :=
  ip = other ∨ ∃ number counterpart, names.pairs number counterpart ∧
    ip = some (addressText number) ∧ other = some (addressText counterpart)

theorem Ids.mono (ids : names.Ids id other) (grown : names ≤ later) : later.Ids id other := by
  obtain ⟨stem, number, counterpart, paired, shapes⟩ := ids
  exact ⟨stem, number, counterpart, grown _ _ paired, shapes⟩

theorem Ips.mono {ip other : Option String} (ips : names.Ips ip other)
    (grown : names ≤ later) : later.Ips ip other := by
  rcases ips with same | ⟨number, counterpart, paired, shapes⟩
  · exact .inl same
  · exact .inr ⟨number, counterpart, grown _ _ paired, shapes⟩

theorem ids_self (issued : Issued base id) : names.Ids id id := by
  obtain ⟨stem, number, bound, shape⟩ := issued
  exact ⟨stem, number, number, pairs_self bound, shape, shape⟩

theorem Ids.eq_of_settled (ids : names.Ids id other)
    (settled : ¬Pending base id ∨ ¬Pending base other) : id = other := by
  obtain ⟨stem, number, counterpart, paired, rfl, rfl⟩ := ids
  have bound : number ≤ base ∨ counterpart ≤ base := by
    refine settled.imp (fun settled => ?_) fun settled => ?_
    all_goals exact Nat.not_lt.1 fun above => settled (pending_idText stem above)
  rw [(names.old number counterpart bound).1 paired]

theorem Ids.eq_iff_eq {again otherAgain : String} (ids : names.Ids id other)
    (more : names.Ids again otherAgain) : id = again ↔ other = otherAgain := by
  obtain ⟨stem, number, counterpart, paired, rfl, rfl⟩ := ids
  obtain ⟨stem', number', counterpart', paired', rfl, rfl⟩ := more
  constructor <;> intro equal <;> obtain ⟨rfl, rfl⟩ := idText_inj equal
  · rw [names.unique _ _ _ paired paired']
  · rw [names.apart _ _ _ paired paired']

end Names

end Renaming

end Converge.Provider

namespace Converge

open Provider Resolver

section Views

variable {base : Nat} {site : Site} {names later : Renaming base}

namespace Resolver

def Address.plain (address : Address) : Address :=
  { address with ipId := "", ip := none, creationTime := none, modificationTime := none }

structure Address.Alike (names : Renaming base) (address other : Address) : Prop where
  ipId : names.Ids address.ipId other.ipId
  ip : names.Ips address.ip other.ip
  plain : address.plain = other.plain

namespace Address.Alike

variable {address other : Address}

theorem mono (alike : address.Alike names other) (grown : names ≤ later) :
    address.Alike later other :=
  { alike with ipId := alike.ipId.mono grown, ip := alike.ip.mono grown }

theorem subnetId (alike : address.Alike names other) : address.subnetId = other.subnetId := by
  have same := congrArg Address.subnetId alike.plain
  exact same

end Address.Alike

end Resolver

namespace Provider

namespace Registry

variable {alone shared : Registry} {now now' : Timestamp}

theorem allocate_alike (request : AddressRequest)
    (paired : names.pairs (alone.serial + 1) (shared.serial + 1)) :
    (alone.allocate now request).1.Alike names (shared.allocate now' request).1 where
  ipId := ⟨"rni", _, _, paired, rfl, rfl⟩
  ip := by
    cases asked : request.ip with
    | none =>
      refine .inr ⟨_, _, paired, ?_, ?_⟩
      all_goals simp [allocate, issue, asked]
    | some ip => exact .inl (by simp [allocate, asked])
  plain := rfl

theorem allocateAll_alike {requests : List AddressRequest}
    (paired : ∀ offset, 0 < offset → offset ≤ requests.length →
      names.pairs (alone.serial + offset) (shared.serial + offset)) :
    List.Forall₂ (Address.Alike names) (allocateAll now requests alone).1
      (allocateAll now' requests shared).1 := by
  induction requests generalizing alone shared with
  | nil => exact .nil
  | cons request rest ih =>
    refine .cons (allocate_alike request (paired 1 Nat.one_pos (Nat.succ_pos _))) (ih ?_)
    intro offset positive bound
    have next := paired (1 + offset) (by omega) (by rw [List.length_cons]; omega)
    rwa [← Nat.add_assoc, ← Nat.add_assoc] at next

end Registry

def EndpointRecord.plain (record : EndpointRecord) : EndpointRecord :=
  { record with id := "", arn := "", creationTime := .epoch, modificationTime := .epoch }

structure EndpointRecord.Alike (site : Site) (names : Renaming base)
    (record other : EndpointRecord) : Prop where
  id : names.Ids record.id other.id
  arn : record.arn = site.arn ArnKind.endpoint.label record.id
  otherArn : other.arn = site.arn ArnKind.endpoint.label other.id
  plain : record.plain = other.plain

structure StoredEndpoint.Alike (site : Site) (names : Renaming base)
    (stored other : StoredEndpoint) : Prop where
  record : stored.record.Alike site names other.record
  addresses : List.Forall₂ (Address.Alike names) stored.addresses other.addresses

namespace EndpointRecord.Alike

variable {record other : EndpointRecord}

theorem mono (alike : record.Alike site names other) (grown : names ≤ later) :
    record.Alike site later other :=
  { alike with id := alike.id.mono grown }

theorem name (alike : record.Alike site names other) : record.name = other.name := by
  have same := congrArg EndpointRecord.name alike.plain
  exact same

theorem ipAddressCount (alike : record.Alike site names other) :
    record.ipAddressCount = other.ipAddressCount := by
  have same := congrArg EndpointRecord.ipAddressCount alike.plain
  exact same

theorem creatorRequestId (alike : record.Alike site names other) :
    record.creatorRequestId = other.creatorRequestId := by
  have same := congrArg EndpointRecord.creatorRequestId alike.plain
  exact same

end EndpointRecord.Alike

namespace StoredEndpoint.Alike

variable {stored other : StoredEndpoint}

theorem mono (alike : stored.Alike site names other) (grown : names ≤ later) :
    stored.Alike site later other where
  record := alike.record.mono grown
  addresses := alike.addresses.imp fun _ _ alike => alike.mono grown

theorem subnets (alike : stored.Alike site names other) :
    stored.addresses.map Address.subnetId = other.addresses.map Address.subnetId := by
  refine List.forall₂_eq_eq_eq ▸ List.forall₂_map_left_iff.2 (List.forall₂_map_right_iff.2 ?_)
  exact alike.addresses.imp fun _ _ alike => alike.subnetId

theorem withAddresses (alike : stored.Alike site names other) (now now' : Timestamp)
    {addresses others : List Address} (each : List.Forall₂ (Address.Alike names) addresses others) :
    (Registry.withAddresses now stored addresses).Alike site names
      (Registry.withAddresses now' other others) where
  record :=
    { id := alike.record.id
      arn := alike.record.arn
      otherArn := alike.record.otherArn
      plain := by
        have counted := congrArg (fun record : EndpointRecord =>
          { record with ipAddressCount := addressCount addresses }) alike.record.plain
        rw [addressCount, each.length_eq] at counted
        simp only [Registry.withAddresses, addressCount, each.length_eq]
        exact counted }
  addresses := each

theorem self {id : String} (valid : stored.Valid site base id) : stored.Alike site names stored where
  record :=
    { id := valid.keyed ▸ names.ids_self valid.issued
      arn := valid.keyed ▸ valid.arn
      otherArn := valid.keyed ▸ valid.arn
      plain := rfl }
  addresses := List.forall₂_same.2 fun address member =>
    { ipId := names.ids_self (valid.addressed address member)
      ip := .inl rfl
      plain := rfl }

theorem updated (alike : stored.Alike site names other) (now now' : Timestamp)
    (update : EndpointUpdate) :
    (Registry.updatedEndpoint now update stored).Alike site names
      (Registry.updatedEndpoint now' update other) where
  record :=
    { id := alike.record.id
      arn := alike.record.arn
      otherArn := alike.record.otherArn
      plain := by
        have updated := congrArg (fun record : EndpointRecord =>
          { record with
            name := update.name.getD record.name
            endpointType := update.endpointType.getD record.endpointType }) alike.record.plain
        exact updated }
  addresses := alike.addresses

theorem grown {alone shared : Registry} (alike : stored.Alike site names other)
    (now now' : Timestamp) (request : AddressRequest)
    (paired : names.pairs (alone.serial + 1) (shared.serial + 1)) :
    (alone.grownEndpoint now request stored).Alike site names
      (shared.grownEndpoint now' request other) :=
  alike.withAddresses now now' <| List.rel_append alike.addresses <|
    .cons (Registry.allocate_alike request paired) .nil

theorem mem_ipIds_iff (alike : stored.Alike site names other) {ipId counterpart : String}
    (ids : names.Ids ipId counterpart) :
    ipId ∈ stored.addresses.map Address.ipId ↔
      counterpart ∈ other.addresses.map Address.ipId := by
  have each := alike.addresses
  generalize stored.addresses = addresses at each ⊢
  generalize other.addresses = others at each ⊢
  induction each with
  | nil => simp
  | cons head _ ih => simp only [List.map_cons, List.mem_cons, ih, ids.eq_iff_eq head.ipId]

theorem shrunk (alike : stored.Alike site names other) (now now' : Timestamp)
    {ipId counterpart : String} (ids : names.Ids ipId counterpart) :
    (Registry.shrunkEndpoint now ipId stored).Alike site names
      (Registry.shrunkEndpoint now' counterpart other) := by
  refine alike.withAddresses now now' ?_
  have each := alike.addresses
  generalize stored.addresses = addresses at each ⊢
  generalize other.addresses = others at each ⊢
  induction each with
  | nil => exact .nil
  | @cons address found _ _ head rest ih =>
    have same := head.ipId.eq_iff_eq ids
    by_cases here : found.ipId = counterpart
    · simpa [same.2 here, here] using rest
    · simpa [mt same.1 here, here] using ⟨head, ih⟩

end StoredEndpoint.Alike

namespace Registry

variable {alone shared : Registry} {now now' : Timestamp}

theorem newEndpoint_alike (bounded : names.Bounded alone.serial shared.serial)
    (request : EndpointRequest) :
    (alone.newEndpoint site now request).1.Alike site
      (names.extend bounded (1 + request.ipAddresses.length))
      (shared.newEndpoint site now' request).1 where
  record :=
    { id := ⟨_, _, _, Renaming.extend_pairs Nat.one_pos (Nat.le_add_right _ _), rfl, rfl⟩
      arn := rfl
      otherArn := rfl
      plain := by
        simp only [EndpointRecord.plain, newEndpoint, addressCount, length_allocateAll] }
  addresses := by
    refine allocateAll_alike fun offset positive bound => ?_
    have next : (names.extend bounded (1 + request.ipAddresses.length)).pairs
        (alone.serial + (1 + offset)) (shared.serial + (1 + offset)) :=
      Renaming.extend_pairs (by omega) (by omega)
    rwa [← Nat.add_assoc, ← Nat.add_assoc] at next

end Registry

end Provider

end Views

end Converge
