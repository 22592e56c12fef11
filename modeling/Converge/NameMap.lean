/-! Finite maps from names, kept in the order of the names. The order is that of code points,
so two maps with the same bindings are equal, and every listing of a map is sorted. -/
namespace Converge

structure NameMap (α : Type) where
  entries : List (String × α)
  sorted : entries.Pairwise fun a b => a.1 < b.1
deriving DecidableEq

namespace NameMap

variable {α β : Type}

def lookup (name : String) : List (String × α) → Option α
  | [] => none
  | (other, value) :: rest => if other = name then some value else lookup name rest

def put (name : String) (value : α) : List (String × α) → List (String × α)
  | [] => [(name, value)]
  | (other, old) :: rest =>
    if name < other then (name, value) :: (other, old) :: rest
    else if name = other then (name, value) :: rest
    else (other, old) :: put name value rest

theorem mem_put {name : String} {value : α} {entries : List (String × α)}
    {entry : String × α} (member : entry ∈ put name value entries) :
    entry = (name, value) ∨ entry ∈ entries := by
  induction entries with
  | nil => exact .inl (List.mem_singleton.1 member)
  | cons head rest ih =>
    unfold put at member
    split at member
    · exact (List.mem_cons.1 member).imp id id
    · split at member
      · exact (List.mem_cons.1 member).imp id (List.mem_cons_of_mem _)
      · rcases List.mem_cons.1 member with rfl | tail
        · exact .inr List.mem_cons_self
        · exact (ih tail).imp id (List.mem_cons_of_mem _)

theorem pairwise_put (name : String) (value : α) (entries : List (String × α))
    (sorted : entries.Pairwise fun a b => a.1 < b.1) :
    (put name value entries).Pairwise fun a b => a.1 < b.1 := by
  induction entries with
  | nil => exact List.pairwise_singleton _ _
  | cons head rest ih =>
    obtain ⟨above, tail⟩ := List.pairwise_cons.1 sorted
    unfold put
    split
    · next less =>
      refine List.pairwise_cons.2 ⟨fun entry member => ?_, sorted⟩
      rcases List.mem_cons.1 member with rfl | member
      · exact less
      · exact String.lt_trans less (above entry member)
    · next notLess =>
      split
      · next same => exact List.pairwise_cons.2 ⟨fun entry member => same ▸ above entry member, tail⟩
      · next differs =>
        refine List.pairwise_cons.2 ⟨fun entry member => ?_, ih tail⟩
        rcases mem_put member with rfl | member
        · exact Std.lt_of_le_of_ne (String.not_lt.1 notLess) fun same => differs same.symm
        · exact above entry member

def empty : NameMap α := ⟨[], List.Pairwise.nil⟩

instance : EmptyCollection (NameMap α) := ⟨empty⟩

instance : Inhabited (NameMap α) := ⟨empty⟩

def get? (map : NameMap α) (name : String) : Option α := lookup name map.entries

def contains (map : NameMap α) (name : String) : Bool := (map.get? name).isSome

def insert (map : NameMap α) (name : String) (value : α) : NameMap α :=
  ⟨put name value map.entries, pairwise_put name value map.entries map.sorted⟩

def erase (map : NameMap α) (name : String) : NameMap α :=
  ⟨map.entries.filter fun entry => entry.1 ≠ name, map.sorted.filter _⟩

def filter (map : NameMap α) (wanted : String → α → Bool) : NameMap α :=
  ⟨map.entries.filter fun entry => wanted entry.1 entry.2, map.sorted.filter _⟩

def insertAll (map : NameMap α) (bindings : List (String × α)) : NameMap α :=
  bindings.foldl (fun map entry => map.insert entry.1 entry.2) map

def eraseAll (map : NameMap α) (names : List String) : NameMap α :=
  names.foldl erase map

def ofList (bindings : List (String × α)) : NameMap α := insertAll ∅ bindings

def keys (map : NameMap α) : List String := map.entries.map Prod.fst

def size (map : NameMap α) : Nat := map.entries.length

@[simp]
theorem get?_empty (name : String) : (∅ : NameMap α).get? name = none := rfl

theorem lookup_put (name other : String) (value : α) (entries : List (String × α)) :
    lookup other (put name value entries) =
      if name = other then some value else lookup other entries := by
  induction entries with
  | nil => rfl
  | cons head rest ih =>
    unfold put
    split
    · rfl
    · split
      · next same =>
        by_cases equal : name = other
        · simp [lookup, equal]
        · simp [lookup, equal, ← same]
      · next differs =>
        by_cases equal : head.1 = other
        · have apart : name ≠ other := fun h => differs (h.trans equal.symm)
          simp [lookup, equal, apart]
        · simp [lookup, equal, ih]

@[simp]
theorem get?_insert (map : NameMap α) (name other : String) (value : α) :
    (map.insert name value).get? other = if name = other then some value else map.get? other :=
  lookup_put name other value map.entries

theorem lookup_filter_ne (name other : String) (entries : List (String × α)) :
    lookup other (entries.filter fun entry => entry.1 ≠ name) =
      if name = other then none else lookup other entries := by
  induction entries with
  | nil => simp [lookup]
  | cons head rest ih =>
    by_cases gone : head.1 = name
    · rw [List.filter_cons_of_neg (by simp [gone]), ih]
      by_cases equal : name = other
      · simp [equal]
      · have apart : head.1 ≠ other := fun h => equal (gone.symm.trans h)
        simp [lookup, equal, apart]
    · rw [List.filter_cons_of_pos (by simp [gone]), lookup, lookup, ih]
      by_cases equal : head.1 = other
      · have apart : name ≠ other := fun h => gone (equal.trans h.symm)
        simp [equal, apart]
      · simp [equal]

@[simp]
theorem get?_erase (map : NameMap α) (name other : String) :
    (map.erase name).get? other = if name = other then none else map.get? other :=
  lookup_filter_ne name other map.entries

theorem lookup_eq_some_iff {entries : List (String × α)}
    (sorted : entries.Pairwise fun a b => a.1 < b.1) (name : String) (value : α) :
    lookup name entries = some value ↔ (name, value) ∈ entries := by
  induction entries with
  | nil => simp [lookup]
  | cons head rest ih =>
    obtain ⟨above, tail⟩ := List.pairwise_cons.1 sorted
    by_cases equal : head.1 = name
    · subst equal
      have fresh : (head.1, value) ∉ rest := fun member =>
        String.lt_irrefl head.1 (above (head.1, value) member)
      simp only [lookup, ↓reduceIte, Option.some.injEq, List.mem_cons, fresh, or_false]
      exact ⟨fun h => h ▸ rfl, fun h => (congrArg Prod.snd h).symm⟩
    · rw [lookup, if_neg equal, ih tail, List.mem_cons]
      exact ⟨.inr, fun h => h.resolve_left fun h => equal (congrArg Prod.fst h).symm⟩

theorem get?_eq_some_iff (map : NameMap α) (name : String) (value : α) :
    map.get? name = some value ↔ (name, value) ∈ map.entries :=
  lookup_eq_some_iff map.sorted name value

theorem ext_get? {a b : NameMap α} (same : ∀ name, a.get? name = b.get? name) : a = b := by
  obtain ⟨left, leftSorted⟩ := a
  obtain ⟨right, rightSorted⟩ := b
  have members : ∀ entry, entry ∈ left ↔ entry ∈ right := fun entry => by
    have equal : lookup entry.1 left = lookup entry.1 right := same entry.1
    rw [← lookup_eq_some_iff leftSorted entry.1 entry.2,
      ← lookup_eq_some_iff rightSorted entry.1 entry.2, equal]
  have nodup : ∀ {entries : List (String × α)},
      (entries.Pairwise fun a b => a.1 < b.1) → entries.Nodup := fun sorted => by
    refine List.Pairwise.imp ?_ sorted
    rintro a b less rfl
    exact String.lt_irrefl _ less
  have perm : left.Perm right :=
    (List.perm_ext_iff_of_nodup (nodup leftSorted) (nodup rightSorted)).2 members
  have equal : left = right := perm.eq_of_pairwise
    (fun _ _ _ _ less more => absurd (String.lt_trans less more) (String.lt_irrefl _))
    leftSorted rightSorted
  subst equal
  rfl

end NameMap

end Converge
