import Converge.Tags

/-! Tag sets as maps. Carrying out the difference of two tag sets turns one into the other. -/
namespace Converge

namespace NameMap

variable {α : Type}

theorem get?_filter (map : NameMap α) (wanted : String → α → Bool) (name : String) :
    (map.filter wanted).get? name = (map.get? name).filter (wanted name) := by
  refine Option.ext fun value => ?_
  have view := get?_eq_some_iff (map.filter wanted) name value
  rw [filter, List.mem_filter, ← get?_eq_some_iff] at view
  rw [filter, view, Option.filter_eq_some_iff]

theorem erase_of_get?_eq_none {map : NameMap α} {name : String} (free : map.get? name = none) :
    map.erase name = map := by
  refine ext_get? fun other => ?_
  rw [get?_erase]
  split
  · next same => rw [← same, free]
  · rfl

theorem filter_eq_self {map : NameMap α} {wanted : String → α → Bool}
    (all : ∀ name value, map.get? name = some value → wanted name value = true) :
    map.filter wanted = map := by
  refine ext_get? fun name => ?_
  rw [get?_filter]
  cases bound : map.get? name with
  | none => rfl
  | some value => rw [Option.filter_some, if_pos (all name value bound)]

theorem insert_self {map : NameMap α} {name : String} {value : α}
    (bound : map.get? name = some value) : map.insert name value = map := by
  refine ext_get? fun other => ?_
  rw [get?_insert]
  split
  · next same => rw [← same, bound]
  · rfl

@[simp]
theorem insert_insert (map : NameMap α) (name : String) (first second : α) :
    (map.insert name first).insert name second = map.insert name second := by
  refine ext_get? fun other => ?_
  simp only [get?_insert]
  split <;> rfl

theorem get?_insertAll_of_notMem {name : String} {bindings : List (String × α)}
    (absent : ∀ value, (name, value) ∉ bindings) (map : NameMap α) :
    (map.insertAll bindings).get? name = map.get? name := by
  induction bindings generalizing map with
  | nil => rfl
  | cons entry rest ih =>
    have apart : entry.1 ≠ name := by
      rintro rfl
      exact absent entry.2 List.mem_cons_self
    rw [insertAll, List.foldl_cons, ← insertAll,
      ih fun value member => absent value (List.mem_cons_of_mem _ member), get?_insert,
      if_neg apart]

theorem get?_insertAll_of_mem {name : String} {value : α} {bindings : List (String × α)}
    (member : (name, value) ∈ bindings)
    (only : ∀ other, (name, other) ∈ bindings → other = value) (map : NameMap α) :
    (map.insertAll bindings).get? name = some value := by
  induction bindings generalizing map with
  | nil => exact absurd member List.not_mem_nil
  | cons entry rest ih =>
    rw [insertAll, List.foldl_cons, ← insertAll]
    by_cases later : (name, value) ∈ rest
    · exact ih later (fun other found => only other (List.mem_cons_of_mem _ found)) _
    · have here : entry = (name, value) := ((List.mem_cons.1 member).resolve_right later).symm
      have absent : ∀ other, (name, other) ∉ rest := by
        intro other found
        have same := only other (List.mem_cons_of_mem _ found)
        exact later (same ▸ found)
      rw [get?_insertAll_of_notMem absent, here, get?_insert, if_pos rfl]

theorem lookup_append (name : String) (entries others : List (String × α)) :
    lookup name (entries ++ others) = (lookup name entries).or (lookup name others) := by
  induction entries with
  | nil => rfl
  | cons head rest ih =>
    rw [List.cons_append, lookup, lookup, ih]
    split <;> rfl

theorem get?_insertAll (map : NameMap α) (bindings : List (String × α)) (name : String) :
    (map.insertAll bindings).get? name = (lookup name bindings.reverse).or (map.get? name) := by
  induction bindings generalizing map with
  | nil => rfl
  | cons head rest ih =>
    have later := ih (map.insert head.1 head.2)
    rw [get?_insert] at later
    rw [List.reverse_cons, lookup_append, Option.or_assoc]
    refine later.trans (congrArg _ ?_)
    simp only [lookup]
    split <;> rfl

theorem insertAll_insertAll (map : NameMap α) (bindings : List (String × α)) :
    (map.insertAll bindings).insertAll bindings = map.insertAll bindings := by
  refine ext_get? fun name => ?_
  simp only [get?_insertAll]
  cases lookup name bindings.reverse <;> rfl

theorem get?_eraseAll (names : List String) (map : NameMap α) (name : String) :
    (map.eraseAll names).get? name = if name ∈ names then none else map.get? name := by
  induction names generalizing map with
  | nil => simp [eraseAll]
  | cons first rest ih =>
    rw [eraseAll, List.foldl_cons, ← eraseAll, ih, get?_erase]
    by_cases later : name ∈ rest
    · simp [later]
    · by_cases same : first = name
      · simp [same]
      · simp [later, same, Ne.symm same]

theorem eraseAll_eraseAll (map : NameMap α) (names : List String) :
    (map.eraseAll names).eraseAll names = map.eraseAll names := by
  refine ext_get? fun name => ?_
  simp only [get?_eraseAll]
  split <;> rfl

@[simp]
theorem eraseAll_keys (map : NameMap α) : map.eraseAll map.keys = ∅ := by
  refine ext_get? fun name => ?_
  rw [get?_eraseAll, get?_empty]
  split
  · rfl
  · next unbound =>
    refine Option.eq_none_iff_forall_not_mem.2 fun value member => unbound ?_
    exact List.mem_map_of_mem ((get?_eq_some_iff map name value).1 member)

@[simp]
theorem ofList_entries (map : NameMap α) : ofList map.entries = map := by
  refine ext_get? fun name => ?_
  rw [ofList]
  cases found : map.get? name with
  | some value =>
    refine get?_insertAll_of_mem ((get?_eq_some_iff _ _ _).1 found) ?_ _
    intro other member
    have again := (get?_eq_some_iff map name other).2 member
    exact Option.some.inj (again.symm.trans found)
  | none =>
    refine get?_insertAll_of_notMem (fun value member => ?_) _
    have bound := (get?_eq_some_iff map name value).2 member
    simp [bound] at found

end NameMap

namespace Tags

@[simp]
theorem ofTags_toTags (tags : Tags) : ofTags tags.toTags = tags := by
  have bindings : tags.toTags.map (fun tag => (tag.key, tag.value)) = tags.entries := by
    rw [toTags, List.map_map]
    exact List.map_id _
  rw [ofTags, bindings, NameMap.ofList_entries]

theorem mem_pairs (tags : Tags) (key value : String) :
    (key, value) ∈ tags.toTags.map (fun tag => (tag.key, tag.value)) ↔
      tags.get? key = some value := by
  rw [List.mem_map]
  constructor
  · rintro ⟨tag, member, same⟩
    cases same
    exact (mem_toTags tags tag).1 member
  · intro bound
    exact ⟨⟨key, value⟩, (mem_toTags tags ⟨key, value⟩).2 bound, rfl⟩

end Tags

section Plan

variable (desired observed : Tags)

theorem mem_added_pairs (key value : String) :
    (key, value) ∈ (tagDiff desired observed).added.map (fun tag => (tag.key, tag.value)) ↔
      desired.get? key = some value ∧ observed.get? key ≠ some value := by
  have view := mem_map_added_iff (fun tag : Tag => (tag.key, tag.value)) desired.toTags
    observed.toTags (key, value)
  rw [Tags.mem_pairs, Tags.mem_pairs] at view
  exact view

theorem mem_added_keys (key : String) :
    key ∈ (tagDiff desired observed).added.map Tag.key ↔
      ∃ value, desired.get? key = some value ∧ observed.get? key ≠ some value := by
  have keys : (tagDiff desired observed).added.map Tag.key =
      ((tagDiff desired observed).added.map fun tag => (tag.key, tag.value)).map Prod.fst := by
    rw [List.map_map]
    rfl
  rw [keys, List.mem_map]
  constructor
  · rintro ⟨⟨_, value⟩, member, rfl⟩
    exact ⟨value, (mem_added_pairs desired observed _ value).1 member⟩
  · rintro ⟨value, plan⟩
    exact ⟨(key, value), (mem_added_pairs desired observed key value).2 plan, rfl⟩

theorem mem_removed_tagDiff (key : String) :
    key ∈ (tagDiff desired observed).removed ↔
      desired.get? key = none ∧ observed.get? key ≠ none := by
  have gone : key ∈ (diff (fun tag : Tag => (tag.key, tag.value)) desired.toTags
        observed.toTags).removed.map Prod.fst ↔
      ∃ value, observed.get? key = some value ∧ desired.get? key ≠ some value := by
    rw [List.mem_map]
    constructor
    · rintro ⟨⟨_, value⟩, member, rfl⟩
      rw [mem_removed_iff, Tags.mem_pairs, Tags.mem_pairs] at member
      exact ⟨value, member⟩
    · rintro ⟨value, plan⟩
      refine ⟨(key, value), ?_, rfl⟩
      rw [mem_removed_iff, Tags.mem_pairs, Tags.mem_pairs]
      exact plan
  have plan : key ∈ (tagDiff desired observed).removed ↔
      key ∈ (diff (fun tag : Tag => (tag.key, tag.value)) desired.toTags
        observed.toTags).removed.map Prod.fst ∧
      key ∉ (tagDiff desired observed).added.map Tag.key := by
    simp only [tagDiff, List.mem_filter, decide_eq_true_eq]
  rw [plan, gone, mem_added_keys]
  cases wanted : desired.get? key with
  | none => simp [Option.ne_none_iff_exists']
  | some value =>
    refine ⟨fun ⟨⟨old, there, apart⟩, same⟩ => ?_, fun ⟨absurd, _⟩ => by cases absurd⟩
    refine absurd ⟨value, rfl, fun equal => apart ?_⟩ same
    exact equal.symm.trans there

theorem apply_tagDiff : (tagDiff desired observed).apply observed = desired := by
  refine NameMap.ext_get? fun key => ?_
  rw [TagDiff.apply, Tags.remove, NameMap.get?_eraseAll]
  simp only [mem_removed_tagDiff]
  cases wanted : desired.get? key with
  | some value =>
    rw [if_neg (by simp), Tags.add]
    by_cases there : observed.get? key = some value
    · rw [NameMap.get?_insertAll_of_notMem, there]
      intro other member
      obtain ⟨same, apart⟩ := (mem_added_pairs desired observed key other).1 member
      exact apart (there.trans (wanted.symm.trans same))
    · refine NameMap.get?_insertAll_of_mem
        ((mem_added_pairs desired observed key value).2 ⟨wanted, there⟩) (fun other member => ?_) _
      have also := ((mem_added_pairs desired observed key other).1 member).1
      exact Option.some.inj (also.symm.trans wanted)
  | none =>
    have absent : ∀ value, (key, value) ∉ (tagDiff desired observed).added.map
        (fun tag => (tag.key, tag.value)) := by
      intro value member
      have same := ((mem_added_pairs desired observed key value).1 member).1
      rw [wanted] at same
      cases same
    rw [Tags.add, NameMap.get?_insertAll_of_notMem absent]
    cases observed.get? key <;> simp

end Plan

end Converge
