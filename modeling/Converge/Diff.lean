/-! Difference of two collections by natural key. Two items with one key are the same item,
whatever else they hold, so an item present on both sides is left alone. -/
namespace Converge

variable {α κ : Type}

/-- The first item of every key, in the order of the list. -/
def firsts [DecidableEq κ] (key : α → κ) : List α → List α
  | [] => []
  | item :: rest => item :: (firsts key rest).filter fun other => key other ≠ key item

@[simp]
theorem firsts_nil [DecidableEq κ] (key : α → κ) : firsts key [] = [] := rfl

theorem mem_map_firsts_iff [DecidableEq κ] (key : α → κ) (k : κ) (items : List α) :
    k ∈ (firsts key items).map key ↔ k ∈ items.map key := by
  induction items with
  | nil => simp
  | cons head rest ih =>
    by_cases same : k = key head
    · simp [firsts, same]
    · simp only [firsts, List.map_cons, List.mem_cons, same, false_or, ← ih]
      simp only [List.mem_map, List.mem_filter, decide_eq_true_eq, ne_eq]
      constructor
      · rintro ⟨item, ⟨member, _⟩, rfl⟩
        exact ⟨item, member, rfl⟩
      · rintro ⟨item, member, rfl⟩
        exact ⟨item, ⟨member, same⟩, rfl⟩

theorem nodup_map_firsts [DecidableEq κ] (key : α → κ) (items : List α) :
    ((firsts key items).map key).Nodup := by
  induction items with
  | nil => simp
  | cons head rest ih =>
    rw [firsts, List.map_cons, List.nodup_cons]
    constructor
    · simp
    · exact ih.sublist (List.filter_sublist.map key)

structure Diff (α κ : Type) where
  added : List α
  removed : List κ
  kept : List κ

/-- Items of `desired` whose key is not observed are added; keys of `observed` are kept if
they are desired and removed otherwise. Each key is named once, where it first occurs. -/
def diff [DecidableEq κ] (key : α → κ) (desired observed : List α) : Diff α κ where
  added := firsts key (desired.filter fun item => key item ∉ observed.map key)
  removed := firsts id ((observed.map key).filter fun k => k ∉ desired.map key)
  kept := firsts id ((observed.map key).filter fun k => k ∈ desired.map key)

namespace Diff

def isEmpty (plan : Diff α κ) : Bool :=
  plan.added.isEmpty && plan.removed.isEmpty

end Diff

theorem mem_removed_iff [DecidableEq κ] (key : α → κ) (desired observed : List α) (k : κ) :
    k ∈ (diff key desired observed).removed ↔ k ∈ observed.map key ∧ k ∉ desired.map key := by
  have view := mem_map_firsts_iff id k ((observed.map key).filter fun k => k ∉ desired.map key)
  rw [List.map_id, List.map_id, List.mem_filter, decide_eq_true_eq] at view
  exact view

theorem mem_kept_iff [DecidableEq κ] (key : α → κ) (desired observed : List α) (k : κ) :
    k ∈ (diff key desired observed).kept ↔ k ∈ observed.map key ∧ k ∈ desired.map key := by
  have view := mem_map_firsts_iff id k ((observed.map key).filter fun k => k ∈ desired.map key)
  rw [List.map_id, List.map_id, List.mem_filter, decide_eq_true_eq] at view
  exact view

theorem mem_map_added_iff [DecidableEq κ] (key : α → κ) (desired observed : List α) (k : κ) :
    k ∈ (diff key desired observed).added.map key ↔
      k ∈ desired.map key ∧ k ∉ observed.map key := by
  rw [diff, mem_map_firsts_iff, List.mem_map]
  constructor
  · rintro ⟨item, member, rfl⟩
    have both := List.mem_filter.1 member
    exact ⟨List.mem_map_of_mem both.1, of_decide_eq_true both.2⟩
  · rintro ⟨wanted, absent⟩
    obtain ⟨item, member, rfl⟩ := List.mem_map.1 wanted
    exact ⟨item, List.mem_filter.2 ⟨member, decide_eq_true absent⟩, rfl⟩

end Converge
