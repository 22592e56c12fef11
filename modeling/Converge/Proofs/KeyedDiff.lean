import Converge.Proofs.Collections
import Converge.Proofs.Resumption
import Mathlib.Data.Finset.Basic
import Mathlib.Data.Finset.Dedup
import Mathlib.Data.List.FinRange

/-! What a difference by key comes to. Each of its parts is read off the positions at which a key
occurs for the first time, and the three parts divide the keys of both lists. -/
namespace Converge

variable {α κ : Type} [DecidableEq κ]

/-- The positions at which a wanted key occurs for the first time, in their order. -/
def firstPositions (key : α → κ) (wanted : κ → Prop) [DecidablePred wanted] (items : List α) :
    List (Fin items.length) :=
  (List.finRange items.length).filter fun i =>
    wanted (key (items.get i)) ∧ ∀ j < i, key (items.get j) ≠ key (items.get i)

section Positions

variable (key : α → κ) (wanted : κ → Prop) [DecidablePred wanted]

theorem map_get_firstPositions_cons (head : α) (rest : List α) :
    (firstPositions key wanted (head :: rest)).map (head :: rest).get =
      (if wanted (key head) then [head] else []) ++
        ((firstPositions key wanted rest).map rest.get).filter
          fun item => key item ≠ key head := by
  have first : ∀ j < (0 : Fin (head :: rest).length), key ((head :: rest).get j) ≠ key head :=
    fun j before => absurd before (Fin.not_lt_zero j)
  have later : ∀ i : Fin rest.length,
      (∀ j < i.succ, key ((head :: rest).get j) ≠ key (rest.get i)) ↔
        key (rest.get i) ≠ key head ∧ ∀ j < i, key (rest.get j) ≠ key (rest.get i) := by
    intro i
    simp only [Fin.forall_fin_succ, Fin.succ_pos, forall_const, Fin.succ_lt_succ_iff,
      List.get_cons_zero, List.get_cons_succ', ne_comm]
  have tail : (((List.finRange rest.length).map Fin.succ).filter fun i : Fin (rest.length + 1) =>
      wanted (key ((head :: rest).get i)) ∧
        ∀ j < i, key ((head :: rest).get j) ≠ key ((head :: rest).get i)).map (head :: rest).get =
      ((firstPositions key wanted rest).map rest.get).filter fun item => key item ≠ key head := by
    rw [List.filter_map, List.map_map, List.filter_map, firstPositions, List.filter_filter]
    refine congrArg (List.map rest.get) (List.filter_congr fun i _ => ?_)
    simp only [Function.comp_apply, List.get_cons_succ', later, ← Bool.decide_and]
    exact decide_eq_decide.2 and_left_comm
  have positions : List.finRange (head :: rest).length =
      0 :: (List.finRange rest.length).map Fin.succ := List.finRange_succ
  rw [firstPositions, positions, List.filter_cons]
  by_cases wants : wanted (key head)
  · rw [if_pos (decide_eq_true ⟨wants, first⟩), if_pos wants, List.map_cons]
    exact congrArg (List.cons head) tail
  · rw [if_neg (by simp [wants]), if_neg wants, List.nil_append]
    exact tail

theorem firsts_filter_eq (items : List α) :
    firsts key (items.filter fun item => wanted (key item)) =
      (firstPositions key wanted items).map items.get := by
  rw [firsts_filter key (fun k => wanted k)]
  induction items with
  | nil => rfl
  | cons head rest ih =>
    rw [map_get_firstPositions_cons, ← ih, firsts, List.filter_cons, List.filter_comm]
    by_cases wants : wanted (key head) <;> simp [wants]

theorem firsts_id_filter_eq (items : List α) :
    firsts id ((items.map key).filter fun k => wanted k) =
      (firstPositions key wanted items).map fun i => key (items.get i) := by
  have keys : ∀ items : List α, firsts id (items.map key) = (firsts key items).map key := by
    intro items
    induction items with
    | nil => rfl
    | cons head rest ih =>
      rw [List.map_cons, firsts, ih, firsts, List.map_cons, List.filter_map]
      rfl
  rw [List.filter_map, keys]
  refine (congrArg (List.map key) (firsts_filter_eq key wanted items)).trans ?_
  rw [List.map_map]
  rfl

end Positions

/-- A plan that takes apart the keys of two lists: what is added are the first items of the keys
that are not observed, and the keys observed are removed or kept, each in the order and at the place
of its first occurrence. -/
structure Diff.Divides (key : α → κ) (desired observed : List α) (plan : Diff α κ) : Prop where
  added : plan.added = (firstPositions key (· ∉ observed.map key) desired).map desired.get
  removed : plan.removed =
    (firstPositions key (· ∉ desired.map key) observed).map fun i => key (observed.get i)
  kept : plan.kept =
    (firstPositions key (· ∈ desired.map key) observed).map fun i => key (observed.get i)
  removed_once : plan.removed.Nodup
  kept_once : plan.kept.Nodup
  mem_removed : ∀ k, k ∈ plan.removed ↔ k ∈ observed.map key ∧ k ∉ desired.map key
  mem_kept : ∀ k, k ∈ plan.kept ↔ k ∈ observed.map key ∧ k ∈ desired.map key
  added_removed : (plan.added.map key).Disjoint plan.removed
  added_kept : (plan.added.map key).Disjoint plan.kept
  removed_kept : plan.removed.Disjoint plan.kept
  whole : (plan.added.map key).toFinset ∪ plan.removed.toFinset ∪ plan.kept.toFinset =
    (desired.map key).toFinset ∪ (observed.map key).toFinset
  carried : ((observed.map key).toFinset ∪ (plan.added.map key).toFinset) \ plan.removed.toFinset =
    (desired.map key).toFinset

/-- A difference divides the keys of its two sides, whatever is repeated in them, and there is none
between a list and itself. -/
theorem diff_divides (key : α → κ) (desired observed : List α) :
    (diff key desired observed).Divides key desired observed ∧
      (diff key desired desired).added = [] ∧ (diff key desired desired).removed = [] := by
  have added := mem_map_added_iff key desired observed
  have removed := mem_removed_iff key desired observed
  have kept := mem_kept_iff key desired observed
  refine ⟨{
    added := firsts_filter_eq key (· ∉ observed.map key) desired
    removed := firsts_id_filter_eq key (· ∉ desired.map key) observed
    kept := firsts_id_filter_eq key (· ∈ desired.map key) observed
    removed_once := nodup_removed key desired observed
    kept_once := List.map_id (diff key desired observed).kept ▸ nodup_map_firsts id _
    mem_removed := removed
    mem_kept := kept
    added_removed := fun k new gone => ((added k).1 new).2 ((removed k).1 gone).1
    added_kept := fun k new stays => ((added k).1 new).2 ((kept k).1 stays).1
    removed_kept := fun k gone stays => ((removed k).1 gone).2 ((kept k).1 stays).2
    whole := ?whole
    carried := ?carried }, ?same⟩
  case whole =>
    ext k
    simp only [Finset.mem_union, List.mem_toFinset, added, removed, kept]
    tauto
  case carried =>
    ext k
    simp only [Finset.mem_sdiff, Finset.mem_union, List.mem_toFinset, added, removed]
    tauto
  case same =>
    have empty := (diff_isEmpty_iff key desired desired).2 fun k => Iff.rfl
    simpa [Diff.isEmpty] using empty

example : (diff Prod.fst [(2, "a"), (1, "b"), (2, "c")] [(4, "w"), (1, "x"), (4, "y")]).added =
    [(2, "a")] ∧
    (diff Prod.fst [(2, "a"), (1, "b"), (2, "c")] [(4, "w"), (1, "x"), (4, "y")]).removed = [4] := by
  decide

end Converge
