import Converge.Collection
import Converge.Proofs.Replies

/-! What a sync of a collection is sure to do. What holds of the items dealt with so far is handed
from one item to the next, first while items are attached and then while they are detached. -/
namespace Converge

theorem diff_isEmpty_iff {α κ : Type} [DecidableEq κ] (key : α → κ) (desired observed : List α) :
    (diff key desired observed).isEmpty = true ↔
      ∀ k, k ∈ desired.map key ↔ k ∈ observed.map key := by
  simp only [Diff.isEmpty, Bool.and_eq_true, List.isEmpty_iff]
  constructor
  · rintro ⟨added, removed⟩ k
    have plan := mem_map_added_iff key desired observed k
    have rest := mem_removed_iff key desired observed k
    simp only [added, removed, List.map_nil, List.not_mem_nil, false_iff, not_and,
      Classical.not_not] at plan rest
    exact ⟨plan, rest⟩
  · intro same
    constructor
    · refine List.eq_nil_iff_forall_not_mem.2 fun item member => ?_
      have plan := (mem_map_added_iff key desired observed (key item)).1
        (List.mem_map_of_mem member)
      exact plan.2 ((same _).1 plan.1)
    · refine List.eq_nil_iff_forall_not_mem.2 fun k member => ?_
      have plan := (mem_removed_iff key desired observed k).1 member
      exact plan.2 ((same k).2 plan.1)

theorem nodup_removed {α κ : Type} [DecidableEq κ] (key : α → κ) (desired observed : List α) :
    (diff key desired observed).removed.Nodup := by
  have nodup := nodup_map_firsts (fun k => k)
    ((observed.map key).filter fun k => k ∉ desired.map key)
  rwa [List.map_id'] at nodup

theorem nodup_map_added {α κ : Type} [DecidableEq κ] (key : α → κ) (desired observed : List α) :
    ((diff key desired observed).added.map key).Nodup := nodup_map_firsts key _

theorem of_removed_eq {α κ : Type} [DecidableEq κ] {key : α → κ} {desired observed : List α}
    {done rest : List κ} {k : κ}
    (planned : (diff key desired observed).removed = done ++ k :: rest) :
    (k ∈ observed.map key ∧ k ∉ desired.map key) ∧ k ∉ done := by
  have member : k ∈ (diff key desired observed).removed :=
    planned ▸ List.mem_append_right _ List.mem_cons_self
  have once := nodup_removed key desired observed
  rw [planned, List.nodup_append] at once
  exact ⟨(mem_removed_iff key desired observed k).1 member,
    fun early => once.2.2 k early k List.mem_cons_self rfl⟩

theorem of_added_eq {α κ : Type} [DecidableEq κ] {key : α → κ} {desired observed done rest : List α}
    {item : α} (planned : (diff key desired observed).added = done ++ item :: rest) :
    (key item ∈ desired.map key ∧ key item ∉ observed.map key) ∧ key item ∉ done.map key := by
  have member : item ∈ (diff key desired observed).added :=
    planned ▸ List.mem_append_right _ List.mem_cons_self
  have once := nodup_map_added key desired observed
  rw [planned, List.map_append, List.nodup_append] at once
  exact ⟨(mem_map_added_iff key desired observed (key item)).1 (List.mem_map_of_mem member),
    fun early => once.2.2 _ early _ List.mem_cons_self rfl⟩

theorem length_added_le {α κ : Type} [DecidableEq κ] (key : α → κ) (desired observed : List α) :
    (diff key desired observed).added.length ≤ desired.length := by
  have once : ∀ items : List α, (firsts key items).length ≤ items.length := by
    intro items
    induction items with
    | nil => exact Nat.le_refl _
    | cons head rest ih =>
      rw [firsts, List.length_cons, List.length_cons]
      exact Nat.succ_le_succ (Nat.le_trans (List.length_filter_le _ _) ih)
  exact Nat.le_trans (once _) (List.length_filter_le _ _)

theorem added_eq_nil {α κ : Type} [DecidableEq κ] (key : α → κ) (desired observed : List α)
    (present : ∀ k ∈ desired.map key, k ∈ observed.map key) :
    (diff key desired observed).added = [] := by
  refine List.eq_nil_iff_forall_not_mem.2 fun item member => ?_
  have plan := (mem_map_added_iff key desired observed (key item)).1 (List.mem_map_of_mem member)
  exact plan.2 (present _ plan.1)

namespace Collection

variable {Call : Type} {Reply : Call → Type} {α κ γ σ : Type}
  {answers : Answers Call Reply σ} {collection : Collection Call Reply α κ γ}
  {stopped : Failure → σ → Prop} {state : σ}

section Attaching

variable {holds : List α → σ → Prop} {items : List α}

theorem always_attachAll_from
    (attaches : ∀ done item rest state, items = done ++ item :: rest → holds done state →
      (collection.attach item).outcome.Always answers (fun reply after => match reply with
        | .ok _ => holds (done ++ [item]) after
        | .error failure => stopped failure after) state)
    (rest done : List α) (whole : items = done ++ rest) (progress : Progress α κ γ)
    (fresh : progress.failure = none) (start : holds done state) :
    (collection.attachAll rest progress).Always answers (fun result after =>
      match result.failure with
      | none => holds items after ∧ result.attached = progress.attached ++ rest ∧
          result.detached = progress.detached
      | some failure => stopped failure after) state := by
  -- The induction is on the items that are left; those that are done are what holds.
  induction rest generalizing done progress state with
  | nil =>
    rw [List.append_nil] at whole
    simp only [attachAll, Program.always_pure, fresh]
    exact ⟨whole ▸ start, (List.append_nil _).symm, trivial⟩
  | cons item rest ih =>
    rw [attachAll]
    refine (Program.always_bind _ _ _ _).2 ((attaches done item rest state whole start).imp ?_)
    intro reply after given
    cases reply with
    | error failure => exact given
    | ok aggregate =>
      have next := ih (done ++ [item]) (by simp [whole]) (progress.attach item aggregate) fresh
        given
      simp only [Progress.attach, List.append_assoc, List.singleton_append] at next
      exact next

theorem always_attachAll
    (attaches : ∀ done item rest state, items = done ++ item :: rest → holds done state →
      (collection.attach item).outcome.Always answers (fun reply after => match reply with
        | .ok _ => holds (done ++ [item]) after
        | .error failure => stopped failure after) state)
    (start : holds [] state) :
    (collection.attachAll items .none).Always answers (fun result after =>
      match result.failure with
      | none => holds items after ∧ result.attached = items ∧ result.detached = []
      | some failure => stopped failure after) state :=
  always_attachAll_from attaches items [] rfl .none rfl start

theorem always_attachAll_kept (kept : Progress α κ γ → σ → Prop)
    (attaches : ∀ progress item rest state, items = progress.attached ++ item :: rest →
      kept progress state → (collection.attach item).outcome.Always answers
        (fun reply after => match reply with
          | .ok aggregate => kept (progress.attach item aggregate) after
          | .error failure => kept (progress.fail failure) after) state)
    (rest : List α) (progress : Progress α κ γ) (whole : items = progress.attached ++ rest)
    (start : kept progress state) :
    (collection.attachAll rest progress).Always answers kept state := by
  induction rest generalizing progress state with
  | nil => exact start
  | cons item rest ih =>
    refine (Program.always_bind _ _ _ _).2
      ((attaches progress item rest state whole start).imp fun reply after given => ?_)
    cases reply with
    | error failure => exact given
    | ok aggregate => exact ih _ (by simp [Progress.attach, whole]) given

end Attaching

section Detaching

variable {holds : List κ → σ → Prop} {keys : List κ}

theorem always_detachAll_from
    (detaches : ∀ done k rest state, keys = done ++ k :: rest → holds done state →
      (collection.detach k).outcome.Always answers (fun reply after => match reply with
        | .ok _ => holds (done ++ [k]) after
        | .error failure => stopped failure after) state)
    (rest done : List κ) (whole : keys = done ++ rest) (progress : Progress α κ γ)
    (fresh : progress.failure = none) (start : holds done state) :
    (collection.detachAll rest progress).Always answers (fun result after =>
      match result.failure with
      | none => holds keys after ∧ result.attached = progress.attached ∧
          result.detached = progress.detached ++ rest
      | some failure => stopped failure after) state := by
  induction rest generalizing done progress state with
  | nil =>
    rw [List.append_nil] at whole
    simp only [detachAll, Program.always_pure, fresh]
    exact ⟨whole ▸ start, trivial, (List.append_nil _).symm⟩
  | cons k rest ih =>
    rw [detachAll]
    refine (Program.always_bind _ _ _ _).2 ((detaches done k rest state whole start).imp ?_)
    intro reply after given
    cases reply with
    | error failure => exact given
    | ok aggregate =>
      have next := ih (done ++ [k]) (by simp [whole]) (progress.detach k aggregate) fresh given
      simp only [Progress.detach, List.append_assoc, List.singleton_append] at next
      exact next

theorem always_detachAll_kept (kept : Progress α κ γ → σ → Prop)
    (detaches : ∀ progress k rest state, keys = progress.detached ++ k :: rest →
      kept progress state → (collection.detach k).outcome.Always answers
        (fun reply after => match reply with
          | .ok aggregate => kept (progress.detach k aggregate) after
          | .error failure => kept (progress.fail failure) after) state)
    (rest : List κ) (progress : Progress α κ γ) (whole : keys = progress.detached ++ rest)
    (start : kept progress state) :
    (collection.detachAll rest progress).Always answers kept state := by
  induction rest generalizing progress state with
  | nil => exact start
  | cons k rest ih =>
    refine (Program.always_bind _ _ _ _).2
      ((detaches progress k rest state whole start).imp fun reply after given => ?_)
    cases reply with
    | error failure => exact given
    | ok aggregate => exact ih _ (by simp [Progress.detach, whole]) given

end Detaching

section Syncing

variable [DecidableEq κ] {desired observed : List α}

theorem always_sync (attaching : List α → σ → Prop) (detaching : List κ → σ → Prop)
    (stopped : Failure → σ → Prop) (start : attaching [] state)
    (attaches : ∀ done item rest state,
      (diff collection.key desired observed).added = done ++ item :: rest → attaching done state →
      (collection.attach item).outcome.Always answers (fun reply after => match reply with
        | .ok _ => attaching (done ++ [item]) after
        | .error failure => stopped failure after) state)
    (turns : ∀ state, attaching (diff collection.key desired observed).added state →
      detaching [] state)
    (detaches : ∀ done k rest state,
      (diff collection.key desired observed).removed = done ++ k :: rest → detaching done state →
      (collection.detach k).outcome.Always answers (fun reply after => match reply with
        | .ok _ => detaching (done ++ [k]) after
        | .error failure => stopped failure after) state) :
    (collection.sync desired observed).Always answers (fun result after =>
      match result.failure with
      | none => detaching (diff collection.key desired observed).removed after ∧
          result.attached = (diff collection.key desired observed).added ∧
          result.detached = (diff collection.key desired observed).removed
      | some failure => stopped failure after) state := by
  rw [sync]
  refine (Program.always_bind _ _ _ _).2 ((always_attachAll attaches start).imp ?_)
  intro progress middle attached
  cases failed : progress.failure with
  | some failure =>
    simp only [failed, Program.always_pure] at attached ⊢
    exact attached
  | none =>
    simp only [failed] at attached ⊢
    obtain ⟨holds, items, nothing⟩ := attached
    refine (always_detachAll_from detaches _ [] rfl progress failed (turns middle holds)).imp ?_
    intro result after detached
    cases stop : result.failure with
    | some failure =>
      simp only [stop] at detached ⊢
      exact detached
    | none =>
      simp only [stop, items, nothing, List.nil_append] at detached ⊢
      exact detached

theorem always_sync_of_kept (kept : Progress α κ γ → σ → Prop)
    (attaches : ∀ progress item rest state,
      (diff collection.key desired observed).added = progress.attached ++ item :: rest →
      kept progress state → (collection.attach item).outcome.Always answers
        (fun reply after => match reply with
          | .ok aggregate => kept (progress.attach item aggregate) after
          | .error failure => kept (progress.fail failure) after) state)
    (detaches : ∀ progress k rest state,
      (diff collection.key desired observed).removed = progress.detached ++ k :: rest →
      kept progress state → (collection.detach k).outcome.Always answers
        (fun reply after => match reply with
          | .ok aggregate => kept (progress.detach k aggregate) after
          | .error failure => kept (progress.fail failure) after) state)
    (start : kept .none state) : (collection.sync desired observed).Always answers kept state := by
  have attached := always_attachAll_kept (fun progress state => kept progress state ∧
    progress.detached = []) (fun progress item rest state whole holds =>
      (attaches progress item rest state whole holds.1).imp fun reply after given => by
        cases reply <;> exact ⟨given, holds.2⟩) _ .none rfl ⟨start, rfl⟩
  rw [sync]
  refine (Program.always_bind _ _ _ _).2 (attached.imp fun progress after holds => ?_)
  cases progress.failure with
  | some failure => exact holds.1
  | none => exact always_detachAll_kept kept detaches _ progress (by simp [holds.2]) holds.1

theorem always_sync_of_additive (kept : Progress α κ γ → σ → Prop)
    (additive : (diff collection.key desired observed).removed = [])
    (attaches : ∀ progress item rest state,
      (diff collection.key desired observed).added = progress.attached ++ item :: rest →
      kept progress state → (collection.attach item).outcome.Always answers
        (fun reply after => match reply with
          | .ok aggregate => kept (progress.attach item aggregate) after
          | .error failure => kept (progress.fail failure) after) state)
    (start : kept .none state) : (collection.sync desired observed).Always answers kept state := by
  refine always_sync_of_kept kept attaches (fun progress k rest state whole => ?_) start
  simp [additive] at whole

theorem always_sync_complete :
    (collection.sync desired observed).Always answers (fun result _ => result.failure = none →
      result.attached = (diff collection.key desired observed).added ∧
        result.detached = (diff collection.key desired observed).removed) state := by
  have free : (collection.sync desired observed).Always (fun _ _ _ _ => True) (fun result _ =>
      match result.failure with
      | none => True ∧ result.attached = (diff collection.key desired observed).added ∧
          result.detached = (diff collection.key desired observed).removed
      | some _ => True) state :=
    always_sync (fun _ _ => True) (fun _ _ => True) (fun _ _ => True) trivial
      (fun _ item _ state _ _ => .of_forall fun reply _ => by cases reply <;> trivial)
      (fun _ _ => trivial)
      (fun _ k _ state _ _ => .of_forall fun reply _ => by cases reply <;> trivial)
  refine (free.restrict fun _ _ _ _ _ => trivial).imp fun result after holds none => ?_
  rw [none] at holds
  exact holds.2

theorem always_sync_changed :
    (collection.sync desired observed).Always answers (fun result _ =>
      result.failure = none →
        result.changed = !(diff collection.key desired observed).isEmpty) state := by
  refine always_sync_complete.imp fun result after complete none => ?_
  obtain ⟨attached, detached⟩ := complete none
  rw [Progress.changed, attached, detached, Diff.isEmpty, Bool.not_and]

end Syncing

end Collection

end Converge
