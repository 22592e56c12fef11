import Converge.Proofs.Numbering
import Converge.Proofs.Replies

/-! Walks over a provider's listings. A walk that no fetch stops reads the whole listing, in order,
whatever the size of a page; one that is stopped reports why. -/
namespace Converge

open Provider

variable {Call : Type} {Reply : Call → Type} {α σ : Type}

/-- The page of a listing that starts at an offset. -/
def pageAt (pageSize : Nat) (items : List α) (start : Nat) : Page α where
  items := (items.take (min (start + pageSize) items.length)).drop start
  nextToken :=
    if min (start + pageSize) items.length < items.length then
      some (toString (min (start + pageSize) items.length))
    else none

theorem items_pageAt (pageSize : Nat) (items : List α) (start : Nat) :
    (pageAt pageSize items start).items = (items.drop start).take pageSize := by
  by_cases more : start + pageSize ≤ items.length
  · rw [pageAt, Nat.min_eq_left more, List.drop_take, Nat.add_sub_cancel_left]
  · have rest : (items.drop start).length ≤ pageSize := by
      rw [List.length_drop]
      omega
    rw [pageAt, Nat.min_eq_right (by omega), List.take_length, List.take_of_length_le rest]

namespace Walk

/-- The walk will next ask for the page at the offset. -/
def StandsAt (walk : Walk) (start : Nat) : Prop :=
  walk.finished = false ∧
    (walk.token = none ∧ start = 0 ∨ walk.token = some (toString start))

theorem start_standsAt : start.StandsAt 0 := ⟨rfl, .inl ⟨rfl, rfl⟩⟩

theorem paginate_of_standsAt {walk : Walk} {start : Nat} (stands : walk.StandsAt start)
    (pageSize : Nat) (items : List α) (inside : start ≤ items.length) :
    paginate pageSize items walk.token = .ok (pageAt pageSize items start) := by
  obtain ⟨-, ⟨first, rfl⟩ | later⟩ := stands
  · rw [first]
    rfl
  · simp [paginate, later, Option.filter, inside, pageAt]

theorem after_pageAt (pageSize : Nat) (items : List α) (start : Nat) :
    if start + pageSize < items.length then
      (after (pageAt pageSize items start)).StandsAt (start + pageSize)
    else (after (pageAt pageSize items start)).finished = true := by
  split
  · next more =>
    have stop : min (start + pageSize) items.length = start + pageSize :=
      Nat.min_eq_left (Nat.le_of_lt more)
    simp [after, pageAt, stop, more, Option.filter, StandsAt]
  · next last =>
    have stop : min (start + pageSize) items.length = items.length :=
      Nat.min_eq_right (Nat.le_of_not_lt last)
    simp [after, pageAt, stop]

section Collect

variable {answers : Answers Call Reply σ} {source : PageSource Call Reply α} {pageSize : Nat}
  {items : List α} {state : σ} {refused : Failure → Prop}

theorem always_collectFrom (sized : 0 < pageSize)
    (served : ∀ token, (source token).outcome.Always answers (fun reply after => after = state ∧
      (reply = paginate pageSize items token ∨ ∃ failure, reply = .error failure ∧
        refused failure)) state)
    (allowed : Nat) (walk : Walk) (start : Nat) (found : List α)
    (standing : walk.StandsAt start ∧ start ≤ items.length ∧ 1 ≤ allowed ∧
      items.length - start ≤ allowed) :
    (collectFrom source allowed walk found).outcome.Always answers (fun reply after =>
      after = state ∧ (reply = .ok (found ++ items.drop start) ∨
        ∃ failure, reply = .error failure ∧ refused failure)) state := by
  -- The induction is on the pages it may still fetch; each page that does not end the listing
  -- moves the offset.
  induction allowed generalizing walk start found with
  | zero => omega
  | succ allowed ih =>
    obtain ⟨stands, inside, -, enough⟩ := standing
    refine (Program.always_bind _ _ _ _).2 ?_
    rw [next, stands.1, if_neg Bool.false_ne_true]
    refine (Program.always_bind _ _ _ _).2 ((served walk.token).imp ?_)
    rintro reply _ ⟨rfl, rfl | ⟨failure, rfl, why⟩⟩
    · rw [paginate_of_standsAt stands pageSize items inside]
      show (collectFrom source allowed (after (pageAt pageSize items start))
        (found ++ (pageAt pageSize items start).items)).outcome.Always _ _ _
      have next := after_pageAt pageSize items start
      split at next
      · next more =>
        have pieces : (pageAt pageSize items start).items ++ items.drop (start + pageSize) =
            items.drop start := by
          rw [items_pageAt, ← List.drop_drop, List.take_append_drop]
        have rest := ih _ _ (found ++ (pageAt pageSize items start).items)
          ⟨next, Nat.le_of_lt more, by omega, by omega⟩
        rwa [List.append_assoc, pieces] at rest
      · next last =>
        have whole : (pageAt pageSize items start).items = items.drop start := by
          rw [items_pageAt, List.take_of_length_le (by rw [List.length_drop]; omega)]
        rw [whole]
        cases allowed with
        | zero => exact ⟨rfl, .inl rfl⟩
        | succ allowed =>
          refine (Program.always_bind _ _ _ _).2 ?_
          rw [next_of_finished source _ next]
          exact ⟨rfl, .inl rfl⟩
    · exact ⟨rfl, .inr ⟨failure, rfl, why⟩⟩

theorem always_collect (sized : 0 < pageSize)
    (served : ∀ token, (source token).outcome.Always answers (fun reply after => after = state ∧
      (reply = paginate pageSize items token ∨ ∃ failure, reply = .error failure ∧
        refused failure)) state)
    (room : items.length ≤ pageLimit) :
    (Walk.start.collect source).outcome.Always answers (fun reply after => after = state ∧
      (reply = .ok items ∨ ∃ failure, reply = .error failure ∧ refused failure)) state :=
  always_collectFrom sized served pageLimit Walk.start 0 []
    ⟨start_standsAt, Nat.zero_le _, by decide, room⟩

theorem items_subset_of_paginate {token : Option String} {page : Page α}
    (given : paginate pageSize items token = .ok page) : page.items ⊆ items := by
  have slice : ∀ start stop, (items.take stop).drop start ⊆ items := fun start stop =>
    List.Subset.trans (List.drop_subset _ _) (List.take_subset _ _)
  unfold paginate at given
  simp only at given
  split at given
  · exact Except.ok.inj given ▸ slice _ _
  · split at given
    · exact Except.ok.inj given ▸ slice _ _
    · cases given

theorem always_collectFrom_subset
    (served : ∀ token, (source token).outcome.Always answers (fun reply after => after = state ∧
      (reply = paginate pageSize items token ∨ ∃ failure, reply = .error failure ∧
        refused failure)) state)
    (allowed : Nat) (walk : Walk) {found : List α} (start : found ⊆ items) :
    (collectFrom source allowed walk found).outcome.Always answers (fun reply after =>
      after = state ∧ ∀ all, reply = .ok all → all ⊆ items) state := by
  induction allowed generalizing walk found with
  | zero => exact ⟨rfl, fun all same => Except.ok.inj same ▸ start⟩
  | succ allowed ih =>
    refine (Program.always_bind _ _ _ _).2 ?_
    unfold next
    split
    · exact ⟨rfl, fun all same => Except.ok.inj same ▸ start⟩
    · refine (Program.always_bind _ _ _ _).2 ((served walk.token).imp ?_)
      rintro reply _ ⟨rfl, given⟩
      cases reply with
      | error failure => exact ⟨rfl, nofun⟩
      | ok page =>
        have listed : paginate pageSize items walk.token = .ok page := by
          rcases given with same | ⟨failure, failed, -⟩
          · exact same.symm
          · cases failed
        exact ih _ (List.append_subset.2 ⟨start, items_subset_of_paginate listed⟩)

end Collect

end Walk

end Converge
