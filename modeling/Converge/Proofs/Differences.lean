import Converge.Delta

/-! What a delta answers after another comparison. A path that is recorded twice counts once, so
each answer is the one before, or what the last comparison adds to it. -/
namespace Converge.Delta

variable {α κ : Type} (delta : Delta) (path : String) (differs : Bool)

theorem any_paths_record (asks : String → Bool) :
    (delta.record path differs).paths.any asks =
      (delta.paths.any asks || (differs && asks path)) := by
  rw [Bool.eq_iff_iff]
  simp only [List.any_eq_true, mem_paths_record, Bool.or_eq_true, Bool.and_eq_true]
  constructor
  · rintro ⟨found, member | ⟨yes, rfl⟩, asked⟩
    · exact .inl ⟨found, member, asked⟩
    · exact .inr ⟨yes, asked⟩
  · rintro (⟨found, member, asked⟩ | ⟨yes, asked⟩)
    · exact ⟨found, .inl member, asked⟩
    · exact ⟨path, .inr ⟨yes, rfl⟩, asked⟩

@[simp]
theorem differentAt_record (asked : String) :
    (delta.record path differs).differentAt asked =
      (delta.differentAt asked || (differs && covers asked path)) :=
  any_paths_record delta path differs fun found => covers asked found

@[simp]
theorem differentExcept_record (except : List String) :
    (delta.record path differs).differentExcept except =
      (delta.differentExcept except ||
        (differs && !except.any fun asked => covers asked path)) :=
  any_paths_record delta path differs fun found => !except.any fun asked => covers asked found

theorem isEmpty_eq_any : delta.isEmpty = !delta.paths.any fun _ => true := by
  rw [isEmpty]
  cases delta.paths <;> rfl

@[simp]
theorem isEmpty_record : (delta.record path differs).isEmpty = (delta.isEmpty && !differs) := by
  rw [isEmpty_eq_any, isEmpty_eq_any, any_paths_record]
  simp

@[simp]
theorem differentAt_empty (asked : String) : empty.differentAt asked = false := rfl

@[simp]
theorem differentExcept_empty (except : List String) : empty.differentExcept except = false := rfl

@[simp]
theorem isEmpty_empty : empty.isEmpty = true := rfl

theorem unordered_eq_false_iff [DecidableEq α] (desired observed : List α) :
    (!(desired.all (fun item => item ∈ observed) && observed.all fun item => item ∈ desired)) =
      false ↔ ∀ item, item ∈ desired ↔ item ∈ observed := by
  simp only [Bool.not_eq_false', Bool.and_eq_true, List.all_eq_true, decide_eq_true_eq]
  exact ⟨fun both item => ⟨both.1 item, both.2 item⟩,
    fun same => ⟨fun item => (same item).1, fun item => (same item).2⟩⟩

theorem ifSet_eq_false_iff [DecidableEq α] (desired observed : Option α) :
    (desired.isSome && desired ≠ observed) = false ↔ ∀ value ∈ desired, observed = some value := by
  cases desired with
  | none => simp
  | some value =>
    simp only [Option.isSome_some, Bool.true_and, decide_eq_false_iff_not, Classical.not_not,
      Option.mem_some_iff, forall_eq']
    exact eq_comm

end Converge.Delta
