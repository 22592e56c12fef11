import Converge.Manifest

/-! What a valid manifest is sure of: no two resources of a kind have one name. -/
namespace Converge.Manifest

open Resolver

theorem checkNames_eq_ok_iff {kind : ManifestSection} {used names : List String} :
    checkNames kind used names = .ok () ↔
      names.Nodup ∧ ∀ name ∈ names, name ≠ "" ∧ name ∉ used := by
  induction names generalizing used with
  | nil => exact ⟨fun _ => ⟨.nil, nofun⟩, fun _ => rfl⟩
  | cons name rest ih =>
    unfold checkNames
    by_cases empty : name = ""
    · simp [empty]
    · by_cases known : name ∈ used
      · simp [empty, known]
      · rw [if_neg empty, if_neg known, ih, List.nodup_cons]
        simp only [List.mem_cons, not_or, forall_eq_or_imp]
        constructor
        · rintro ⟨apart, fresh⟩
          exact ⟨⟨fun again => (fresh name again).2.1 rfl, apart⟩, ⟨empty, known⟩,
            fun other member => ⟨(fresh other member).1, (fresh other member).2.2⟩⟩
        · rintro ⟨⟨single, apart⟩, -, fresh⟩
          refine ⟨apart, fun other member => ⟨(fresh other member).1, ?_, (fresh other member).2⟩⟩
          rintro rfl
          exact single member

theorem andThen_eq_ok_iff {first second : Except ManifestError Unit} :
    (first >>= fun _ => second) = .ok () ↔ first = .ok () ∧ second = .ok () := by
  cases first with
  | ok => exact (and_iff_right rfl).symm
  | error error => exact iff_of_false nofun fun both => nomatch both.1

theorem nodup_of_valid {manifest : Manifest} (valid : manifest.validate = .ok ()) :
    (manifest.endpoints.map (·.name)).Nodup ∧ (manifest.rules.map (·.name)).Nodup := by
  rw [validate, andThen_eq_ok_iff, andThen_eq_ok_iff] at valid
  obtain ⟨endpoints, rules, -⟩ := valid
  exact ⟨(checkNames_eq_ok_iff.1 endpoints).1, (checkNames_eq_ok_iff.1 rules).1⟩

end Converge.Manifest
