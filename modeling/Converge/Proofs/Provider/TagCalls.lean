import Converge.Proofs.Provider.Answered

/-! The tags of a resource as a provider has them. What is fetched is what the registry holds, and
a sync that nothing stops leaves exactly the desired tags. -/
namespace Converge.Provider

variable {site : Site} {refusal : Call → Failure → Prop} {registry : Registry} {arn : String}
  {observed : Tags}

theorem always_fetch (bound : registry.tags.get? arn = some observed) :
    (tagAccess.fetch arn).outcome.Always (Answered site refusal) (fun reply after =>
      after = registry ∧ match reply with
        | .ok tags => tags = observed
        | .error failure => Refused refusal failure) registry := by
  have found : registry.tagsAt arn = .ok observed := Registry.tagsAt_eq_ok_iff.2 bound
  refine (Attempt.always_outcome_bind _ _ _ _).2 ?_
  refine always_look (.listTags arn) (.ok observed.toTags) (fun now => ?_) ?_ ?_
  · simp only [Registry.perform, found]
    rfl
  · exact ⟨rfl, Tags.ofTags_toTags observed⟩
  · exact fun failure refused => ⟨rfl, .listTags arn, refused⟩

theorem always_tag (bound : registry.tags.get? arn = some observed) (added : List Tag) :
    (tagAccess.tag arn added).outcome.Always (Answered site refusal) (fun reply after =>
      match reply with
      | .ok () => after = { registry with tags := registry.tags.insert arn (observed.add added) }
      | .error failure => Refused refusal failure) registry :=
  always_succeed (.tag arn added)
    (fun _ => ⟨(), _, Registry.tag_eq_ok_iff.2 ⟨observed, bound, rfl⟩, rfl⟩)
    fun _ refused => ⟨.tag arn added, refused⟩

theorem always_untag (bound : registry.tags.get? arn = some observed) (keys : List String) :
    (tagAccess.untag arn keys).outcome.Always (Answered site refusal) (fun reply after =>
      match reply with
      | .ok () => after = { registry with tags := registry.tags.insert arn (observed.remove keys) }
      | .error failure => Refused refusal failure) registry :=
  always_succeed (.untag arn keys)
    (fun _ => ⟨(), _, Registry.untag_eq_ok_iff.2 ⟨observed, bound, rfl⟩, rfl⟩)
    fun _ refused => ⟨.untag arn keys, refused⟩

def Registry.withTags (registry : Registry) (arn : String) (tags : Tags) : Registry :=
  { registry with tags := registry.tags.insert arn tags }

theorem Registry.withTags_self (bound : registry.tags.get? arn = some observed) :
    registry.withTags arn observed = registry := by
  rw [withTags, NameMap.insert_self bound]

@[simp]
theorem Registry.withTags_withTags (first second : Tags) :
    (registry.withTags arn first).withTags arn second = registry.withTags arn second := by
  simp [withTags]

@[simp]
theorem Registry.get?_withTags (registry : Registry) (arn other : String) (tags : Tags) :
    (registry.withTags arn tags).tags.get? other =
      if arn = other then some tags else registry.tags.get? other :=
  NameMap.get?_insert registry.tags arn other tags

theorem always_unless {α : Type} {skip : Bool} {attempt : Request Unit} (next : Unit → Request α)
    {post : Except Failure α → Registry → Prop}
    (skipped : skip = true → (next ()).outcome.Always (Answered site refusal) post registry)
    (made : attempt.outcome.Always (Answered site refusal) (fun reply after => match reply with
      | .ok done => (next done).outcome.Always (Answered site refusal) post after
      | .error failure => post (.error failure) after) registry) :
    (Attempt.outcome (if (!skip) = true then attempt >>= next else next ())).Always
      (Answered site refusal) post registry := by
  cases skip with
  | true => exact skipped rfl
  | false =>
    refine (Attempt.always_outcome_bind _ _ _ _).2 (made.imp fun reply after given => ?_)
    cases reply <;> exact given

theorem always_sync (bound : registry.tags.get? arn = some observed) (desired : Tags) :
    (tagAccess.sync arn desired observed).outcome.Always (Answered site refusal)
      (fun reply after => match reply with
        | .ok _ => after = registry.withTags arn desired
        | .error failure => Refused refusal failure) registry := by
  have removing : ∀ middle (tags : Tags), middle.tags.get? arn = some tags →
      (Attempt.outcome (if (!(tagDiff desired observed).removed.isEmpty) = true then do
          tagAccess.untag arn (tagDiff desired observed).removed
          pure (tagDiff desired observed)
        else pure (tagDiff desired observed))).Always (Answered site refusal)
        (fun reply after => match reply with
          | .ok _ => after = middle.withTags arn (tags.remove (tagDiff desired observed).removed)
          | .error failure => Refused refusal failure) middle := by
    intro middle tags known
    refine always_unless (fun _ => pure (tagDiff desired observed)) (fun none => ?_) ?_
    · rw [List.isEmpty_iff.1 none]
      exact (Registry.withTags_self known).symm
    · refine (always_untag known _).imp fun reply after given => ?_
      cases reply <;> exact given
  have result := apply_tagDiff desired observed
  refine always_unless (fun _ => _) (fun none => ?_) ?_
  · refine (removing registry observed bound).imp fun reply after given => ?_
    cases reply with
    | error failure => exact given
    | ok plan =>
      rw [TagDiff.apply, List.isEmpty_iff.1 none] at result
      exact given.trans (congrArg (registry.withTags arn) result)
  · refine (always_tag bound _).imp fun reply middle added => ?_
    cases reply with
    | error failure => exact added
    | ok =>
      have known : middle.tags.get? arn = some (observed.add (tagDiff desired observed).added) := by
        rw [added]
        exact (NameMap.get?_insert _ _ _ _).trans (if_pos rfl)
      refine (removing middle _ known).imp fun reply after given => ?_
      cases reply with
      | error failure => exact given
      | ok plan =>
        have first : middle = registry.withTags arn
            (observed.add (tagDiff desired observed).added) := added
        rw [first, Registry.withTags_withTags] at given
        exact given.trans (congrArg (registry.withTags arn) result)

end Converge.Provider
