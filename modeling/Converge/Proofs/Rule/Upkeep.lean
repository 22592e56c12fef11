import Converge.Proofs.Listing
import Converge.Proofs.Rule.Tracking
import Converge.Proofs.Provider.Holdings

/-! The worker of a rule knows its id and all networks that it is associated with. If no look at the
rule pretends that it is missing, a pass that starts with the id and the networks of what is held
ends with them, whatever fails on the way. -/
namespace Converge.Resolver.Rule

open Converge.Provider Program

variable {charge : Charge} {pageSize : Nat} {desired : RuleSpec} {token : Token} {mine : Held}
  {held : Option Held} {last : Option Rule} {observed : Rule}

structure Mirrors (wanted : List String) (observed : Option Rule) (held : Option Held) : Prop where
  named : observed.bind id? = held.map Held.id
  fits : ∀ mine ∈ held, mine.Fits wanted
  covers : ∀ mine ∈ held, ∀ seen ∈ observed, ∀ vpc ∈ mine.vpcs, vpc ∈ seen.spec.vpcs

structure Reflects (wanted : List String) (seen : Rule) (mine : Held) : Prop where
  named : seen.id? = some mine.id
  fits : mine.Fits wanted
  covers : ∀ vpc ∈ mine.vpcs, vpc ∈ seen.spec.vpcs
  wanted : ∀ vpc ∈ seen.spec.vpcs, vpc ∈ wanted

theorem Reflects.mirrors {wanted : List String} (reflects : Reflects wanted observed mine) :
    Mirrors wanted (some observed) (some mine) where
  named := reflects.named
  fits _ same := Option.some.inj same ▸ reflects.fits
  covers _ same _ same' := Option.some.inj same ▸ Option.some.inj same' ▸ reflects.covers

structure Gaining (wanted : List String) (observed : Rule) (id : String)
    (progress : Progress RuleAssociation String Unit) (state : Option (Option Held)) : Prop where
  detached : progress.detached = []
  attached : ∀ vpc ∈ progress.attached.map RuleAssociation.vpcId, vpc ∈ wanted
  gained : ∃ mine, state = some (some mine) ∧ mine.id = id ∧ mine.Fits wanted ∧
    ∀ vpc ∈ mine.vpcs, vpc ∈ observed.spec.vpcs ∨
      vpc ∈ progress.attached.map RuleAssociation.vpcId

theorem always_attach_gaining (rule : charge.identity.1 = .rule) {id : String}
    {progress : Progress RuleAssociation String Unit} {association : RuleAssociation}
    (wanted : association.vpcId ∈ charge.vpcs) {state : Option (Option Held)}
    (gaining : Gaining charge.vpcs observed id progress state) :
    ((associations id).attach association).outcome.Always (charge.answers pageSize)
      (fun reply after => match reply with
        | .ok aggregate =>
          Gaining charge.vpcs observed id (progress.attach association aggregate) after
        | .error failure => Gaining charge.vpcs observed id (progress.fail failure) after)
      state := by
  obtain ⟨detached, attached, mine, rfl, rfl, fits, covers⟩ := gaining
  refine (Attempt.always_outcome_bind _ _ _ _).2 (Charge.always_ask_told
    (.associates rule rfl wanted) fun reply after told => ?_)
  cases reply with
  | error failure =>
    obtain rfl : after = some mine := told
    exact ⟨detached, attached, mine, rfl, rfl, fits, covers⟩
  | ok record =>
    obtain ⟨mine, later, same, rfl, own, listed, vpcs⟩ := told
    cases same
    have joined : ∀ vpc,
        vpc ∈ (progress.attach association none).attached.map RuleAssociation.vpcId ↔
          vpc ∈ progress.attached.map RuleAssociation.vpcId ∨ vpc = association.vpcId := by
      simp [Progress.attach, eq_comm]
    refine (Attempt.always_outcome_pure _ _ _).2 ⟨detached, ?_, later, rfl, own, ⟨?_, listed⟩, ?_⟩
    · intro vpc member
      rcases (joined vpc).1 member with old | rfl
      · exact attached vpc old
      · exact wanted
    · intro vpc member
      rcases (vpcs vpc).1 member with old | rfl
      · exact fits.wanted vpc old
      · exact wanted
    · intro vpc member
      rw [joined]
      rcases (vpcs vpc).1 member with old | new
      · exact (covers vpc old).imp_right .inl
      · exact .inr (.inr new)

theorem always_syncAssociations_reflects (rule : charge.identity.1 = .rule)
    (wants : charge.vpcs = desired.vpcs) (reflects : Reflects desired.vpcs observed mine) :
    (syncAssociations desired observed).Always (charge.answers pageSize) (fun applied after =>
      ∃ later, after = some (some later) ∧ Reflects desired.vpcs applied.observed later)
      (some (some mine)) := by
  have additive : (diff (associations mine.id).key desired.associations
      observed.spec.associations).removed = [] := by
    refine List.eq_nil_iff_forall_not_mem.2 fun vpc member => ?_
    obtain ⟨seen, unwanted⟩ := (mem_removed_iff _ _ _ _).1 member
    exact unwanted (reflects.wanted vpc seen)
  unfold syncAssociations
  rw [reflects.named]
  refine (always_bind _ _ _ _).2 ((Collection.always_sync_of_additive
    (Gaining desired.vpcs observed mine.id) additive ?_ ?_).imp ?_)
  · intro progress association rest state planned gaining
    have member := planned ▸ List.mem_append_right progress.attached List.mem_cons_self
    have wanted : association.vpcId ∈ desired.vpcs :=
      ((mem_map_added_iff _ _ _ _).1 (List.mem_map_of_mem member)).1
    rw [← wants] at wanted gaining ⊢
    refine (always_attach_gaining rule wanted gaining).imp fun reply after given => ?_
    cases reply <;> exact given
  · exact ⟨rfl, by simp [Progress.none], mine, rfl, rfl, reflects.fits,
      fun vpc member => .inl (reflects.covers vpc member)⟩
  · rintro progress _ ⟨detached, attached, later, rfl, same, fits, covers⟩
    have merged : ∀ vpc, vpc ∈ (progress.mergeInto RuleAssociation.vpcId
        observed.spec.associations).map RuleAssociation.vpcId ↔ vpc ∈ observed.spec.vpcs ∨
          vpc ∈ progress.attached.map RuleAssociation.vpcId := by
      simp [Progress.mergeInto, detached, RuleSpec.vpcs]
    refine (always_pure _ _ _).2 ⟨later, rfl, ?_, fits, fun vpc member => ?_, fun vpc member => ?_⟩
    · exact reflects.named.trans (congrArg some same.symm)
    · exact (merged vpc).2 (covers vpc member)
    · exact ((merged vpc).1 member).elim (reflects.wanted vpc) (attached vpc)

def Shows (wanted : List String) (held : Option Held) : Except Failure (Option Rule) → Prop
  | .error _ => True
  | .ok none => held = none
  | .ok (some found) => ∃ mine, held = some mine ∧ Reflects wanted found mine

theorem always_observeId_shows (sized : 0 < pageSize) (rule : charge.identity.1 = .rule)
    (fits : mine.Fits desired.vpcs) :
    (observeId desired mine.id).outcome.Always (charge.answers pageSize) (fun reply after =>
      after = some (some mine) ∧ Shows desired.vpcs (some mine) reply) (some (some mine)) := by
  refine (always_bind _ _ _ _).2 (Charge.always_ask_told (.quiet rfl) fun reply after told => ?_)
  cases reply with
  | error failure =>
    obtain ⟨rfl, honest⟩ := told
    simp only [honest rule rfl]
    exact ⟨rfl, trivial⟩
  | ok record =>
    obtain ⟨rfl, own⟩ := told
    have served : ∀ token, (ask (.listAssociations mine.id token)).outcome.Always
        (charge.answers pageSize) (fun reply after => after = some (some mine) ∧
          (reply = paginate pageSize mine.associations token ∨
            ∃ failure, reply = Except.error failure ∧ True)) (some (some mine)) := by
      refine fun token => Charge.always_ask_told (.quiet rfl) fun reply after told => ?_
      obtain ⟨rfl, page⟩ := told
      simpa using page mine rfl rule rfl
    refine (Attempt.always_outcome_bind _ _ _ _).2
      ((Walk.always_collect sized served fits.listed).imp ?_)
    rintro reply _ ⟨rfl, rfl | ⟨failure, rfl, -⟩⟩
    · have lists : (tagAccess.list record.arn).outcome.Asks (Call.isQuiet · = true) := asks_ask rfl
      refine (Attempt.always_outcome_bind _ _ _ _).2
        ((Charge.always_quiet (TagAccess.asks_fetch lists)).imp ?_)
      rintro reply _ rfl
      cases reply with
      | error failure => exact ⟨rfl, trivial⟩
      | ok tags =>
        refine (Attempt.always_outcome_pure _ _ _).2
          ⟨rfl, mine, rfl, congrArg some own, fits, ?_, ?_⟩
        · exact fun vpc member => by simpa [RuleSpec.vpcs, Held.vpcs] using member
        · exact fun vpc member => fits.wanted vpc (by simpa [RuleSpec.vpcs, Held.vpcs] using member)
    · exact ⟨rfl, trivial⟩

theorem always_observe_shows (sized : 0 < pageSize) (rule : charge.identity.1 = .rule)
    (mirrors : Mirrors desired.vpcs last held) :
    (observe desired last).outcome.Always (charge.answers pageSize) (fun reply after =>
      after = some held ∧ Shows desired.vpcs held reply) (some held) := by
  unfold observe
  cases named : last.bind id? with
  | none =>
    have nothing : held = none := Option.map_eq_none_iff.1 (mirrors.named.symm.trans named)
    exact ⟨rfl, nothing⟩
  | some id =>
    obtain ⟨mine, rfl, rfl⟩ := Option.map_eq_some_iff.1 (mirrors.named.symm.trans named)
    exact always_observeId_shows sized rule (mirrors.fits mine rfl)

theorem Reflects.within {wanted : List String} {changes : Changes} {ending : PassEnding}
    (reflects : Reflects wanted observed mine) :
    Within (fun (result : PassResult Rule) held => Mirrors wanted result.observed held)
      ⟨some observed, changes, ending⟩ (some (some mine)) :=
  ⟨some mine, rfl, reflects.mirrors⟩

theorem always_create_mirrors (own : charge.identity = (.rule, desired.name))
    (carries : charge.token = token.text) (wants : charge.vpcs = desired.vpcs)
    (mirrors : Mirrors desired.vpcs last none) :
    (ruleManager.part desired (Pass.create last token)).Always (charge.answers pageSize)
      (Within fun result held => Mirrors desired.vpcs result.observed held) (some none) := by
  have rule : charge.identity.1 = .rule := congrArg Prod.fst own
  refine (Manager.always_create last token).2 ((Attempt.always_outcome_bind _ _ _ _).2
    (Charge.always_ask_told (.creates ?_) fun reply after told => ?_))
  · simp [Call.creation?, own, carries]
  · cases reply with
    | error failure =>
      obtain rfl : after = none := told
      exact ⟨none, rfl, mirrors⟩
    | ok record =>
      obtain ⟨rfl, -⟩ := told
      have reflects : Reflects desired.vpcs ⟨{ desired with associations := [] }, statusOf record⟩
          ⟨record.id, []⟩ :=
        ⟨rfl, ⟨by simp [Held.vpcs], Nat.zero_le _⟩, by simp [Held.vpcs], by simp [RuleSpec.vpcs]⟩
      have attaches : (afterCreate desired
          ⟨{ desired with associations := [] }, statusOf record⟩).Always (charge.answers pageSize)
          (fun applied after => ∃ later, after = some (some later) ∧
            Reflects desired.vpcs applied.observed later) (some (some ⟨record.id, []⟩)) := by
        unfold afterCreate
        split
        · exact (always_pure _ _ _).2 ⟨_, rfl, reflects⟩
        · exact always_syncAssociations_reflects rule wants reflects
      refine (Attempt.always_outcome_pure _ _ _).2 (attaches.imp fun applied _ given => ?_)
      obtain ⟨later, rfl, reflects⟩ := given
      unfold Manager.applied
      split <;> exact reflects.within

theorem always_update_mirrors (rule : charge.identity.1 = .rule)
    (wants : charge.vpcs = desired.vpcs) (reflects : Reflects desired.vpcs observed mine) :
    (ruleManager.part desired (Pass.update ruleManager.collectionPaths observed)).Always
      (charge.answers pageSize)
      (Within fun result held => Mirrors desired.vpcs result.observed held) (some (some mine)) := by
  refine Manager.always_update_of_kept (fun seen state => ∃ mine, state = some (some mine) ∧
    Reflects desired.vpcs seen mine) ?_ ?_ ?_ ?_ ?_ ⟨mine, rfl, reflects⟩
  · rintro seen _ ⟨mine, rfl, holds⟩
    refine ((Charge.always_quiet (asks_syncTags (fun _ => rfl) fun _ => rfl)).and
      always_syncTags_rest).imp ?_
    rintro reply _ ⟨rfl, rest⟩
    cases reply with
    | error failure => exact ⟨mine, rfl, holds⟩
    | ok updated =>
      rw [rest updated rfl]
      exact ⟨mine, rfl, holds.named, holds.fits, holds.covers, holds.wanted⟩
  · rintro seen _ _ ⟨mine, rfl, holds⟩
    exact always_syncAssociations_reflects rule wants holds
  · rintro seen changes failure _ ⟨mine, rfl, holds⟩
    exact holds.within
  · exact fun _ => reflects.within
  · rintro seen changes _ ⟨mine, rfl, holds⟩
    refine (Manager.always_updatePrimary _ _ _ _).2 ?_
    split
    · refine (Attempt.always_outcome_bind _ _ _ _).2 ?_
      rw [holds.named]
      refine (Attempt.always_outcome_bind _ _ _ _).2 (Charge.always_ask_told (.quiet rfl)
        fun reply after told => ?_)
      cases reply with
      | error failure =>
        obtain rfl : after = some mine := told
        exact holds.within
      | ok record =>
        obtain ⟨rfl, same⟩ := told
        have updated : Reflects desired.vpcs
            ⟨{ seen.spec with
                name := record.name
                resolverEndpointId := record.resolverEndpointId
                targetIps := record.targetIps }, statusOf record⟩ mine :=
          ⟨congrArg some same, holds.fits, holds.covers, holds.wanted⟩
        exact (Attempt.always_outcome_pure _ _ _).2 updated.within
    · exact holds.within

theorem always_pass_mirrors (sized : 0 < pageSize) (own : charge.identity = (.rule, desired.name))
    (carries : charge.token = token.text) (wants : charge.vpcs = desired.vpcs)
    (mirrors : Mirrors desired.vpcs last held) :
    (ruleManager.pass desired token last).Always (charge.answers pageSize)
      (Within fun result held => Mirrors desired.vpcs result.observed held) (some held) := by
  have rule : charge.identity.1 = .rule := congrArg Prod.fst own
  refine (Manager.always_pass token last).2 ((always_observe_shows sized rule mirrors).imp ?_)
  rintro reply _ ⟨rfl, shows⟩
  match reply with
  | .error failure => exact ⟨held, rfl, mirrors⟩
  | .ok none =>
    obtain rfl : held = none := shows
    exact always_create_mirrors own carries wants mirrors
  | .ok (some observed) =>
    obtain ⟨mine, rfl, reflects⟩ := shows
    exact always_update_mirrors rule wants reflects

end Converge.Resolver.Rule
