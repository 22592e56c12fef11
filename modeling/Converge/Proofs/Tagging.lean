import Converge.Proofs.Provider.TagCalls
import Converge.Proofs.Provider.Transcripts
import Converge.Proofs.Tracking
import Converge.Resolver.EndpointManager

/-! Tags through a pass. They are changed by up to two calls, and a pass takes both for one step: it
says that tags have changed, and shows the new ones, only if neither call failed. -/
namespace Converge

open Provider Resolver Program

namespace Provider

/-- The call changes the tags of something. -/
def Call.isTagging : Call → Bool
  | tag _ _ | untag _ _ => true
  | _ => false

def Spotless (log : Log) : Prop := ∀ taken ∈ about Call.isTagging log, Succeeded taken

instance (log : Log) : Decidable (Spotless log) := inferInstanceAs (Decidable (∀ _ ∈ _, _))

theorem spotless_concat_iff (log : Log) (taken : Exchange Call Call.Reply)
    (tags : taken.call.isTagging = true) :
    Spotless (log ++ [taken]) ↔ Spotless log ∧ Succeeded taken :=
  unfailing_concat_iff log taken tags

theorem spotless_of_none {log : Log} (none : about Call.isTagging log = []) : Spotless log :=
  unfailing_of_none none

section Registry

variable {site : Site} {now : Timestamp} {registry after : Registry} {call : Call}

theorem Registry.tags_of_plain {value : call.Value} (plain : call.isPlain = true)
    (spares : call.isTagging = false)
    (done : registry.perform site now call = .ok (value, after)) : after.tags = registry.tags := by
  cases call with
  | createEndpoint | createRule | deleteEndpoint | deleteRule => cases plain
  | tag | untag => cases spares
  | getEndpoint | getRule | listAddresses | listAssociations | listTags =>
    obtain ⟨-, rfl⟩ := look_eq_ok_iff.1 done
    rfl
  | updateEndpoint =>
    obtain ⟨stored, -, rfl, rfl⟩ := updateEndpoint_eq_ok_iff.1 done
    rfl
  | associateAddress =>
    obtain ⟨stored, -, effect⟩ := associateAddress_eq_ok_iff.1 done
    split at effect <;> simp [effect.2]
  | disassociateAddress =>
    obtain ⟨stored, -, effect⟩ := disassociateAddress_eq_ok_iff.1 done
    split at effect
    · simp [effect.2.2]
    · simp [effect.2]
  | updateRule =>
    obtain ⟨-, old, -, -, rfl, rfl⟩ := updateRule_eq_ok_iff.1 done
    rfl
  | associateRule =>
    obtain ⟨-, ⟨-, rfl⟩ | ⟨-, -, rfl⟩⟩ := associateRule_eq_ok done <;> rfl
  | disassociateRule =>
    obtain ⟨associations, -, rfl⟩ := disassociateRule_eq_ok_iff.1 done
    rfl

end Registry

section Strictness

variable {α β : Type}

/-- The attempt succeeds exactly if none of its calls about tags fails, whoever answers. -/
def Strict (attempt : Request α) : Prop :=
  ∀ (σ : Type) (answers : Answers Call Call.Reply σ) (state : σ) (log : Log), Spotless log →
    attempt.outcome.Always (traced answers)
      (fun reply after => (∃ value, reply = .ok value) ↔ Spotless after.2) (state, log)

theorem strict_pure (value : α) : Strict (pure value : Request α) := by
  intro σ answers state log spotless
  exact (Attempt.always_outcome_pure _ _ _).2 (iff_of_true ⟨value, rfl⟩ spotless)

theorem strict_ask (call : Call) (tags : call.isTagging = true) : Strict (ask call) := by
  rintro σ answers state log spotless reply ⟨after, longer⟩ ⟨-, rfl⟩
  refine Iff.trans ?_ (spotless_concat_iff log ⟨call, reply⟩ tags).symm
  exact (and_iff_right spotless).symm

theorem strict_bind {attempt : Request α} {next : α → Request β} (first : Strict attempt)
    (rest : ∀ value, Strict (next value)) : Strict (attempt >>= next) := by
  intro σ answers state log spotless
  refine (Attempt.always_outcome_bind _ _ _ _).2 ((first σ answers state log spotless).imp ?_)
  rintro reply ⟨middle, longer⟩ both
  cases reply with
  | error failure =>
    exact iff_of_false nofun fun spotless => nomatch both.2 spotless
  | ok value => exact rest value σ answers middle longer (both.1 ⟨value, rfl⟩)

theorem strict_sync (arn : String) (desired observed : Tags) :
    Strict (tagAccess.sync arn desired observed) := by
  have removes : Strict (do
      if !(tagDiff desired observed).removed.isEmpty then
        tagAccess.untag arn (tagDiff desired observed).removed
      pure (tagDiff desired observed)) := by
    split
    · exact strict_bind (strict_ask (.untag arn _) rfl) fun _ => strict_pure _
    · exact strict_pure _
  unfold TagAccess.sync
  simp only
  split
  · exact strict_bind (strict_ask (.tag arn _) rfl) fun _ => removes
  · exact removes

end Strictness

theorem spotless_congr {log longer : Log}
    (same : about Call.isTagging longer = about Call.isTagging log) :
    Spotless longer ↔ Spotless log := unfailing_congr same

def Call.SparesTags (call : Call) : Prop := call.isPlain = true ∧ call.isTagging = false

section Programs

variable {α : Type} {site : Site} {refusal : Call → Failure → Prop} {registry : Registry}
  {log : Log} {program : Program Call Call.Reply α}

theorem always_sameTags (asks : program.Asks Call.SparesTags) :
    program.Always (Answered site refusal) (fun _ after => after.tags = registry.tags)
      registry := by
  refine Asks.always_kept (fun after : Registry => after.tags = registry.tags) asks
    (fun call before reply after spares kept answered => ?_) rfl
  cases answered with
  | done now done => exact (Registry.tags_of_plain spares.1 spares.2 done).trans kept
  | rejected | refused => exact kept

theorem always_spared (asks : program.Asks Call.SparesTags) (valid : registry.Valid site) :
    program.Always (traced (Answered site refusal)) (fun _ after =>
      (after.1.Valid site ∧ after.1.tags = registry.tags) ∧
        about Call.isTagging after.2 = about Call.isTagging log) (registry, log) :=
  (((always_valid program valid).and (always_sameTags asks)).traced log).and
    (always_about_same (asks.imp fun _ spares => spares.2))

theorem always_fetch_shown {α O : Type} {arn : String} {tags : Tags} {list : Request α}
    (tagged : registry.tags.get? arn = some tags) (lists : list.outcome.Asks Call.SparesTags)
    (snapshot : α → Tags → O) :
    (Attempt.outcome (do
      let items ← list
      let tags ← tagAccess.fetch arn
      pure (some (snapshot items tags)))).Always (Answered site refusal)
      (fun reply _ => ∀ seen, reply = .ok (some seen) → ∃ items, seen = snapshot items tags)
      registry := by
  refine (Attempt.always_outcome_bind _ _ _ _).2 ((always_sameTags lists).imp ?_)
  intro reply middle same
  cases reply with
  | error failure => exact fun seen shown => nomatch shown
  | ok items =>
    rw [← same] at tagged
    refine (Attempt.always_outcome_bind _ _ _ _).2 ((always_fetch tagged).imp ?_)
    rintro reply after ⟨-, fetched⟩
    cases reply with
    | error failure => exact fun seen shown => nomatch shown
    | ok found =>
      refine (Attempt.always_outcome_pure _ _ _).2 fun seen shown => ⟨items, ?_⟩
      cases shown
      exact congrArg (snapshot items) fetched

end Programs

end Provider

section Passes

variable {D O : Type} {site : Site} {kind : ArnKind} {id? arn? : O → Option String}
  {tags : O → Tags} {manager : Manager Call Call.Reply D O} {desired : D} {registry : Registry}

namespace Manager

structure HandlesTags (site : Site) (kind : ArnKind) (id? arn? : O → Option String)
    (tags : O → Tags) (manager : Manager Call Call.Reply D O) (desired : D) : Prop where
  observe : ∀ last registry, registry.Valid site →
    (manager.observe desired last).outcome.Always (Answered site anyRefusal)
      (fun reply _ => ∀ seen, reply = .ok (some seen) → ∃ id, last.bind id? = some id ∧
        id? seen = some id ∧ arn? seen = some (site.arn kind.label id) ∧
        registry.tags.get? (site.arn kind.label id) = some (tags seen)) registry
  looks : ∀ last, (manager.observe desired last).outcome.Asks Call.SparesTags
  creates : ∀ token, (manager.create desired token).outcome.Asks fun call => call.isTagging = false
  completes : ∀ created, (manager.afterCreate desired created).Asks fun call =>
    call.isTagging = false
  syncs : ∀ seen, ∃ what wanted updated, id? updated = id? seen ∧ tags updated = wanted ∧
    manager.syncTags desired seen = (do
      let arn ← Attempt.ofExcept (known what (arn? seen))
      let _ ← tagAccess.sync arn wanted (tags seen)
      pure updated)
  collects : ∀ seen delta, (manager.syncCollections desired seen delta).Asks Call.SparesTags
  collected : ∀ seen delta registry,
    (manager.syncCollections desired seen delta).Always (Answered site anyRefusal)
      (fun applied _ => id? applied.observed = id? seen ∧ tags applied.observed = tags seen)
      registry
  updates : ∀ seen delta, (manager.update desired seen delta).outcome.Asks Call.SparesTags
  updated : ∀ seen delta registry, registry.Valid site →
    (manager.update desired seen delta).outcome.Always (Answered site anyRefusal)
      (fun reply _ => ∀ updated, reply = .ok updated →
        id? updated = id? seen ∧ tags updated = tags seen) registry

end Manager

/-- What a pass over the resource with an id says of tags. It is right as long as no call about them
has failed, and afterwards it is what was right when the pass began. -/
structure TagReport (site : Site) (kind : ArnKind) (id? : O → Option String) (tags : O → Tags)
    (start : NameMap Tags) (id : String) (seen : O) (changes : Changes) (after : Registry × Log) :
    Prop where
  valid : after.1.Valid site
  named : id? seen = some id
  shown : Spotless after.2 → after.1.tags.get? (site.arn kind.label id) = some (tags seen) ∧
    (changes.tags = true ∨ about Call.isTagging after.2 = [])
  kept : ¬Spotless after.2 → changes.tags = false ∧
    start.get? (site.arn kind.label id) = some (tags seen)

theorem TagReport.spared {start : NameMap Tags} {id : String} {seen updated : O}
    {changes others : Changes} {before after : Registry × Log}
    (report : TagReport site kind id? tags start id seen changes before)
    (same : id? updated = id? seen ∧ tags updated = tags seen) (flag : others.tags = changes.tags)
    (spared : (after.1.Valid site ∧ after.1.tags = before.1.tags) ∧
      about Call.isTagging after.2 = about Call.isTagging before.2) :
    TagReport site kind id? tags start id updated others after := by
  obtain ⟨⟨valid, stored⟩, record⟩ := spared
  have spotless := spotless_congr record
  refine ⟨valid, same.1.trans report.named, fun fine => ?_, fun stained => ?_⟩
  · rw [stored, same.2, flag, record]
    exact report.shown (spotless.1 fine)
  · rw [same.2, flag]
    exact report.kept fun fine => stained (spotless.2 fine)

namespace Manager.HandlesTags

variable (handles : manager.HandlesTags site kind id? arn? tags desired)

include handles

theorem always_syncTags {id : String} {seen : O} {log : Log} (valid : registry.Valid site)
    (named : id? seen = some id) (located : arn? seen = some (site.arn kind.label id))
    (stored : registry.tags.get? (site.arn kind.label id) = some (tags seen))
    (fresh : about Call.isTagging log = []) :
    (manager.syncTags desired seen).outcome.Always (traced (Answered site anyRefusal))
      (fun reply after => match reply with
        | .error _ => TagReport site kind id? tags registry.tags id seen .none after
        | .ok updated => TagReport site kind id? tags registry.tags id updated
            { Changes.none with tags := true } after)
      (registry, log) := by
  obtain ⟨what, wanted, updated, same, shows, program⟩ := handles.syncs seen
  have effect : (tagAccess.sync (site.arn kind.label id) wanted (tags seen)).outcome.Always
      (Answered site anyRefusal) _ registry := Provider.always_sync stored wanted
  have strict := strict_sync (site.arn kind.label id) wanted (tags seen) Registry
    (Answered site anyRefusal) registry log (spotless_of_none fresh)
  have lasting : (tagAccess.sync (site.arn kind.label id) wanted (tags seen)).outcome.Always
      (Answered site anyRefusal) _ registry := always_valid _ valid
  rw [program, located]
  refine (Attempt.always_outcome_bind _ _ _ _).2 ?_
  refine (Attempt.always_outcome_ofExcept _ _ _).2 ?_
  refine (Attempt.always_outcome_bind _ _ _ _).2
    ((((effect.and lasting).traced log).and strict).imp ?_)
  rintro reply ⟨after, longer⟩ ⟨⟨done, valid⟩, fine⟩
  cases reply with
  | error failure =>
    refine ⟨valid, named, fun spotless => ?_, fun _ => ⟨rfl, stored⟩⟩
    exact nomatch fine.2 spotless
  | ok plan =>
    have spotless : Spotless longer := fine.1 ⟨plan, rfl⟩
    refine (Attempt.always_outcome_pure _ _ _).2
      ⟨valid, same.trans named, fun _ => ⟨?_, .inl rfl⟩, fun stained => absurd spotless stained⟩
    have left : after = registry.withTags (site.arn kind.label id) wanted := done
    rw [left, Registry.get?_withTags, if_pos rfl, shows]

theorem always_pass {last : Option O} {token : Token} (valid : registry.Valid site) :
    (manager.pass desired token last).Always (traced (Answered site anyRefusal))
      (fun result after => about Call.isTagging after.2 = [] ∨ ∃ id seen, last.bind id? = some id ∧
        result.observed = some seen ∧
        TagReport site kind id? tags registry.tags id seen result.changes after)
      (registry, []) := by
  have looked := ((handles.observe last registry valid).traced []).and
    (always_spared (handles.looks last) valid)
  refine (Manager.always_pass token last).2 (looked.imp ?_)
  rintro reply ⟨middle, log⟩ ⟨found, ⟨valid, stored⟩, fresh⟩
  have fresh : about Call.isTagging log = [] := fresh
  match reply with
  | .error failure => exact .inl fresh
  | .ok none =>
    refine (Manager.always_create last token).2 ((always_about_same (handles.creates token)).imp ?_)
    rintro reply ⟨later, longer⟩ same
    cases reply with
    | error failure => exact .inl (same.trans fresh)
    | ok created =>
      refine (always_about_same (handles.completes created)).imp fun applied after again => ?_
      exact .inl (again.trans (same.trans fresh))
  | .ok (some observed) =>
    obtain ⟨id, asked, named, located, held⟩ := found observed rfl
    rw [← stored] at held ⊢
    have synced := handles.always_syncTags valid named located held fresh
    refine (Manager.always_update_of_tracked _ (TagReport site kind id? tags middle.tags id)
      synced ?_ ?_ ?_).imp fun result after ⟨seen, shown, report⟩ =>
        .inr ⟨id, seen, asked, shown, report⟩
    · rintro seen changes delta ⟨before, record⟩ - report
      refine (((handles.collected seen delta before).traced record).and
        (always_spared (handles.collects seen delta) report.valid)).imp ?_
      exact fun applied after ⟨same, spared⟩ => report.spared same rfl spared
    · rintro seen changes delta ⟨before, record⟩ report
      refine (((handles.updated seen delta before report.valid).traced record).and
        (always_spared (handles.updates seen delta) report.valid)).imp ?_
      rintro reply after ⟨same, spared⟩
      cases reply with
      | error failure => exact report.spared ⟨rfl, rfl⟩ rfl spared
      | ok updated => exact report.spared (same updated rfl) rfl spared
    · exact ⟨valid, named, fun _ => ⟨held, .inr fresh⟩, fun stained =>
        absurd (spotless_of_none fresh) stained⟩

end Manager.HandlesTags

end Passes

end Converge
