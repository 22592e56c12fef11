import Converge.Proofs.Endpoint.Addresses
import Converge.Proofs.Reconcile

/-! A pass over an endpoint that was found. Its tags come first; if its subnets differ as well the
pass has to be read back, and otherwise it leaves the endpoint as desired or reports a failure. -/
namespace Converge.Resolver.Endpoint

open Converge.Provider

variable {site : Site} {refusal : Call → Failure → Prop} {registry : Registry} {id : String}
  {stored : StoredEndpoint} {tags : Tags} {desired : EndpointSpec} {observed : Endpoint}
  {post : PassResult Endpoint → Registry → Prop} {changes : Changes}

structure Patched (desired : EndpointSpec) (stored new : StoredEndpoint) : Prop where
  arn : new.record.arn = stored.record.arn
  direction : new.record.direction = stored.record.direction
  groups : new.record.securityGroupIds = stored.record.securityGroupIds
  status : new.record.status = stored.record.status
  name : new.record.name = desired.name
  endpointType : ∀ wanted ∈ desired.endpointType, new.record.endpointType = wanted

/-- How a pass ends that no failure stops: with a refresh if the addresses were changed, and
otherwise as the state of the endpoint says. -/
def endingOf (changes : Changes) (status : EndpointState) : PassEnding :=
  if changes.collections then .stale
  else if status.isTransitional then .unsettled
  else .settled

theorem ending_finished (changes : Changes) (reported : changes.collections = false →
      observed.status.status = some stored.record.status) :
    (endpointManager.finished observed changes).ending =
      endingOf changes stored.record.status := by
  show (if changes.collections then PassEnding.stale
    else if settled observed then .settled else .unsettled) = _
  unfold endingOf
  cases collections : changes.collections with
  | true => rfl
  | false =>
    rw [settled, reported collections]
    cases state : stored.record.status.isTransitional <;> simp [state]

theorem always_updatePrimary (refusal : Call → Failure → Prop) (desired : EndpointSpec)
    (seen observed : Endpoint) (changes : Changes) (valid : registry.Valid site)
    (held : registry.endpoints.get? id = some stored) (named : observed.id? = some id)
    (reported : changes.collections = false → observed.status.status = some stored.record.status)
    (name : stored.record.name = seen.spec.name)
    (kind : seen.spec.endpointType = some stored.record.endpointType) :
    (endpointManager.part desired (Pass.updatePrimary [addressesPath] (delta desired seen) observed
      changes)).Always (Answered site refusal) (fun result after => result.StoppedBy refusal ∨
        (result.observed.bind id? = some id ∧
          result.ending = endingOf changes stored.record.status ∧
          after.tags = registry.tags ∧ after.serial = registry.serial ∧
          ∃ new, after.endpoints.get? id = some new ∧ Patched desired stored new ∧
            new.addresses = stored.addresses)) registry := by
  refine Manager.always_updatePrimary _ _ _ _ |>.2 ?_
  split
  · refine (always_update held named (delta desired seen)).imp fun reply after given => ?_
    cases reply with
    | error failure => exact .inl ⟨failure, given, rfl⟩
    | ok updated =>
      obtain ⟨now, new, rfl, status, rfl⟩ := given
      have agrees := updatedEndpoint_agrees desired now name kind
      have keyed := (valid.endpoint id stored held).keyed
      refine .inr ⟨?_, ?_, rfl, rfl, _, (NameMap.get?_insert _ _ _ _).trans (if_pos rfl), ?_, rfl⟩
      · show updated.status.id = some id
        rw [status]
        exact congrArg some keyed
      · exact ending_finished { changes with primary := true } fun _ => by
          rw [status]
          rfl
      · exact ⟨rfl, rfl, rfl, rfl, agrees.1, agrees.2⟩
  · next same =>
    have agrees := (differentExcept_eq_false_iff desired seen).1 (Bool.eq_false_iff.2 same)
    refine .inr ⟨named, ending_finished changes reported, rfl, rfl, stored, held, ?_, rfl⟩
    refine ⟨rfl, rfl, rfl, rfl, name.trans agrees.1.symm, fun wanted asked => ?_⟩
    exact Option.some.inj (kind.symm.trans (agrees.2 wanted asked))

theorem always_updateTags {paths : List String}
    (tagged : registry.tags.get? stored.record.arn = some tags)
    (next : ∀ changed,
      (endpointManager.part desired (Pass.updateCollections paths
        (delta desired (ofStored desired stored tags)) (ofStored desired stored desired.tags)
        { Changes.none with tags := changed })).Always (Answered site refusal) post
        (registry.withTags stored.record.arn desired.tags))
    (stopped : ∀ result after, result.StoppedBy refusal → post result after) :
    (endpointManager.part desired (Pass.updateTags paths
      (delta desired (ofStored desired stored tags)) (ofStored desired stored tags))).Always
      (Answered site refusal) post registry := by
  refine Manager.always_updateTags_of_synced _ _ _ ((always_syncTags tagged).imp
    fun reply after given => ?_) (fun same => ?_) next
    fun failure result after refused failed => stopped result after ⟨failure, refused, failed⟩
  · cases reply <;> exact given
  have here : desired.tags = tags := (differentAt_tags desired _).1 same
  rw [here, Registry.withTags_self tagged]
  exact ⟨rfl, rfl⟩

theorem always_update_of_agree (valid : registry.Valid site)
    (held : registry.endpoints.get? id = some stored)
    (tagged : registry.tags.get? stored.record.arn = some tags)
    (immutable : checkImmutable desired (ofStored desired stored tags) = .ok ())
    (agree : SubnetsAgree desired (ofStored desired stored tags)) :
    (endpointManager.part desired (Pass.update [addressesPath] (ofStored desired stored
      tags))).Always (Answered site refusal) (fun result after => result.StoppedBy refusal ∨
        (result.observed.bind id? = some id ∧
          result.ending = (if stored.record.status.isTransitional then .unsettled else .settled) ∧
          after.tags.get? stored.record.arn = some desired.tags ∧
          ∃ new, after.endpoints.get? id = some new ∧ Patched desired stored new ∧
            new.addresses = stored.addresses)) registry := by
  have named : (ofStored desired stored tags).id? = some id :=
    congrArg some (valid.endpoint id stored held).keyed
  refine (Manager.always_update _ _).2 ?_
  rw [show endpointManager.checkImmutable desired (ofStored desired stored tags) = .ok () from
    immutable]
  simp only
  split
  · next same =>
    obtain ⟨sameTags, -, name, kind⟩ :=
      (isEmpty_delta_iff desired (ofStored desired stored tags)).1 same
    refine .inr ⟨named, ?_, tagged.trans (congrArg some sameTags.symm), stored, held, ?_, rfl⟩
    · exact ending_finished .none fun _ => rfl
    · exact ⟨rfl, rfl, rfl, rfl, name.symm, fun wanted asked => Option.some.inj (kind wanted asked)⟩
  · refine always_updateTags tagged (fun changed => ?_) fun result after stopped => .inl stopped
    refine (Manager.always_updateCollections _ _ _ _).2 ?_
    rw [if_neg (Bool.eq_false_iff.1 ((differentAt_addresses desired _).2 agree))]
    have retagged : (registry.withTags stored.record.arn desired.tags).Valid site :=
      valid.retag (Option.ne_none_iff_exists'.2 ⟨tags, tagged⟩) desired.tags
    have patches := always_updatePrimary refusal desired (ofStored desired stored tags)
      (ofStored desired stored desired.tags) { Changes.none with tags := changed } retagged held
      named (fun _ => rfl) rfl rfl
    refine patches.imp fun result after given => given.imp_right ?_
    rintro ⟨named, ending, sameTags, -, rest⟩
    refine ⟨named, ending, ?_, rest⟩
    rw [sameTags]
    exact (Registry.get?_withTags _ _ _ _).trans (if_pos rfl)

theorem always_updatePrimary_unsettled {σ : Type} {answers : Answers Call Call.Reply σ} {state : σ}
    {paths : List String} {delta : Delta} (changed : changes.collections = true) :
    (endpointManager.part desired (Pass.updatePrimary paths delta observed changes)).Always answers
      (fun result _ => result.ending ≠ .settled) state := by
  have refreshed : ∀ (changes : Changes) observed, changes.collections = true →
      (endpointManager.finished observed changes).ending ≠ .settled := by
    intro changes observed changed
    show (if changes.collections then PassEnding.stale else _) ≠ _
    rw [if_pos changed]
    exact nofun
  refine Manager.always_updatePrimary _ _ _ _ |>.2 ?_
  split
  · refine .of_forall fun reply after => ?_
    cases reply with
    | error failure => exact nofun
    | ok updated => exact refreshed _ _ changed
  · exact refreshed _ _ changed

theorem always_update_of_differ (tagged : registry.tags.get? stored.record.arn = some tags)
    (differ : ¬SubnetsAgree desired (ofStored desired stored tags)) :
    (endpointManager.part desired (Pass.update [addressesPath] (ofStored desired stored
      tags))).Always (Answered site refusal) (fun result _ => result.ending ≠ .settled)
      registry := by
  refine (Manager.always_update _ _).2 ?_
  split
  · exact nofun
  · have some : ¬(endpointManager.delta desired (ofStored desired stored tags)).isEmpty = true :=
      fun none => differ ((isEmpty_delta_iff desired _).1 none).2.1
    rw [if_neg some]
    refine always_updateTags tagged (fun changed => ?_) ?_
    · refine (Manager.always_updateCollections _ _ _ _).2 ?_
      rw [if_pos (Bool.ne_false_iff.1 fun same =>
        differ ((differentAt_addresses desired _).1 same))]
      have differs : ¬SubnetsAgree desired (ofStored desired stored desired.tags) := differ
      refine (always_syncAddresses_changed differs).imp fun applied after changed => ?_
      cases failed : applied.failure with
      | some failure => exact nofun
      | none => exact always_updatePrimary_unsettled (changed failed)
    · rintro result after ⟨failure, -, ending⟩
      rw [ending]
      exact nofun

end Converge.Resolver.Endpoint
