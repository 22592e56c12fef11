import Converge.Proofs.Collections
import Converge.Proofs.Endpoint.Snapshot
import Converge.Proofs.Endpoint.Tracking
import Converge.Proofs.Rule.Snapshot
import Converge.Proofs.Rule.Tracking
import Converge.Proofs.TagPlans

/-! Gates and plans. Whether a step is taken is decided by a comparison, and what it does by a plan,
and the two are made apart from each other. They agree, so that a pass says that it has changed a
group exactly if it has asked for a change there. -/
namespace Converge

open Provider Resolver Program

theorem tagDiff_isEmpty_iff (desired observed : Tags) :
    (tagDiff desired observed).isEmpty = true ↔ desired = observed := by
  simp only [TagDiff.isEmpty, Bool.and_eq_true, List.isEmpty_iff]
  constructor
  · rintro ⟨added, removed⟩
    have same := apply_tagDiff desired observed
    rw [TagDiff.apply, added, removed] at same
    exact same.symm
  · rintro rfl
    constructor
    · refine List.eq_nil_iff_forall_not_mem.2 fun tag member => ?_
      obtain ⟨there, absent⟩ := (mem_added_pairs desired desired tag.key tag.value).1
        (List.mem_map_of_mem member)
      exact absent there
    · refine List.eq_nil_iff_forall_not_mem.2 fun key member => ?_
      obtain ⟨absent, there⟩ := (mem_removed_tagDiff desired desired key).1 member
      exact there absent

theorem eq_not_of_iff {differs nothing : Bool} (agree : differs = false ↔ nothing = true) :
    differs = !nothing := by
  cases differs <;> cases nothing <;> simp_all

namespace Resolver.Endpoint

theorem differentAt_addresses_eq (desired : EndpointSpec) (observed : Endpoint) :
    (delta desired observed).differentAt addressesPath =
      !(diff AddressRequest.subnetId desired.ipAddresses observed.spec.ipAddresses).isEmpty := by
  have agree := differentAt_addresses desired observed
  rw [List.any_cons, List.any_nil, Bool.or_false] at agree
  exact eq_not_of_iff (agree.trans (diff_isEmpty_iff _ _ _).symm)

theorem differentAt_tags_eq (desired : EndpointSpec) (observed : Endpoint) :
    (delta desired observed).differentAt tagsPath =
      !(tagDiff desired.tags observed.spec.tags).isEmpty :=
  eq_not_of_iff ((differentAt_tags desired observed).trans (tagDiff_isEmpty_iff _ _).symm)

end Resolver.Endpoint

namespace Resolver.Rule

theorem differentAt_associations_eq (desired : RuleSpec) (observed : Rule) :
    (delta desired observed).differentAt associationsPath =
      !(diff RuleAssociation.vpcId desired.associations observed.spec.associations).isEmpty := by
  have agree := differentAt_associations desired observed
  rw [List.any_cons, List.any_nil, Bool.or_false] at agree
  exact eq_not_of_iff (agree.trans (diff_isEmpty_iff _ _ _).symm)

theorem differentAt_tags_eq (desired : RuleSpec) (observed : Rule) :
    (delta desired observed).differentAt tagsPath =
      !(tagDiff desired.tags observed.spec.tags).isEmpty :=
  eq_not_of_iff ((differentAt_tags desired observed).trans (tagDiff_isEmpty_iff _ _).symm)

end Resolver.Rule

namespace Provider

/-- The call attaches an item of a collection, or detaches one. -/
def Call.isMoving : Call → Bool
  | associateAddress _ _ | disassociateAddress _ _ | associateRule _ _
  | disassociateRule _ _ => true
  | _ => false

/-- The call changes nothing. -/
def Call.isLooking : Call → Bool
  | getEndpoint _ | listAddresses _ _ | getRule _ | listAssociations _ _ | listTags _ => true
  | _ => false

theorem Call.not_isMoving_of_isLooking {call : Call} (looks : call.isLooking = true) :
    call.isMoving = false := by
  cases call <;> first | rfl | cases looks

theorem Call.not_isTagging_of_isLooking {call : Call} (looks : call.isLooking = true) :
    call.isTagging = false := by
  cases call <;> first | rfl | cases looks

/-- A flag that is up exactly if some call of a sort was made, if none of them has failed. -/
def Signals (sort : Call → Bool) (flag : Bool) (log : Log) : Prop :=
  Unfailing sort log → (flag = true ↔ about sort log ≠ [])

section Signals

variable {sort : Call → Bool} {flag : Bool} {log longer : Log}

theorem Signals.of_none (none : about sort log = []) : Signals sort false log :=
  fun _ => iff_of_false nofun (not_not_intro none)

theorem Signals.congr (signals : Signals sort flag log)
    (same : about sort longer = about sort log) : Signals sort flag longer := by
  intro fine
  rw [same]
  exact signals ((unfailing_congr same).1 fine)

theorem Signals.concat {taken : Exchange Call Call.Reply} (sorted : sort taken.call = true) :
    Signals sort true (log ++ [taken]) := by
  intro _
  simp [about_concat, sorted]

end Signals

section Moving

variable {α κ γ : Type} {log : Log}

/-- An attempt to move an item: it makes one call, and succeeds if that does, or it fails without
making any. -/
def Moves (attempt : Request α) : Prop :=
  ∀ log, attempt.outcome.Always (traced anyReply) (fun reply after =>
    (after.2 = log ∧ ∃ failure, reply = .error failure) ∨
      ∃ taken, after.2 = log ++ [taken] ∧ taken.call.isMoving = true ∧
        (Succeeded taken → ∃ value, reply = .ok value)) ((), log)

theorem moves_ask_bind {call : Call} {next : call.Value → Request α} (moving : call.isMoving = true)
    (succeeds : ∀ value, ∃ result, next value = pure result) : Moves (ask call >>= next) := by
  intro log
  refine (Attempt.always_outcome_bind _ _ _ _).2 ((always_request _ _ _).2 ?_)
  rintro reply ⟨-, _⟩ ⟨-, rfl⟩
  cases reply with
  | error failure => exact .inr ⟨_, rfl, moving, fun ⟨_, same⟩ => nomatch same⟩
  | ok value =>
    obtain ⟨result, same⟩ := succeeds value
    show (next value).outcome.Always _ _ _
    rw [same]
    exact .inr ⟨_, rfl, moving, fun _ => ⟨result, rfl⟩⟩

theorem Moves.always_signals {attempt : Request (Option γ)} {progress : Progress α κ γ}
    {state : Unit × Log} (moves : Moves attempt) (reached : Option γ → Progress α κ γ)
    (changes : ∀ value, (reached value).changed = true)
    (signals : Signals Call.isMoving progress.changed state.2) :
    attempt.outcome.Always (traced anyReply) (fun reply after => match reply with
      | .ok value => Signals Call.isMoving (reached value).changed after.2
      | .error failure => Signals Call.isMoving (progress.fail failure).changed after.2) state := by
  obtain ⟨_, log⟩ := state
  refine (moves log).imp ?_
  rintro reply after (⟨same, failure, rfl⟩ | ⟨taken, longer, moving, succeeds⟩)
  · simp only [same]
    exact signals
  · cases reply with
    | ok value =>
      simp only [longer, changes]
      exact .concat moving
    | error failure =>
      intro fine
      rw [longer] at fine
      exact nomatch succeeds ((unfailing_concat_iff log taken moving).1 fine).2

theorem Collection.always_sync_signals [DecidableEq κ]
    {collection : Collection Call Call.Reply α κ γ} {desired observed : List α}
    (attaches : ∀ item, Moves (collection.attach item))
    (detaches : ∀ k, Moves (collection.detach k)) (fresh : about Call.isMoving log = []) :
    (collection.sync desired observed).Always (traced anyReply)
      (fun progress after => Signals Call.isMoving progress.changed after.2) ((), log) := by
  refine Collection.always_sync_of_kept
    (fun progress (state : Unit × Log) => Signals Call.isMoving progress.changed state.2)
    (fun progress item rest state _ signals => ?_) (fun progress k rest state _ signals => ?_)
    (.of_none fresh)
  · exact (attaches item).always_signals (progress.attach item)
      (fun _ => by simp [Progress.attach, Progress.changed]) signals
  · exact (detaches k).always_signals (progress.detach k)
      (fun _ => by simp [Progress.detach, Progress.changed]) signals

end Moving

end Provider

namespace Manager

variable {D O : Type} {manager : Manager Call Call.Reply D O} {desired : D}

/-- How a kind of resource goes with its gates: it only looks in order to observe, exchanges the
tags that its comparison of tags is about, and moves items in no other step than the sync of its
collection. -/
structure Gated (manager : Manager Call Call.Reply D O) (desired : D) : Prop where
  looks : ∀ last, (manager.observe desired last).outcome.Asks fun call => call.isLooking = true
  exchanges : ∀ seen, ∃ arn wanted held updated,
    (manager.delta desired seen).differentAt tagsPath = !(tagDiff wanted held).isEmpty ∧
    manager.syncTags desired seen = (do
      let arn ← Attempt.ofExcept arn
      let _ ← tagAccess.sync arn wanted held
      pure updated)
  moves : ∀ seen delta,
    (manager.syncCollections desired seen delta).Asks fun call => call.isTagging = false
  signals : ∀ seen delta log, about Call.isMoving log = [] →
    (manager.syncCollections desired seen delta).Always (traced anyReply)
      (fun applied after => Signals Call.isMoving applied.changed after.2) ((), log)
  updates : ∀ seen delta, (manager.update desired seen delta).outcome.Asks
    fun call => call.isTagging = false ∧ call.isMoving = false

namespace Gated

variable (gated : manager.Gated desired) {paths : List String} {observed : O}

include gated

theorem always_syncTags (differ : (manager.delta desired observed).differentAt tagsPath = true) :
    (manager.syncTags desired observed).outcome.Always (traced anyReply)
      (fun reply after => about Call.isMoving after.2 = [] ∧ match reply with
        | .error _ => Signals Call.isTagging false after.2
        | .ok _ => Signals Call.isTagging true after.2) ((), []) := by
  obtain ⟨arn, wanted, held, updated, gate, program⟩ := gated.exchanges observed
  rw [program]
  refine (Attempt.always_outcome_bind _ _ _ _).2 ((Attempt.always_outcome_ofExcept _ _ _).2 ?_)
  cases arn with
  | error failure => exact ⟨rfl, .of_none rfl⟩
  | ok arn =>
    have quiet : (tagAccess.sync arn wanted held).outcome.Asks fun call => call.isMoving = false :=
      TagAccess.asks_sync (asks_ask rfl) (asks_ask rfl)
    refine (Attempt.always_outcome_bind _ _ _ _).2
      (((strict_sync arn wanted held _ anyReply () [] (by decide)).and
        (always_sync_calls.and (always_about_same quiet))).imp ?_)
    rintro reply ⟨_, log⟩ ⟨strict, ⟨made, rfl, -, whole⟩, still⟩
    cases reply with
    | error failure => exact ⟨still, fun fine => nomatch strict.2 fine⟩
    | ok plan =>
      refine (Attempt.always_outcome_pure _ _ _).2 ⟨still, fun _ => iff_of_true rfl ?_⟩
      have calls : log.map Exchange.call = (tagDiff wanted held).calls arn := (whole plan rfl).2
      have only : about Call.isTagging log = log :=
        TagDiff.about_of_calls fun _ made => calls.subst made
      show about Call.isTagging log ≠ []
      rw [only]
      rintro rfl
      rw [gate, (TagDiff.calls_eq_nil_iff _ arn).1 calls.symm] at differ
      cases differ

theorem always_update :
    (manager.part desired (Pass.update paths observed)).Always (traced anyReply)
      (fun result after => Signals Call.isTagging result.changes.tags after.2 ∧
        Signals Call.isMoving result.changes.collections after.2) ((), []) := by
  refine (always_update_of_stages paths
    (fun _ changes (state : Unit × Log) => (changes.collections = false ∧
      about Call.isMoving state.2 = []) ∧ Signals Call.isTagging changes.tags state.2)
    (fun _ changes (state : Unit × Log) => Signals Call.isTagging changes.tags state.2 ∧
      Signals Call.isMoving changes.collections state.2) (fun differ => ?_)
    (fun seen changes delta state holds => ?_) (fun seen changes state holds => ?_)
    (fun seen changes delta state holds => ?_) ?_).imp fun result after ⟨_, _, holds⟩ => holds
  · refine (gated.always_syncTags differ).imp fun reply after given => ?_
    cases reply with
    | error failure => exact ⟨given.2, .of_none given.1⟩
    | ok updated => exact ⟨⟨rfl, given.1⟩, given.2⟩
  · refine ((gated.signals seen delta state.2 holds.1.2).and
      (always_about_same (gated.moves seen delta))).imp fun applied after given => ?_
    exact ⟨holds.2.congr given.2, given.1⟩
  · refine ⟨holds.2, ?_⟩
    rw [holds.1.1]
    exact .of_none holds.1.2
  · refine ((always_about_same ((gated.updates seen delta).imp fun _ quiet => quiet.1)).and
      (always_about_same ((gated.updates seen delta).imp fun _ quiet => quiet.2))).imp ?_
    intro reply after same
    have stays := And.intro (holds.1.congr same.1) (holds.2.congr same.2)
    cases reply <;> exact stays
  · exact ⟨⟨rfl, rfl⟩, .of_none rfl⟩

end Gated

theorem always_update_of_same {paths : List String} {observed : O}
    (same : (manager.delta desired observed).isEmpty = true) :
    (manager.part desired (Pass.update paths observed)).Always (traced anyReply)
      (fun _ after => after.2 = []) ((), []) := by
  refine (Manager.always_update _ _).2 ?_
  split
  · exact rfl
  · rw [if_pos same]

/-- What a pass says of changes if it has found its resource, whoever serves it: the flags for tags
and for collections are up exactly if a call of that sort was made, unless some call has failed. It
has only looked if there is no difference. -/
def SaysChanges {σ : Type} (manager : Manager Call Call.Reply D O) (desired : D) (token : Token)
    (last : Option O) (serve : (call : Call) → σ → call.Reply × σ) (state : σ) : Prop :=
  let pass := manager.pass desired token last
  let calls := pass.transcript serve state
  let changes := (pass.run serve state).1.changes
  ∀ found, ((manager.observe desired last).outcome.run serve state).1 = .ok (some found) →
    (Faultless calls → (changes.tags = true ↔ about Call.isTagging calls ≠ []) ∧
      (changes.collections = true ↔ about Call.isMoving calls ≠ [])) ∧
    ((manager.delta desired found).isEmpty = true →
      ∀ taken ∈ calls, taken.call.isLooking = true)

theorem Gated.saysChanges {σ : Type} (gated : manager.Gated desired) (token : Token)
    (last : Option O) (serve : (call : Call) → σ → call.Reply × σ) (state : σ) :
    manager.SaysChanges desired token last serve state := by
  intro found finds
  have looks := (gated.looks last).forall_transcript serve state
  rw [transcript_pass_of_found finds, run_pass_of_found finds]
  generalize (manager.observe desired last).outcome.transcript serve state = looked at looks ⊢
  generalize ((manager.observe desired last).outcome.run serve state).2 = middle
  constructor
  · intro fine
    obtain ⟨tags, collections⟩ := post_run_recorded serve
      (manager.part desired (Pass.update manager.collectionPaths found)) middle []
      gated.always_update
    have skips : ∀ (sort : Call → Bool) (rest : Log),
        (∀ call : Call, call.isLooking = true → sort call = false) →
        about sort (looked ++ rest) = about sort rest := by
      intro sort rest spares
      have none : about sort looked = [] := List.filter_eq_nil_iff.2 fun taken member =>
        Bool.eq_false_iff.1 (spares taken.call (looks taken member))
      rw [about, List.filter_append, ← about, none, List.nil_append, about]
    have rest : Faultless ((manager.part desired
        (Pass.update manager.collectionPaths found)).transcript serve middle) :=
      fun taken member => fine taken (List.mem_append_right _ member)
    rw [skips _ _ fun _ => Call.not_isTagging_of_isLooking,
      skips _ _ fun _ => Call.not_isMoving_of_isLooking]
    exact ⟨tags (rest.unfailing _), collections (rest.unfailing _)⟩
  · intro same
    have silent : [] ++ (manager.part desired
        (Pass.update manager.collectionPaths found)).transcript serve middle = [] :=
      post_run_recorded serve _ middle [] (always_update_of_same same)
    rw [List.nil_append] at silent
    rw [silent, List.append_nil]
    exact looks

end Manager

namespace Resolver.Endpoint

theorem gated (desired : EndpointSpec) : endpointManager.Gated desired where
  looks := asks_observe (fun _ => rfl) (fun _ _ => rfl) fun _ => rfl
  exchanges seen := ⟨_, _, _, _, differentAt_tags_eq desired seen, rfl⟩
  moves _ _ := asks_syncAddresses (fun _ _ => rfl) fun _ _ _ _ _ => rfl
  updates _ delta := asks_update (fun _ _ => ⟨rfl, rfl⟩) delta
  signals seen delta log fresh := by
    show (syncAddresses desired seen).Always _ _ _
    unfold syncAddresses
    split
    · exact .of_none fresh
    · next id _ =>
      have attaches : ∀ request, Moves ((addresses id seen).attach request) := fun request =>
        moves_ask_bind rfl fun record => ⟨_, rfl⟩
      have detaches : ∀ subnet, Moves ((addresses id seen).detach subnet) := by
        intro subnet
        simp only [addresses]
        split
        · exact fun log => .inl ⟨rfl, _, rfl⟩
        · exact moves_ask_bind rfl fun record => ⟨_, rfl⟩
      exact (always_bind _ _ _ _).2
        ((Collection.always_sync_signals attaches detaches fresh).imp fun _ _ signals => signals)

end Resolver.Endpoint

namespace Resolver.Rule

theorem moves_detach (id vpcId : String) : Moves ((associations id).detach vpcId) := by
  intro log
  refine (Attempt.always_outcome_bind _ _ _ _).2 ((always_bind _ _ _ _).2 ?_)
  refine (always_request _ _ _).2 ?_
  rintro reply ⟨_, _⟩ ⟨-, rfl⟩
  cases reply with
  | ok association => exact .inr ⟨_, rfl, rfl, fun _ => ⟨_, rfl⟩⟩
  | error failure =>
    refine (always_pure _ _ _).2 ?_
    have failed : ¬Succeeded ⟨.disassociateRule id vpcId, .error failure⟩ := fun ⟨_, same⟩ =>
      nomatch same
    split <;> exact .inr ⟨_, rfl, rfl, fun done => (failed done).elim⟩

theorem gated (desired : RuleSpec) : ruleManager.Gated desired where
  looks := asks_observe (fun _ => rfl) (fun _ _ => rfl) fun _ => rfl
  exchanges seen := ⟨_, _, _, _, differentAt_tags_eq desired seen, rfl⟩
  moves _ _ := asks_syncAssociations (fun _ _ => rfl) fun _ _ _ => rfl
  updates _ _ := asks_update fun _ => ⟨rfl, rfl⟩
  signals seen delta log fresh := by
    show (syncAssociations desired seen).Always _ _ _
    unfold syncAssociations
    split
    · exact .of_none fresh
    · next id _ =>
      have attaches : ∀ association, Moves ((associations id).attach association) :=
        fun association => moves_ask_bind rfl fun _ => ⟨_, rfl⟩
      exact (always_bind _ _ _ _).2 ((Collection.always_sync_signals attaches (moves_detach id)
        fresh).imp fun _ _ signals => signals)

end Resolver.Rule

/-- Comparisons and plans agree on whether there is anything to do, for tags and for collections,
and so a pass that has found its resource says what it has asked for. -/
theorem gates_agree :
    (∀ (desired : EndpointSpec) (observed : Endpoint),
      (endpointManager.delta desired observed).differentAt Endpoint.addressesPath =
        !(diff AddressRequest.subnetId desired.ipAddresses observed.spec.ipAddresses).isEmpty ∧
      (endpointManager.delta desired observed).differentAt tagsPath =
        !(tagDiff desired.tags observed.spec.tags).isEmpty) ∧
    (∀ (desired : RuleSpec) (observed : Rule),
      (ruleManager.delta desired observed).differentAt Rule.associationsPath =
        !(diff RuleAssociation.vpcId desired.associations observed.spec.associations).isEmpty ∧
      (ruleManager.delta desired observed).differentAt tagsPath =
        !(tagDiff desired.tags observed.spec.tags).isEmpty) ∧
    ∀ (σ : Type) (serve : (call : Call) → σ → call.Reply × σ) (state : σ) (token : Token),
      (∀ desired last, endpointManager.SaysChanges desired token last serve state) ∧
      ∀ desired last, ruleManager.SaysChanges desired token last serve state :=
  ⟨fun desired observed => ⟨Endpoint.differentAt_addresses_eq desired observed,
      Endpoint.differentAt_tags_eq desired observed⟩,
    fun desired observed => ⟨Rule.differentAt_associations_eq desired observed,
      Rule.differentAt_tags_eq desired observed⟩,
    fun _ serve state token =>
      ⟨fun desired last => (Endpoint.gated desired).saysChanges token last serve state,
        fun desired last => (Rule.gated desired).saysChanges token last serve state⟩⟩

def relabelled (subnets : List String) (tags : List Tag) : EndpointSpec where
  name := "inbound"
  createdAt := none
  direction := .inbound
  endpointType := none
  securityGroupIds := ["sg-1"]
  ipAddresses := subnets.map fun subnet => ⟨subnet, none, none⟩
  tags := Tags.ofTags tags

theorem gates_agree_labelled :
    let id := "rslvr-in-00000000000000001"
    let known : Endpoint := { (default : Endpoint) with status := { (default : EndpointStatus) with
      id := some id } }
    let tags := [⟨"env", "dev"⟩, ⟨"owner", "ops"⟩, ⟨"team", "net"⟩]
    let moved := relabelled ["subnet-c", "subnet-a"] [⟨"env", "prod"⟩]
    let same := relabelled ["subnet-b", "subnet-a", "subnet-b"] tags
    let pass (desired : EndpointSpec) := endpointManager.pass desired
      (Token.forResource "inbound" none .epoch) (some known)
    let changes := ((pass moved).run (World.serve .unbounded) labelled).1.changes
    (changes.tags = true ∧ changes.collections = true) ∧
      ∀ taken ∈ (pass same).transcript (World.serve .unbounded) labelled,
        taken.call.isLooking = true := by
  intro id known tags moved same pass changes
  let stored := (labelled.registry.endpoints.get? id).getD default
  have told := (gates_agree.2.2 World (World.serve .unbounded) labelled
    (Token.forResource "inbound" none .epoch)).1
  constructor
  · obtain ⟨signals, -⟩ := told moved (some known)
      (Endpoint.ofStored moved stored (Tags.ofTags tags)) (by decide +kernel)
    obtain ⟨exchanged, attached⟩ := signals (by decide +kernel)
    simp only [changes, pass]
    exact ⟨exchanged.2 (by decide +kernel), attached.2 (by decide +kernel)⟩
  · obtain ⟨-, quiet⟩ := told same (some known)
      (Endpoint.ofStored same stored (Tags.ofTags tags)) (by decide +kernel)
    exact quiet (by decide +kernel)

end Converge
