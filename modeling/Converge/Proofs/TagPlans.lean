import Converge.Proofs.Provider.TagCalls
import Converge.Proofs.Tagging
import Converge.Proofs.TagSets
import Mathlib.Data.List.Basic

/-! Plans for tags. What is told apart by key and value together is still planned once for a key,
and a provider that carries the plan out is asked for nothing else. -/
namespace Converge

open Provider Program

structure TagDiff.Suits (desired observed : Tags) (plan : TagDiff) : Prop where
  exact : (observed.add plan.added).remove plan.removed = desired
  apart : (plan.added.map Tag.key).Disjoint plan.removed
  adds : ∀ tag ∈ plan.added, desired.get? tag.key = some tag.value ∧
    (observed.get? tag.key = none ∨ ∃ old, observed.get? tag.key = some old ∧ old ≠ tag.value)
  removes : ∀ key ∈ plan.removed, observed.contains key = true ∧ desired.contains key = false

theorem tagDiff_suits (desired observed : Tags) :
    (tagDiff desired observed).Suits desired observed where
  exact := apply_tagDiff desired observed
  apart key new gone := by
    obtain ⟨value, wanted, -⟩ := (mem_added_keys desired observed key).1 new
    have unwanted := ((mem_removed_tagDiff desired observed key).1 gone).1
    rw [wanted] at unwanted
    cases unwanted
  adds tag member := by
    obtain ⟨wanted, differs⟩ := (mem_added_pairs desired observed tag.key tag.value).1
      (List.mem_map_of_mem member)
    refine ⟨wanted, ?_⟩
    cases found : observed.get? tag.key with
    | none => exact .inl rfl
    | some old => exact .inr ⟨old, rfl, fun same => differs (found.trans (congrArg some same))⟩
  removes key member := by
    obtain ⟨unwanted, there⟩ := (mem_removed_tagDiff desired observed key).1 member
    exact ⟨Option.isSome_iff_ne_none.2 there, Option.isSome_eq_false_iff.2 (by simp [unwanted])⟩

/-- The calls that a plan comes to. One that would be empty is left out. -/
def TagDiff.calls (plan : TagDiff) (arn : String) : List Call :=
  (if plan.added = [] then [] else [.tag arn plan.added]) ++
    if plan.removed = [] then [] else [.untag arn plan.removed]

theorem TagDiff.calls_eq_nil_iff (plan : TagDiff) (arn : String) :
    plan.calls arn = [] ↔ plan.isEmpty = true := by
  simp [calls, isEmpty]

theorem TagDiff.about_of_calls {plan : TagDiff} {arn : String} {log : Log}
    (asked : log.map Exchange.call ⊆ plan.calls arn) : about Call.isTagging log = log := by
  refine List.filter_eq_self.2 fun taken made => ?_
  have member := asked (List.mem_map_of_mem made)
  unfold calls at member
  rcases List.mem_append.1 member with added | removed
  · split at added
    · cases added
    · rw [List.mem_singleton.1 added]
      rfl
  · split at removed
    · cases removed
    · rw [List.mem_singleton.1 removed]
      rfl

section Calls

variable {σ : Type} {answers : Answers Call Call.Reply σ} {state : σ} {log : Log} {arn : String}
  {desired observed : Tags}

/-- The calls made since a record began are the first ones of some list, and all of them if there is
something to return. -/
def Follows {α : Type} (list : List Call) (value : α) (log : Log) (reply : Except Failure α)
    (after : σ × Log) : Prop :=
  ∃ made, after.2 = log ++ made ∧ made.map Exchange.call <+: list ∧
    ∀ given, reply = .ok given → given = value ∧ made.map Exchange.call = list

theorem always_follows_pure (value : TagDiff) :
    (Attempt.outcome (pure value : Request TagDiff)).Always (traced answers) (Follows [] value log)
      (state, log) :=
  (Attempt.always_outcome_pure _ _ _).2
    ⟨[], (List.append_nil _).symm, List.prefix_rfl, fun _ same => ⟨(Except.ok.inj same).symm, rfl⟩⟩

theorem always_follows_bind {call : Call} {value : TagDiff} {list : List Call}
    {next : call.Value → Request TagDiff}
    (rest : ∀ done (state : σ) log, (next done).outcome.Always (traced answers)
      (Follows list value log) (state, log)) :
    (Attempt.outcome (ask call >>= next)).Always (traced answers)
      (Follows (call :: list) value log) (state, log) := by
  refine (Attempt.always_outcome_bind _ _ _ _).2 ((always_request _ _ _).2 ?_)
  rintro reply ⟨middle, _⟩ ⟨-, rfl⟩
  cases reply with
  | error failure => exact ⟨[_], rfl, List.prefix_append [call] list, nofun⟩
  | ok done =>
    refine (rest done middle _).imp fun result after ⟨made, record, start, full⟩ => ?_
    refine ⟨⟨call, .ok done⟩ :: made, record.trans (by simp), ?_, fun given same => ?_⟩
    · exact List.cons_prefix_cons.2 ⟨rfl, start⟩
    · exact ⟨(full given same).1, congrArg (call :: ·) (full given same).2⟩

theorem always_follows_unless {ι : Type} (items : List ι) (call : Call) {value : TagDiff}
    {list : List Call} {next : Request TagDiff}
    (rest : ∀ (state : σ) log, next.outcome.Always (traced answers) (Follows list value log)
      (state, log)) :
    (Attempt.outcome (if (!items.isEmpty) = true then ask call >>= fun _ => next else next)).Always
      (traced answers) (Follows ((if items = [] then [] else [call]) ++ list) value log)
      (state, log) := by
  cases items with
  | nil => exact rest state log
  | cons item items => exact always_follows_bind fun _ => rest

theorem always_sync_calls :
    (tagAccess.sync arn desired observed).outcome.Always (traced answers)
      (Follows ((tagDiff desired observed).calls arn) (tagDiff desired observed) log)
      (state, log) := by
  refine always_follows_unless (tagDiff desired observed).added (.tag arn _) fun state log => ?_
  rw [← List.append_nil (if (tagDiff desired observed).removed = [] then [] else _)]
  exact always_follows_unless _ (.untag arn _) fun state log => always_follows_pure _

end Calls

/-- The plan for some tags leads from what there is to what is desired, with nothing in it that
could be left out. A sync asks for no more than what is planned, adding before it removes. If no
call fails it has asked for all of it and leaves the desired tags, and at a provider that nothing is
arranged to fail at and that may take its time no call fails. -/
theorem tags_exchanged (desired observed : Tags) :
    let plan := tagDiff desired observed
    plan.Suits desired observed ∧
    ∀ (world : World) (arn : String) (bounds : Bounds),
      world.registry.tags.get? arn = some observed →
      let sync := (tagAccess.sync arn desired observed).outcome
      let calls := sync.transcript (World.serve bounds) world
      let (result, after) := sync.run (World.serve bounds) world
      calls.map Exchange.call <+: plan.calls arn ∧
      (world.IsCalm → bounds = .unbounded → Faultless calls) ∧
      (Faultless calls → calls.map Exchange.call = plan.calls arn ∧ result = .ok plan ∧
        after.registry = world.registry.withTags arn desired) := by
  refine ⟨tagDiff_suits desired observed, fun world arn bounds stored => ?_⟩
  intro sync calls
  have effect : sync.Always (Answered world.site anyRefusal) _ world.registry :=
    always_sync stored desired
  obtain ⟨⟨left, strict⟩, made, record, start, whole⟩ :=
    World.post_run_traced anyRefusal (fun _ _ _ => trivial) (fun _ _ _ _ => trivial) bounds sync []
      (((effect.traced []).and (strict_sync arn desired observed _ _ _ [] (by decide))).and
        always_sync_calls)
  rw [List.nil_append, List.nil_append] at record
  subst record
  have only : about Call.isTagging calls = calls := TagDiff.about_of_calls start.subset
  have faultless : (∃ value, (sync.run (World.serve bounds) world).1 = .ok value) ↔
      Faultless calls := by
    rw [Faultless, ← only]
    exact strict
  refine ⟨start, fun calm unbounded => faultless.1 ?_, fun fine => ?_⟩
  · subst unbounded
    have ended := World.post_run_unbounded sync calm (always_sync stored desired)
    cases result : (sync.run (World.serve .unbounded) world).1 with
    | ok value => exact ⟨value, rfl⟩
    | error failure =>
      rw [result] at ended
      exact (not_refused failure ended).elim
  · obtain ⟨value, result⟩ := faultless.2 fine
    obtain ⟨rfl, calls⟩ := whole value result
    rw [result] at left
    exact ⟨calls, result, left⟩

/-- A provider with one endpoint and its tags. -/
def labelled : World := World.still.completeAll
  [.createEndpoint {
    creatorRequestId := "token"
    name := "inbound"
    direction := .inbound
    endpointType := none
    securityGroupIds := ["sg-1"]
    ipAddresses := [⟨"subnet-a", none, none⟩, ⟨"subnet-b", none, none⟩]
    tags := [⟨"env", "dev"⟩, ⟨"owner", "ops"⟩, ⟨"team", "net"⟩] }]

theorem tags_exchanged_labelled :
    let arn := labelled.site.arn ArnKind.endpoint.label "rslvr-in-00000000000000001"
    let desired := Tags.ofTags [⟨"team", "net"⟩, ⟨"env", "prod"⟩]
    let observed := Tags.ofTags [⟨"env", "dev"⟩, ⟨"owner", "ops"⟩, ⟨"team", "net"⟩]
    let sync := (tagAccess.sync arn desired observed).outcome
    labelled.registry.tags.get? arn = some observed ∧
    (sync.transcript (World.serve .unbounded) labelled).map Exchange.call =
      [.tag arn [⟨"env", "prod"⟩], .untag arn ["owner"]] ∧
    (sync.run (World.serve .unbounded) labelled).2.registry =
      labelled.registry.withTags arn desired := by
  intro arn desired observed sync
  have stored : labelled.registry.tags.get? arn = some observed := by decide +kernel
  have calm : labelled.IsCalm := by
    show labelled.journal.faults = []
    decide +kernel
  obtain ⟨-, fine, exchanged⟩ :=
    (tags_exchanged desired observed).2 labelled arn .unbounded stored
  obtain ⟨calls, -, left⟩ := exchanged (fine calm rfl)
  refine ⟨stored, calls.trans ?_, left⟩
  decide +kernel

end Converge
