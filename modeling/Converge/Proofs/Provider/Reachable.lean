import Converge.Proofs.Provider.Answered
import Converge.Provider.World

/-! Providers over time. Whatever is called, forced or set to fail, and however calls overlap, the
registry of a provider stays valid. A served call is answered as the registry answers it, and is
refused only if it was cut off or hit by a fault. -/
namespace Converge.Provider

open Converge.Resolver

def Fault.failure (fault : Fault) : Failure :=
  .provider fault.code s!"injected failure of {fault.operation.label}"

namespace Journal

theorem lookup_cons_getD (operation other : Operation) (count : Nat)
    (counts : List (Operation × Nat)) :
    (List.lookup other ((operation, count) :: counts)).getD 0 =
      if other = operation then count else (counts.lookup other).getD 0 := by
  rw [List.lookup_cons]
  by_cases same : other = operation
  · simp [same]
  · simp [beq_eq_false_iff_ne.2 same, same]

theorem lookup_raise (operation other : Operation) (counts : List (Operation × Nat)) :
    ((raise operation counts).lookup other).getD 0 =
      (counts.lookup other).getD 0 + if other = operation then 1 else 0 := by
  induction counts with
  | nil =>
    rw [raise, lookup_cons_getD]
    exact (Nat.zero_add _).symm
  | cons head rest ih =>
    obtain ⟨kind, count⟩ := head
    rw [raise]
    split
    · next here =>
      subst here
      rw [lookup_cons_getD, lookup_cons_getD]
      split <;> rfl
    · next apart =>
      rw [lookup_cons_getD, lookup_cons_getD, ih]
      split
      · next same => rw [if_neg fun equal => apart (same.symm.trans equal), Nat.add_zero]
      · rfl

variable (journal : Journal) (call : Call)

theorem count_enter (operation : Operation) :
    (journal.enter call).2.count operation =
      journal.count operation + if operation = call.operation then 1 else 0 := by
  unfold enter
  simp only
  split <;> exact lookup_raise call.operation operation journal.counts

theorem mem_of_mem_faults_enter {fault : Fault} (member : fault ∈ (journal.enter call).2.faults) :
    fault ∈ journal.faults := by
  unfold enter at member
  simp only at member
  split at member
  · exact List.mem_of_mem_eraseP member
  · exact member

theorem fault_of_enter {failure : Failure} (hit : (journal.enter call).1 = some failure) :
    ∃ fault ∈ journal.faults, fault.operation = call.operation ∧
      fault.number = (journal.enter call).2.count call.operation ∧ failure = fault.failure := by
  unfold enter at hit ⊢
  simp only at hit ⊢
  split at hit
  · next fault found =>
    have fits := List.find?_some found
    simp only [Bool.and_eq_true, decide_eq_true_eq] at fits
    refine ⟨fault, List.mem_of_find?_eq_some found, fits.1, fits.2, ?_⟩
    rw [Fault.failure, fits.1]
    exact (Option.some.inj hit).symm
  · cases hit

end Journal

namespace World

variable {world : World} {bounds : Bounds} {call : Call}

/-- What a provider may look like after others: nothing but the registry and the time changes
freely. -/
structure Later (before after : World) : Prop where
  site : after.site = before.site
  counts : ∀ operation, before.journal.count operation ≤ after.journal.count operation
  faults : ∀ fault ∈ after.journal.faults, fault ∈ before.journal.faults

namespace Later

theorem refl (world : World) : Later world world := ⟨rfl, fun _ => Nat.le_refl _, fun _ => id⟩

theorem trans (first second third : World) (before : Later first second)
    (after : Later second third) : Later first third where
  site := after.site.trans before.site
  counts operation := Nat.le_trans (before.counts operation) (after.counts operation)
  faults fault member := before.faults fault (after.faults fault member)

end Later

theorem begin_registry : (world.begin bounds call).2.registry = world.registry := by
  unfold begin
  split <;> rfl

theorem begin_later : Later world (world.begin bounds call).2 := by
  unfold begin
  split
  · exact .refl world
  · refine ⟨rfl, fun operation => ?_, fun fault => world.journal.mem_of_mem_faults_enter call⟩
    exact Nat.le.intro (world.journal.count_enter call operation).symm

theorem complete_later : Later world (world.complete call).2 := by
  unfold complete
  split <;> exact ⟨rfl, fun _ => Nat.le_refl _, fun _ => id⟩

theorem complete_answered (refusal : Call → Failure → Prop) (world : World) (call : Call) :
    Answered world.site refusal call world.registry (world.complete call).1
      (world.complete call).2.registry := by
  unfold complete
  split
  · next value registry done => exact .done world.now done
  · next failure rejected => exact .rejected world.now rejected

theorem begin_refused {failure : Failure} (refused : (world.begin bounds call).1 = some failure) :
    failure = .cancelled ∨ failure = .deadlineExceeded ∨
      ∃ fault ∈ world.journal.faults, fault.operation = call.operation ∧
        world.journal.count call.operation < fault.number ∧
        fault.number = (world.begin bounds call).2.journal.count call.operation ∧
        failure = fault.failure := by
  unfold begin at refused ⊢
  split at refused
  · next late =>
    cases refused
    unfold Bounds.check at late
    split at late
    · exact .inl (Except.error.inj late).symm
    · split at late
      · exact .inr (.inl (Except.error.inj late).symm)
      · cases late
  · obtain ⟨fault, member, kind, number, same⟩ := world.journal.fault_of_enter call refused
    have counted := world.journal.count_enter call call.operation
    rw [if_pos rfl] at counted
    exact .inr (.inr ⟨fault, member, kind, by omega, number, same⟩)

theorem serve_later : Later world (world.serve bounds call).2 := by
  have begun : Later world (world.begin bounds call).2 := begin_later
  unfold serve
  split
  · next failure rest refused =>
    rw [refused] at begun
    exact begun
  · next rest accepted =>
    rw [accepted] at begun
    simp only
    split
    · exact .trans _ _ _ begun ⟨rfl, fun _ => Nat.le_refl _, fun _ => id⟩
    · refine .trans _ _ _ begun (.trans _ _ _ ?_ complete_later)
      exact ⟨rfl, fun _ => Nat.le_refl _, fun _ => id⟩

theorem serve_answered (refusal : Call → Failure → Prop)
    (cut : ∀ failure, failure = .cancelled ∨ failure = .deadlineExceeded → refusal call failure)
    (faulted : ∀ fault ∈ world.journal.faults, fault.operation = call.operation →
      world.journal.count call.operation < fault.number →
      fault.number ≤ (world.serve bounds call).2.journal.count call.operation →
      refusal call fault.failure) :
    Answered world.site refusal call world.registry (world.serve bounds call).1
      (world.serve bounds call).2.registry := by
  have same : (world.begin bounds call).2.registry = world.registry := begin_registry
  have begun : Later world (world.begin bounds call).2 := begin_later
  unfold serve at faulted ⊢
  split
  · next failure rest refused =>
    simp only [refused] at faulted
    rcases begin_refused (congrArg Prod.fst refused) with rfl | rfl | ⟨fault, member, kind, above,
      number, rfl⟩
    all_goals rw [refused] at same
    · exact same ▸ .refused (cut _ (.inl rfl))
    · exact same ▸ .refused (cut _ (.inr rfl))
    · rw [refused] at number
      exact same ▸ .refused (faulted fault member kind above (Nat.le_of_eq number))
  · next rest accepted =>
    rw [accepted] at same begun
    simp only
    split
    · next failure ended =>
      show Answered world.site refusal call world.registry (.error failure) rest.registry
      rw [show rest.registry = world.registry from same]
      refine .refused (cut failure ?_)
      unfold Ending.failure? at ended
      split at ended
      · cases ended
      · exact .inl (Option.some.inj ended).symm
      · exact .inr (Option.some.inj ended).symm
    · rw [← same, ← begun.site]
      exact complete_answered refusal { rest with time := (rest.ending bounds).1 } call

theorem answered_serve : Answered world.site anyRefusal call world.registry
    (world.serve bounds call).1 (world.serve bounds call).2.registry :=
  serve_answered anyRefusal (fun _ _ => trivial) fun _ _ _ _ _ => trivial

/-- The call is neither refused nor cut off. -/
def serves (world : World) (bounds : Bounds) (call : Call) : Bool :=
  match world.begin bounds call with
  | (some _, _) => false
  | (none, world) => (world.ending bounds).2 = .completed

theorem serve_of_serves (served : world.serves bounds call = true) :
    ∃ rest : World, rest.registry = world.registry ∧ rest.site = world.site ∧
      world.serve bounds call = rest.complete call := by
  have same : (world.begin bounds call).2.registry = world.registry := begin_registry
  have begun : Later world (world.begin bounds call).2 := begin_later
  unfold serves at served
  unfold serve
  rcases accepted : world.begin bounds call with ⟨_ | failure, rest⟩
  · rw [accepted] at same begun served
    have completed : (rest.ending bounds).2 = .completed := of_decide_eq_true served
    refine ⟨{ rest with time := (rest.ending bounds).1 }, same, begun.site, ?_⟩
    simp only [completed, Ending.failure?]
  · rw [accepted] at served
    cases served

theorem answered_of_serves (served : world.serves bounds call = true) :
    Answered world.site noRefusal call world.registry (world.serve bounds call).1
      (world.serve bounds call).2.registry := by
  obtain ⟨rest, registry, site, same⟩ := serve_of_serves served
  rw [same, ← registry, ← site]
  exact complete_answered noRefusal rest call

section Runs

variable {α : Type} (program : Program Call Call.Reply α) {post : α → Registry → Prop}

theorem run_later {α : Type} {program : Program Call Call.Reply α} :
    Later world (program.run (World.serve bounds) world).2 :=
  Program.run_keeps (World.serve bounds) (Later world)
    (fun _ middle before => .trans world middle _ before serve_later) program world (.refl world)

/-- What a program does to a provider that serves it. Faults matter only if their number comes up
during the run. -/
theorem post_run (refusal : Call → Failure → Prop)
    (cut : ∀ call failure, failure = .cancelled ∨ failure = .deadlineExceeded →
      refusal call failure)
    (faulted : ∀ fault ∈ world.journal.faults,
      world.journal.count fault.operation < fault.number →
      fault.number ≤ (program.run (World.serve bounds) world).2.journal.count fault.operation →
      ∀ call, call.operation = fault.operation →
        ∀ message, refusal call (.provider fault.code message))
    (always : program.Always (Answered world.site refusal) post world.registry) :
    post (program.run (World.serve bounds) world).1
      (program.run (World.serve bounds) world).2.registry := by
  refine Program.post_run (Answered world.site refusal) _ World.registry Later .refl
    Later.trans (fun _ _ => serve_later) program world (fun call middle before after => ?_) always
  rw [← before.site]
  refine serve_answered refusal (cut call) fun fault member kind above below => ?_
  refine faulted fault (before.faults fault member) ?_ ?_ call kind.symm _
  · rw [kind]
    exact Nat.lt_of_le_of_lt (before.counts call.operation) above
  · rw [kind]
    exact Nat.le_trans below (after.counts call.operation)

end Runs

/-- No call is going to be made to fail. -/
def IsCalm (world : World) : Prop := world.journal.faults = []

theorem IsCalm.later {after : World} (calm : world.IsCalm) (later : Later world after) :
    after.IsCalm := by
  refine List.eq_nil_iff_forall_not_mem.2 fun fault member => ?_
  have before := later.faults fault member
  rw [calm] at before
  cases before

def calmed (world : World) : World :=
  { world with journal := { world.journal with faults := [] } }

theorem calmed_isCalm (world : World) : world.calmed.IsCalm := rfl

theorem serve_unbounded (calm : world.IsCalm) :
    Answered world.site noRefusal call world.registry (world.serve .unbounded call).1
      (world.serve .unbounded call).2.registry := by
  have nothing : (world.begin .unbounded call).1 = none := by
    show (world.journal.enter call).1 = none
    refine Option.eq_none_iff_forall_ne_some.2 fun failure hit => ?_
    obtain ⟨fault, member, -⟩ := world.journal.fault_of_enter call hit
    rw [calm] at member
    cases member
  have completes : ∀ later : World, (later.ending .unbounded).2 = .completed := by
    intro later
    unfold ending
    split <;> rfl
  have same : (world.begin .unbounded call).2.registry = world.registry := begin_registry
  have begun : Later world (world.begin .unbounded call).2 := begin_later
  unfold serve
  split
  · next failure rest refused =>
    rw [refused] at nothing
    cases nothing
  · next rest accepted =>
    rw [accepted] at same begun
    simp only [completes, Ending.failure?]
    rw [← same, ← begun.site]
    exact complete_answered noRefusal { rest with time := (rest.ending .unbounded).1 } call

theorem post_run_unbounded {α : Type} (program : Program Call Call.Reply α)
    {post : α → Registry → Prop} (calm : world.IsCalm)
    (always : program.Always (Answered world.site noRefusal) post world.registry) :
    post (program.run (World.serve .unbounded) world).1
      (program.run (World.serve .unbounded) world).2.registry := by
  refine Program.post_run (Answered world.site noRefusal) _ World.registry Later .refl
    Later.trans (fun _ _ => serve_later) program world (fun call middle before _ => ?_) always
  rw [← before.site]
  exact serve_unbounded (calm.later before)

/-- The providers that come of a new one, whatever is called, whichever state is forced and
whichever failure is arranged, in any order and at any time. Calls may overlap. -/
inductive Reachable : World → Prop where
  | new {world : World} (sized : 0 < world.site.pageSize) (bare : world.registry = ∅) :
      Reachable world
  | begun {world : World} (bounds : Bounds) (call : Call) (reached : Reachable world) :
      Reachable (world.begin bounds call).2
  | completed {world : World} (call : Call) (reached : Reachable world) :
      Reachable (world.complete call).2
  | elapsed {world : World} (time : Nat) (reached : Reachable world) :
      Reachable { world with time }
  | arranged {world : World} (fault : Fault) (reached : Reachable world) :
      Reachable { world with journal := world.journal.failNth fault }
  | cleared {world : World} (reached : Reachable world) :
      Reachable { world with journal := world.journal.clear }
  | forced {world : World} {id : String} {status : EndpointState} {registry : Registry}
      (forced : world.registry.setStatus id status = .ok registry) (reached : Reachable world) :
      Reachable { world with registry }

/-- Carries out calls one after the other. -/
def completeAll (world : World) (calls : List Call) : World :=
  calls.foldl (fun world call => (world.complete call).2) world

/-- A new provider that lists one item at a time and whose clock stands still. -/
def still : World where
  site := ⟨"us-west-2", "000000000000", 1⟩
  latency := 0
  journal := ∅
  registry := ∅
  time := 0
  clock _ := .epoch

theorem still_isCalm : still.IsCalm := rfl

namespace Reachable

theorem still : World.still.Reachable := .new Nat.one_pos rfl

theorem valid (reached : Reachable world) :
    world.registry.Valid world.site ∧ 0 < world.site.pageSize := by
  induction reached with
  | new sized bare => exact ⟨bare ▸ .empty _, sized⟩
  | @begun world bounds call reached ih =>
    have begun : Later world (world.begin bounds call).2 := begin_later
    rw [begin_registry, begun.site]
    exact ih
  | @completed world call reached ih =>
    have completed : Later world (world.complete call).2 := complete_later
    rw [completed.site]
    exact ⟨((complete_answered noRefusal world call).valid ih.1).1, ih.2⟩
  | elapsed | arranged | cleared => assumption
  | forced forced reached ih => exact ⟨(Registry.setStatus_growth ih.1 forced).valid ih.1, ih.2⟩

theorem serve (reached : Reachable world) (bounds : Bounds) (call : Call) :
    Reachable (world.serve bounds call).2 := by
  have begun := reached.begun bounds call
  unfold World.serve
  split
  · next failure rest refused =>
    rw [refused] at begun
    exact begun
  · next rest accepted =>
    rw [accepted] at begun
    simp only
    split
    · exact begun.elapsed _
    · exact (begun.elapsed _).completed call

theorem serial_le_serve (reached : Reachable world) (bounds : Bounds) (call : Call) :
    world.registry.serial ≤ (world.serve bounds call).2.registry.serial :=
  (answered_serve.valid reached.valid.1).2

theorem completeAll (reached : Reachable world) (calls : List Call) :
    Reachable (world.completeAll calls) := by
  induction calls generalizing world with
  | nil => exact reached
  | cons call rest ih => exact ih (reached.completed call)

theorem run {α : Type} (reached : Reachable world) (bounds : Bounds)
    (program : Program Call Call.Reply α) :
    Reachable (program.run (World.serve bounds) world).2 :=
  Program.run_keeps (World.serve bounds) Reachable (fun call _ reached => reached.serve bounds call)
    program world reached

theorem serial_le_run {α : Type} (reached : Reachable world) (bounds : Bounds)
    (program : Program Call Call.Reply α) :
    world.registry.serial ≤ (program.run (World.serve bounds) world).2.registry.serial :=
  (Program.run_keeps (World.serve bounds)
    (fun after => Reachable after ∧ world.registry.serial ≤ after.registry.serial)
    (fun call _ kept => ⟨kept.1.serve bounds call,
      Nat.le_trans kept.2 (kept.1.serial_le_serve bounds call)⟩) program world
    ⟨reached, Nat.le_refl _⟩).2

end Reachable

end World

end Converge.Provider
