import Converge.Proofs.Collections
import Converge.Proofs.Course
import Mathlib.Data.List.Basic

/-! Syncs that stop halfway. A sync carries out the moves of a plan one by one up to the first that
fails, and what it has done is merged into what was observed; the plan made from there has exactly
the moves that are left. -/
namespace Converge

section Plans

variable {α κ γ : Type} [DecidableEq κ]

theorem firsts_filter (key : α → κ) (wanted : κ → Bool) (items : List α) :
    firsts key (items.filter fun item => wanted (key item)) =
      (firsts key items).filter fun item => wanted (key item) := by
  induction items with
  | nil => rfl
  | cons head rest ih =>
    cases keep : wanted (key head) with
    | true => simp [firsts, keep, ih, List.filter_filter, Bool.and_comm]
    | false =>
      have apart : ∀ item, wanted (key item) = true → key item ≠ key head := by
        intro item wants same
        rw [same, keep] at wants
        cases wants
      simp only [firsts, List.filter_cons, keep, Bool.false_eq_true, if_false, ih,
        List.filter_filter]
      refine List.filter_congr fun item _ => ?_
      by_cases wants : wanted (key item) = true
      · simp [wants, apart item wants]
      · simp [wants]

theorem filter_notMem_append {key : α → κ} {front rest : List α}
    (nodup : ((front ++ rest).map key).Nodup) :
    (front ++ rest).filter (fun item => key item ∉ front.map key) = rest := by
  rw [List.map_append, List.nodup_append] at nodup
  have gone : front.filter (fun item => key item ∉ front.map key) = [] := by
    refine List.filter_eq_nil_iff.2 fun item member => ?_
    simpa using ⟨item, member, rfl⟩
  have stays : rest.filter (fun item => key item ∉ front.map key) = rest := by
    refine List.filter_eq_self.2 fun item member => decide_eq_true fun twice => ?_
    exact nodup.2.2 _ twice _ (List.mem_map_of_mem member) rfl
  rw [List.filter_append, gone, stays, List.nil_append]

variable {key : α → κ} {desired observed : List α} {progress : Progress α κ γ}

theorem mem_mergeInto_iff (k : κ) :
    k ∈ (progress.mergeInto key observed).map key ↔
      k ∈ observed.map key ∧ k ∉ progress.detached ∨ k ∈ progress.attached.map key := by
  simp only [Progress.mergeInto, List.map_append, List.mem_append, List.mem_map, List.mem_filter,
    decide_eq_true_eq]
  constructor
  · rintro (⟨item, ⟨member, stays⟩, rfl⟩ | added)
    · exact .inl ⟨⟨item, member, rfl⟩, stays⟩
    · exact .inr added
  · rintro (⟨⟨item, member, rfl⟩, stays⟩ | added)
    · exact .inl ⟨item, ⟨member, stays⟩, rfl⟩
    · exact .inr added

theorem count_mergeInto (k : κ) :
    ((progress.mergeInto key observed).map key).count k =
      (if k ∈ progress.detached then 0 else (observed.map key).count k) +
        (progress.attached.map key).count k := by
  have kept : (observed.filter fun item => key item ∉ progress.detached).map key =
      (observed.map key).filter fun k => k ∉ progress.detached := by
    rw [List.filter_map]
    rfl
  rw [Progress.mergeInto, List.map_append, List.count_append, kept]
  congr 1
  split
  · next gone => exact List.count_eq_zero.2 fun member => by simp [gone] at member
  · next stays => exact List.count_filter (decide_eq_true stays)

theorem added_mergeInto {rest : List α}
    (attached : (diff key desired observed).added = progress.attached ++ rest)
    (detached : ∀ k ∈ progress.detached, k ∈ (diff key desired observed).removed) :
    (diff key desired (progress.mergeInto key observed)).added = rest := by
  have split : desired.filter (fun item => key item ∉ (progress.mergeInto key observed).map key) =
      (desired.filter fun item => key item ∉ observed.map key).filter
        fun item => key item ∉ progress.attached.map key := by
    rw [List.filter_filter]
    refine List.filter_congr fun item member => ?_
    -- A key that was detached is not desired, so it does not come back.
    have stays : key item ∉ progress.detached := fun gone =>
      ((mem_removed_iff key desired observed _).1 (detached _ gone)).2 (List.mem_map_of_mem member)
    rw [← Bool.decide_and, decide_eq_decide, mem_mergeInto_iff]
    simp only [stays, not_false_eq_true, and_true, not_or]
    exact and_comm
  have nodup := nodup_map_added key desired observed
  rw [attached] at nodup
  calc
    _ = firsts key (desired.filter fun item =>
          key item ∉ (progress.mergeInto key observed).map key) := rfl
    _ = (diff key desired observed).added.filter fun item =>
          key item ∉ progress.attached.map key := by
        rw [split]
        exact firsts_filter key (fun k => decide (k ∉ progress.attached.map key)) _
    _ = rest := by rw [attached, filter_notMem_append nodup]

theorem removed_mergeInto {rest : List κ}
    (attached : ∀ k ∈ progress.attached.map key, k ∈ desired.map key)
    (detached : (diff key desired observed).removed = progress.detached ++ rest) :
    (diff key desired (progress.mergeInto key observed)).removed = rest := by
  have split : ((progress.mergeInto key observed).map key).filter (fun k => k ∉ desired.map key) =
      ((observed.map key).filter fun k => k ∉ desired.map key).filter
        fun k => k ∉ progress.detached := by
    have kept : (observed.filter fun item => key item ∉ progress.detached).map key =
        (observed.map key).filter fun k => k ∉ progress.detached := by
      rw [List.filter_map]
      rfl
    -- What was attached is desired, so it is not detached.
    have wanted : (progress.attached.map key).filter (fun k => k ∉ desired.map key) = [] := by
      refine List.filter_eq_nil_iff.2 fun k member => ?_
      simpa using attached k member
    rw [Progress.mergeInto, List.map_append, List.filter_append, kept, wanted, List.append_nil,
      List.filter_filter, List.filter_filter]
    refine List.filter_congr fun k _ => ?_
    exact Bool.and_comm _ _
  have nodup := nodup_removed key desired observed
  rw [detached] at nodup
  calc
    _ = firsts id (((progress.mergeInto key observed).map key).filter
          fun k => k ∉ desired.map key) := rfl
    _ = (diff key desired observed).removed.filter fun k => k ∉ progress.detached := by
        rw [split]
        exact firsts_filter id (fun k => decide (k ∉ progress.detached)) _
    _ = rest := by
        rw [← List.map_id (progress.detached ++ rest)] at nodup
        have left := filter_notMem_append nodup
        rw [List.map_id] at left
        rw [detached]
        exact left

theorem changed_iff
    (attached : ∀ item ∈ progress.attached, item ∈ (diff key desired observed).added)
    (detached : ∀ k ∈ progress.detached, k ∈ (diff key desired observed).removed) :
    progress.changed = true ↔
      ¬∀ k, k ∈ (progress.mergeInto key observed).map key ↔ k ∈ observed.map key := by
  have desires : ∀ k ∈ progress.attached.map key, k ∈ desired.map key ∧ k ∉ observed.map key := by
    intro k there
    obtain ⟨item, member, rfl⟩ := List.mem_map.1 there
    exact (mem_map_added_iff key desired observed _).1 (List.mem_map_of_mem (attached item member))
  constructor
  · intro changed same
    simp only [Progress.changed, Bool.or_eq_true, Bool.not_eq_true', List.isEmpty_eq_false_iff]
      at changed
    rcases changed with some | some
    · obtain ⟨item, member⟩ := List.exists_mem_of_ne_nil _ some
      have there : key item ∈ progress.attached.map key := List.mem_map_of_mem member
      exact (desires _ there).2 ((same _).1 ((mem_mergeInto_iff _).2 (.inr there)))
    · obtain ⟨k, member⟩ := List.exists_mem_of_ne_nil _ some
      have gone := (mem_removed_iff key desired observed k).1 (detached k member)
      rcases (mem_mergeInto_iff k).1 ((same k).2 gone.1) with kept | added
      · exact kept.2 member
      · exact gone.2 (desires k added).1
  · intro moved
    refine Bool.ne_false_iff.1 fun still => moved fun k => ?_
    simp only [Progress.changed, Bool.or_eq_false_iff, Bool.not_eq_false', List.isEmpty_iff]
      at still
    rw [mem_mergeInto_iff, still.1, still.2]
    simp only [List.not_mem_nil, not_false_eq_true, and_true, List.map_nil, or_false]

end Plans

namespace Collection

inductive Move (α κ : Type) where
  | attach (item : α)
  | detach (k : κ)

namespace Move

variable {α κ : Type}

abbrev Reply (γ : Type) (_ : Move α κ) : Type := Except Failure (Option γ)

def item? : Move α κ → Option α
  | attach item => some item
  | detach _ => none

def key? : Move α κ → Option κ
  | attach _ => none
  | detach k => some k

end Move

variable {Call : Type} {Reply : Call → Type} {α κ γ σ : Type}

/-- The calls behind a move. -/
def perform (collection : Collection Call Reply α κ γ) :
    Move α κ → Program Call Reply (Except Failure (Option γ))
  | .attach item => (collection.attach item).outcome
  | .detach k => (collection.detach k).outcome

end Collection

open Collection

def Diff.moves {α κ : Type} (plan : Diff α κ) : List (Move α κ) :=
  plan.added.map .attach ++ plan.removed.map .detach

namespace Progress

variable {α κ γ : Type}

def take (progress : Progress α κ γ) (move : Move α κ) (aggregate : Option γ) : Progress α κ γ :=
  match move with
  | .attach item => progress.attach item aggregate
  | .detach k => progress.detach k aggregate

/-- Makes the moves one by one, up to the first that fails. -/
def carryOut : List (Move α κ) → Progress α κ γ → Program (Move α κ) (Move.Reply γ) (Progress α κ γ)
  | [], progress => pure progress
  | move :: rest, progress => do
    match ← Program.request move with
    | .ok aggregate => carryOut rest (progress.take move aggregate)
    | .error failure => pure (progress.fail failure)

theorem carryOut_append (moves more : List (Move α κ)) (progress : Progress α κ γ)
    (fresh : progress.failure = .none) :
    carryOut (moves ++ more) progress = (do
      let middle ← carryOut moves progress
      match middle.failure with
      | some _ => pure middle
      | .none => carryOut more middle) := by
  induction moves generalizing progress with
  | nil => simp [carryOut, fresh]
  | cons move rest ih =>
    simp only [List.cons_append, carryOut, bind_assoc]
    refine congrArg _ (funext fun reply => ?_)
    cases reply with
    | error failure => rfl
    | ok aggregate => exact ih (progress.take move aggregate) (by cases move <;> exact fresh)

end Progress

namespace Collection

variable {Call : Type} {Reply : Call → Type} {α κ γ σ : Type}
  (collection : Collection Call Reply α κ γ)

theorem expand_attaching (items : List α) (progress : Progress α κ γ) :
    (Progress.carryOut (items.map .attach) progress).expand collection.perform =
      collection.attachAll items progress := by
  induction items generalizing progress with
  | nil => rfl
  | cons item rest ih =>
    refine congrArg (Program.andThen (collection.attach item).outcome) (funext fun reply => ?_)
    cases reply with
    | error failure => rfl
    | ok aggregate => exact ih (progress.attach item aggregate)

theorem expand_detaching (keys : List κ) (progress : Progress α κ γ) :
    (Progress.carryOut (keys.map .detach) progress).expand collection.perform =
      collection.detachAll keys progress := by
  induction keys generalizing progress with
  | nil => rfl
  | cons k rest ih =>
    refine congrArg (Program.andThen (collection.detach k).outcome) (funext fun reply => ?_)
    cases reply with
    | error failure => rfl
    | ok aggregate => exact ih (progress.detach k aggregate)

/-- The collection whose attachments and detachments are only asked for. -/
def asking : Collection (Move α κ) (Move.Reply γ) α κ γ where
  key := collection.key
  attach item := ExceptT.mk (Program.request (.attach item))
  detach k := ExceptT.mk (Program.request (.detach k))

theorem perform_asking : collection.asking.perform = Program.request := by
  funext move
  cases move <;> rfl

variable [DecidableEq κ] (desired observed : List α)

theorem sync_eq :
    collection.sync desired observed =
      (Progress.carryOut (diff collection.key desired observed).moves .none).expand
        collection.perform := by
  rw [Diff.moves, Progress.carryOut_append _ _ _ rfl, Program.expand_bind, expand_attaching, sync]
  refine congrArg _ (funext fun progress => ?_)
  cases progress.failure with
  | some failure => rfl
  | none => exact (expand_detaching collection _ progress).symm

theorem sync_asking :
    collection.asking.sync desired observed =
      Progress.carryOut (diff collection.key desired observed).moves .none := by
  rw [sync_eq, perform_asking, Program.expand_request_self]
  rfl

/-- The attachments and detachments that a sync asks for, with what they were answered. -/
def course (serve : (call : Call) → σ → Reply call × σ) (state : σ) :
    List (Program.Exchange (Move α κ) (Move.Reply γ)) :=
  (collection.asking.sync desired observed).transcript
    (fun move state => (collection.perform move).run serve state) state

end Collection

namespace Program.Exchange

variable {α κ γ : Type}

def made? : Exchange (Move α κ) (Move.Reply γ) → Option (Move α κ)
  | ⟨move, .ok _⟩ => some move
  | ⟨_, .error _⟩ => none

def reported? : Exchange (Move α κ) (Move.Reply γ) → Option γ
  | ⟨_, .ok aggregate⟩ => aggregate
  | ⟨_, .error _⟩ => none

end Program.Exchange

namespace Progress

variable {α κ γ : Type}

/-- What may be asked and answered while moves are made, and what comes of it. -/
inductive Carried : List (Move α κ) → Progress α κ γ →
    List (Program.Exchange (Move α κ) (Move.Reply γ)) → Progress α κ γ → Prop
  | done (progress) : Carried [] progress [] progress
  | failed (move rest progress failure) :
    Carried (move :: rest) progress [⟨move, .error failure⟩] (progress.fail failure)
  | next {rest course progress result} (move aggregate)
    (carried : Carried rest (progress.take move aggregate) course result) :
    Carried (move :: rest) progress (⟨move, .ok aggregate⟩ :: course) result

theorem carried_transcript {σ : Type} (moves : List (Move α κ)) (progress : Progress α κ γ)
    (serve : (move : Move α κ) → σ → Move.Reply γ move × σ) (state : σ) :
    Carried moves progress ((carryOut moves progress).transcript serve state)
      ((carryOut moves progress).run serve state).1 := by
  induction moves generalizing progress state with
  | nil => exact .done progress
  | cons move rest ih =>
    rw [carryOut]
    cases told : serve move state with
    | mk reply after =>
      cases reply with
      | error failure =>
        simpa [Program.request, Program.transcript, Program.run, told] using
          Carried.failed move rest progress failure
      | ok aggregate =>
        simpa [Program.request, Program.transcript, Program.run, told] using
          Carried.next move aggregate (ih (progress.take move aggregate) after)

namespace Carried

variable {moves : List (Move α κ)} {start result : Progress α κ γ}
  {course : List (Program.Exchange (Move α κ) (Move.Reply γ))}

theorem calls_prefix (carried : Carried moves start course result) :
    course.map Program.Exchange.call <+: moves := by
  induction carried with
  | done progress => exact List.prefix_rfl
  | failed move rest progress failure => exact ⟨rest, rfl⟩
  | next move aggregate carried ih => exact (List.prefix_cons_inj move).2 ih

theorem made_prefix (carried : Carried moves start course result) :
    course.filterMap Program.Exchange.made? <+: moves := by
  induction carried with
  | done progress => exact List.prefix_rfl
  | failed move rest progress failure => exact List.nil_prefix
  | next move aggregate carried ih => exact (List.prefix_cons_inj move).2 ih

theorem ending (carried : Carried moves start course result) (fresh : start.failure = .none) :
    match result.failure with
    | .none => course.map Program.Exchange.call = moves ∧
        ∀ exchange ∈ course, exchange.made? = some exchange.call
    | some failure => ∃ front move, course = front ++ [⟨move, .error failure⟩] ∧
        ∀ exchange ∈ front, exchange.made? = some exchange.call := by
  induction carried with
  | done progress => simp [fresh]
  | failed move rest progress failure => exact ⟨[], move, rfl, nofun⟩
  | @next rest course progress result move aggregate carried ih =>
    have rest := ih (by cases move <;> exact fresh)
    cases failed : result.failure with
    | none =>
      rw [failed] at rest
      exact ⟨congrArg (move :: ·) rest.1, List.forall_mem_cons.2 ⟨rfl, rest.2⟩⟩
    | some failure =>
      rw [failed] at rest
      obtain ⟨front, last, whole, made⟩ := rest
      exact ⟨⟨move, .ok aggregate⟩ :: front, last, congrArg (_ :: ·) whole,
        List.forall_mem_cons.2 ⟨rfl, made⟩⟩

theorem attached (carried : Carried moves start course result) :
    result.attached = start.attached ++
      (course.filterMap Program.Exchange.made?).filterMap Move.item? := by
  induction carried with
  | done progress => simp
  | failed move rest progress failure => simp [Program.Exchange.made?, fail]
  | next move aggregate carried ih =>
    cases move <;>
      simp [ih, List.filterMap_cons, Program.Exchange.made?, Move.item?, take, attach, detach]

theorem detached (carried : Carried moves start course result) :
    result.detached = start.detached ++
      (course.filterMap Program.Exchange.made?).filterMap Move.key? := by
  induction carried with
  | done progress => simp
  | failed move rest progress failure => simp [Program.Exchange.made?, fail]
  | next move aggregate carried ih =>
    cases move <;>
      simp [ih, List.filterMap_cons, Program.Exchange.made?, Move.key?, take, attach, detach]

theorem aggregate (carried : Carried moves start course result) :
    result.aggregate =
      ((course.filterMap Program.Exchange.reported?).getLast? <|> start.aggregate) := by
  induction carried with
  | done progress => simp
  | failed move rest progress failure => simp [Program.Exchange.reported?, fail]
  | next move aggregate carried ih =>
    cases move <;> cases aggregate <;>
      simp [ih, Program.Exchange.reported?, take, attach, detach, List.getLast?_cons]

end Carried

end Progress

namespace Diff

variable {α κ : Type} {plan : Diff α κ}

@[simp]
theorem items_moves : plan.moves.filterMap Move.item? = plan.added := by
  simp [moves, List.filterMap_append, List.filterMap_map, Function.comp_def, Move.item?]

@[simp]
theorem keys_moves : plan.moves.filterMap Move.key? = plan.removed := by
  simp [moves, List.filterMap_append, List.filterMap_map, Function.comp_def, Move.key?]

theorem rest_of_moves {front rest : List (Move α κ)} (whole : plan.moves = front ++ rest) :
    rest = (rest.filterMap Move.item?).map .attach ++ (rest.filterMap Move.key?).map .detach := by
  rcases List.append_eq_append_iff.1 whole with ⟨gone, -, detaches⟩ | ⟨held, attaches, tail⟩
  · obtain ⟨before, after, -, -, rfl⟩ := List.map_eq_append_iff.1 detaches
    simp [List.filterMap_map, Function.comp_def, Move.item?, Move.key?]
  · obtain ⟨before, after, -, -, rfl⟩ := List.map_eq_append_iff.1 attaches
    simp [tail, List.filterMap_map, Function.comp_def, Move.item?, Move.key?]

end Diff

namespace Collection

variable {Call : Type} {Reply : Call → Type} {α κ γ σ : Type} [DecidableEq κ]

/-- A sync asks for the moves of its plan in their order, up to the first that fails, and returns
what was made of them. Observed anew with that, the collection needs exactly the other moves, and
none if nothing failed. -/
theorem sync_resumes (collection : Collection Call Reply α κ γ) (desired observed : List α)
    (serve : (call : Call) → σ → Reply call × σ) (state : σ) :
    let plan := diff collection.key desired observed
    let course := collection.course desired observed serve state
    let made := course.filterMap Program.Exchange.made?
    let progress := ((collection.sync desired observed).run serve state).1
    let merged := progress.mergeInto collection.key observed
    let again := diff collection.key desired merged
    collection.sync desired observed =
      (collection.asking.sync desired observed).expand collection.perform ∧
    course.map Program.Exchange.call <+: plan.moves ∧
    (match progress.failure with
      | none => course.map Program.Exchange.call = plan.moves ∧
          ∀ exchange ∈ course, exchange.made? = some exchange.call
      | some failure => ∃ front move, course = front ++ [⟨move, .error failure⟩] ∧
          ∀ exchange ∈ front, exchange.made? = some exchange.call) ∧
    progress.attached = made.filterMap Move.item? ∧
    progress.detached = made.filterMap Move.key? ∧
    progress.aggregate = (course.filterMap Program.Exchange.reported?).getLast? ∧
    plan.added = progress.attached ++ again.added ∧
    plan.removed = progress.detached ++ again.removed ∧
    plan.moves = made ++ again.moves ∧
    (progress.failure = none → collection.sync desired merged = pure .none) := by
  intro plan course made progress merged again
  have same : progress = ((Progress.carryOut plan.moves .none).run
      (fun move state => (collection.perform move).run serve state) state).1 := by
    simp only [progress, sync_eq, Program.run_expand]
    rfl
  have carried : Progress.Carried plan.moves .none course progress := by
    have taken : course = (Progress.carryOut plan.moves .none).transcript
        (fun move state => (collection.perform move).run serve state) state := by
      simp only [course, Collection.course, sync_asking, plan]
    rw [same, taken]
    exact Progress.carried_transcript plan.moves .none _ state
  obtain ⟨left, whole⟩ := carried.made_prefix
  have attached : progress.attached = made.filterMap Move.item? := by
    simpa [Progress.none] using carried.attached
  have detached : progress.detached = made.filterMap Move.key? := by
    simpa [Progress.none] using carried.detached
  have aggregate : progress.aggregate =
      (course.filterMap Program.Exchange.reported?).getLast? := by
    simpa [Progress.none] using carried.aggregate
  have added : plan.added = progress.attached ++ left.filterMap Move.item? := by
    rw [attached, ← List.filterMap_append, whole, Diff.items_moves]
  have removed : plan.removed = progress.detached ++ left.filterMap Move.key? := by
    rw [detached, ← List.filterMap_append, whole, Diff.keys_moves]
  have moreAdded : again.added = left.filterMap Move.item? := by
    refine added_mergeInto added fun k member => ?_
    show k ∈ plan.removed
    rw [removed]
    exact List.mem_append_left _ member
  have moreRemoved : again.removed = left.filterMap Move.key? := by
    refine removed_mergeInto (fun k member => ?_) removed
    have planned : k ∈ plan.added.map collection.key := by
      rw [added, List.map_append]
      exact List.mem_append_left _ member
    exact ((mem_map_added_iff collection.key desired observed k).1 planned).1
  have rest : again.moves = left := by
    rw [Diff.moves, moreAdded, moreRemoved]
    exact (Diff.rest_of_moves whole.symm).symm
  have ending := carried.ending rfl
  have asked : collection.sync desired observed =
      (collection.asking.sync desired observed).expand collection.perform := by
    rw [sync_asking, sync_eq]
  refine ⟨asked, carried.calls_prefix, ending, attached, detached, aggregate, moreAdded ▸ added,
    moreRemoved ▸ removed, rest ▸ whole.symm, fun fine => ?_⟩
  rw [fine] at ending
  have all : made = plan.moves :=
    (List.filterMap_eq_map_iff_forall_eq_some.2 ending.2).trans ending.1
  have nothing : again.moves = [] := by
    rw [rest]
    exact List.append_right_eq_self.1 (whole.trans all.symm)
  rw [sync_eq]
  show (Progress.carryOut again.moves .none).expand collection.perform = _
  rw [nothing]
  rfl

def notes : Collection (Move (Nat × String) Nat) (Move.Reply Nat) (Nat × String) Nat Nat where
  key := Prod.fst
  attach note := ExceptT.mk (Program.request (.attach note))
  detach number := ExceptT.mk (Program.request (.detach number))

/-- Makes so many moves and reports how many there were before. -/
def lasting (limit : Nat) (_ : Move (Nat × String) Nat) (made : Nat) :
    Except Failure (Option Nat) × Nat :=
  if made < limit then (.ok (some made), made + 1) else (.error .deadlineExceeded, made)

theorem notes_resume :
    let desired := [(1, "a"), (2, "b"), (1, "c"), (3, "d")]
    let observed := [(4, "w"), (2, "x"), (4, "y"), (5, "z")]
    let after (limit : Nat) := ((notes.sync desired observed).run (lasting limit) 0).1
    ((after 3).failure = some .deadlineExceeded ∧ (after 3).aggregate = some 2 ∧
      (diff notes.key desired ((after 3).mergeInto notes.key observed)).removed = [5]) ∧
    (after 4).failure = none ∧
      notes.sync desired ((after 4).mergeInto notes.key observed) = pure .none := by
  intro desired observed after
  constructor
  · obtain ⟨-, -, -, -, -, -, -, removed, -, -⟩ :=
      sync_resumes notes desired observed (lasting 3) 0
    have plan : (diff notes.key desired observed).removed = [4, 5] := by decide +kernel
    have detached : (after 3).detached = [4] := by decide +kernel
    refine ⟨by decide +kernel, by decide +kernel, ?_⟩
    have left : [4, 5] = [4] ++ (diff notes.key desired ((after 3).mergeInto notes.key
        observed)).removed := plan ▸ detached ▸ removed
    exact (List.cons.inj left).2.symm
  · obtain ⟨-, -, -, -, -, -, -, -, -, nothing⟩ :=
      sync_resumes notes desired observed (lasting 4) 0
    have fine : (after 4).failure = none := by decide +kernel
    exact ⟨fine, nothing fine⟩

end Collection

end Converge
