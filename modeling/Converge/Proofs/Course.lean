import Converge.Pass
import Converge.Proofs.Replies

/-! The course of a pass: which steps of a manager are taken, in which order, and with which
snapshots. The replies to the steps may be anything, so a pass is judged by the record of its steps
and of their replies alone. -/
namespace Converge

namespace Program

structure Exchange (Call : Type) (Reply : Call → Type) where
  call : Call
  reply : Reply call

variable {Call : Type} {Reply : Call → Type} {α σ : Type}

/-- Everything that a program asks and is told in a run. -/
def transcript (serve : (call : Call) → σ → Reply call × σ) :
    Program Call Reply α → σ → List (Exchange Call Reply)
  | done _, _ => []
  | ask call next, state =>
    let (reply, state) := serve call state
    ⟨call, reply⟩ :: (next reply).transcript serve state

/-- Every call may get every reply, and all of it is written down. -/
def recorded : Answers Call Reply (List (Exchange Call Reply)) :=
  fun call before reply after => after = before ++ [⟨call, reply⟩]

theorem post_transcript {post : α → List (Exchange Call Reply) → Prop}
    (serve : (call : Call) → σ → Reply call × σ) (program : Program Call Reply α)
    (before : List (Exchange Call Reply)) (state : σ)
    (always : program.Always recorded post before) :
    post (program.run serve state).1 (before ++ program.transcript serve state) := by
  induction program generalizing before state with
  | done value => simpa [transcript, Always] using always
  | ask call next ih =>
    have rest := ih _ _ (serve call state).2 (always (serve call state).1 _ rfl)
    simpa [transcript, run] using rest

end Program

namespace Changes

def join (some others : Changes) : Changes where
  created := some.created || others.created
  tags := some.tags || others.tags
  collections := some.collections || others.collections
  primary := some.primary || others.primary

@[simp]
theorem join_none (changes : Changes) : changes.join none = changes := by
  simp [join, none]

end Changes

namespace Pass

inductive Stage where
  | observe
  | create
  | afterCreate
  | checkImmutable
  | delta
  | syncTags
  | syncCollections
  | update
  | delete
deriving DecidableEq

variable {O : Type}

abbrev Course (O : Type) : Type := List (Program.Exchange (Step O) Step.Reply)

end Pass

namespace Step

variable {O : Type}

/-- Questions about what is known already are no stages. -/
def stage? : Step O → Option Pass.Stage
  | observe _ => some .observe
  | create _ => some .create
  | afterCreate _ => some .afterCreate
  | checkImmutable _ => some .checkImmutable
  | delta _ => some .delta
  | syncTags _ => some .syncTags
  | syncCollections _ _ => some .syncCollections
  | update _ _ => some .update
  | delete _ => some .delete
  | needsRefresh _ => none
  | settled _ => none

/-- The snapshot that a step is to work on. -/
def given? : Step O → Option O
  | observe _ => none
  | create _ => none
  | afterCreate observed => some observed
  | checkImmutable observed => some observed
  | delta observed => some observed
  | syncTags observed => some observed
  | syncCollections observed _ => some observed
  | update observed _ => some observed
  | delete observed => some observed
  | needsRefresh _ => none
  | settled observed => some observed

/-- Apart from its snapshot a step gets what the pass got, and the differences that were found. -/
def Fits (token : Token) (last : Option O) (found : Option Delta) : Step O → Prop
  | observe baseline => baseline = last
  | create used => used = token
  | syncCollections _ differences => found = some differences
  | update _ differences => found = some differences
  | _ => True

end Step

namespace Program.Exchange

variable {O : Type}

def failure? : Exchange (Step O) Step.Reply → Option Failure
  | ⟨.observe _, .error failure⟩ => some failure
  | ⟨.create _, .error failure⟩ => some failure
  | ⟨.afterCreate _, applied⟩ => applied.failure
  | ⟨.checkImmutable _, .error failure⟩ => some failure
  | ⟨.syncTags _, .error failure⟩ => some failure
  | ⟨.syncCollections _ _, applied⟩ => applied.failure
  | ⟨.update _ _, .error failure⟩ => some failure
  | ⟨.delete _, .error failure⟩ => some failure
  | _ => none

def shown? : Exchange (Step O) Step.Reply → Option O
  | ⟨.observe _, .ok found⟩ => found
  | ⟨.create _, .ok created⟩ => some created
  | ⟨.afterCreate _, applied⟩ => some applied.observed
  | ⟨.syncTags _, .ok updated⟩ => some updated
  | ⟨.syncCollections _ _, applied⟩ => some applied.observed
  | ⟨.update _ _, .ok updated⟩ => some updated
  | _ => none

def found? : Exchange (Step O) Step.Reply → Option (Option O)
  | ⟨.observe _, .ok found⟩ => some found
  | _ => none

def compared? : Exchange (Step O) Step.Reply → Option Delta
  | ⟨.delta _, delta⟩ => some delta
  | _ => none

def changes : Exchange (Step O) Step.Reply → Changes
  | ⟨.create _, .ok _⟩ => { Changes.none with created := true }
  | ⟨.afterCreate _, applied⟩ => { Changes.none with collections := applied.changed }
  | ⟨.syncTags _, .ok _⟩ => { Changes.none with tags := true }
  | ⟨.syncCollections _ _, applied⟩ => { Changes.none with collections := applied.changed }
  | ⟨.update _ _, .ok _⟩ => { Changes.none with primary := true }
  | _ => .none

theorem question (taken : Exchange (Step O) Step.Reply) (plain : taken.call.stage? = Option.none) :
    taken.failure? = Option.none ∧ taken.shown? = Option.none ∧ taken.found? = Option.none ∧
      taken.compared? = Option.none ∧ taken.changes = .none ∧
        ∀ token last found, taken.call.Fits token last found := by
  obtain ⟨step, reply⟩ := taken
  cases step <;>
    first | exact ⟨rfl, rfl, rfl, rfl, rfl, fun _ _ _ => trivial⟩ | cases plain

end Program.Exchange

namespace Pass

variable {O : Type}

def stages (course : Course O) : List Stage :=
  course.filterMap fun taken => taken.call.stage?

def shown (course : Course O) : Option O :=
  (course.filterMap fun taken => taken.shown?).getLast?

def found (course : Course O) : Option (Option O) :=
  course.findSome? fun taken => taken.found?

def compared (course : Course O) : Option Delta :=
  course.findSome? fun taken => taken.compared?

def changed (course : Course O) : Changes where
  created := course.any fun taken => taken.changes.created
  tags := course.any fun taken => taken.changes.tags
  collections := course.any fun taken => taken.changes.collections
  primary := course.any fun taken => taken.changes.primary

def agenda (paths : List String) (delta : Delta) : List Stage :=
  if delta.isEmpty then []
  else
    (if delta.differentAt tagsPath then [.syncTags] else []) ++
    (if paths.any delta.differentAt then [.syncCollections] else []) ++
    (if delta.differentExcept (tagsPath :: paths) then [.update] else [])

example : agenda ["spec.associations"] (.ofPaths ["spec.tags", "spec.name"]) =
    [.syncTags, .update] := by decide

def plan (paths : List String) (course : Course O) : List Stage :=
  match found course with
  | none => [.observe]
  | some none => [.observe, .create, .afterCreate]
  | some (some _) =>
    [.observe, .checkImmutable, .delta] ++ ((compared course).map (agenda paths)).getD []

/-- Every step works on the snapshot that was obtained last before it. -/
def Threaded (course : Course O) : Prop :=
  ∀ before taken after, course = before ++ taken :: after →
    ∀ given, taken.call.given? = some given → shown before = some given

structure Orderly (paths : List String) (token : Token) (last : Option O) (course : Course O)
    (observed : Option O) (changes : Changes) : Prop where
  planned : stages course <+: plan paths course
  complete : stages course = plan paths course ∨
    ∃ taken, course.getLast? = some taken ∧ taken.failure?.isSome = true
  succeeded : ∀ taken ∈ course.dropLast, taken.failure? = none
  threaded : Threaded course
  inputs : ∀ taken ∈ course, taken.call.Fits token last (compared course)
  observed : observed = (shown course).or last
  fallback : shown course = none → ∃ taken ∈ course, taken.failure?.isSome = true ∧
    (taken.call.stage? = some .observe ∨ taken.call.stage? = some .create)
  changes : changes = changed course

section Records

variable (course : Course O) (taken : Program.Exchange (Step O) Step.Reply)

@[simp]
theorem stages_concat : stages (course ++ [taken]) = stages course ++ taken.call.stage?.toList := by
  cases stage : taken.call.stage? <;> simp [stages, stage]

@[simp]
theorem shown_concat : shown (course ++ [taken]) = taken.shown?.or (shown course) := by
  cases seen : taken.shown? <;> simp [shown, seen]

@[simp]
theorem found_concat : found (course ++ [taken]) = (found course).or taken.found? := by
  cases seen : taken.found? <;> simp [found, seen]

@[simp]
theorem compared_concat : compared (course ++ [taken]) = (compared course).or taken.compared? := by
  cases delta : taken.compared? <;> simp [compared, delta]

@[simp]
theorem changed_concat : changed (course ++ [taken]) = (changed course).join taken.changes := by
  simp [changed, Changes.join]

theorem threaded_nil : Threaded ([] : Course O) := by
  intro before taken after same
  simp at same

@[simp]
theorem threaded_concat_iff : Threaded (course ++ [taken]) ↔
    Threaded course ∧ ∀ given, taken.call.given? = some given → shown course = some given := by
  constructor
  · intro threaded
    refine ⟨fun before other after same => ?_, threaded course taken [] rfl⟩
    exact threaded before other (after ++ [taken]) (by simp [same])
  · rintro ⟨threaded, next⟩ before other after same
    rcases List.eq_nil_or_concat after with rfl | ⟨earlier, final, rfl⟩
    · obtain ⟨rfl, rfl⟩ : course = before ∧ taken = other := by simpa using same
      exact next
    · rw [List.concat_eq_append, ← List.cons_append, ← List.append_assoc] at same
      exact threaded before other earlier (List.append_inj_left' same rfl)

end Records

variable {paths : List String} {token : Token} {last : Option O}

structure Underway (paths : List String) (token : Token) (last : Option O) (course : Course O)
    (rest : List Stage) (differences : Delta) (observed : O) (changes : Changes) : Prop where
  succeeded : ∀ taken ∈ course, taken.failure? = none
  threaded : Threaded course
  inputs : ∀ taken ∈ course, taken.call.Fits token last (some differences)
  seen : ∃ first, found course = some (some first)
  compared : compared course = some differences
  planned : stages course ++ rest = [.observe, .checkImmutable, .delta] ++ agenda paths differences
  shown : shown course = some observed
  changed : changed course = changes

namespace Underway

variable {course : Course O} {rest : List Stage} {stage : Stage} {differences : Delta}
  {observed : O} {changes : Changes}

theorem next (underway : Underway paths token last course (stage :: rest) differences observed
      changes) (taken : Program.Exchange (Step O) Step.Reply)
    (its : taken.call.stage? = some stage) (given : taken.call.given? = some observed)
    (fits : taken.call.Fits token last (some differences)) (fine : taken.failure? = none)
    {updated : O} (shows : taken.shown? = some updated) :
    Underway paths token last (course ++ [taken]) rest differences updated
      (changes.join taken.changes) where
  succeeded := by simpa [or_imp, forall_and, fine] using underway.succeeded
  threaded := by simp [underway.threaded, given, underway.shown]
  inputs := by simpa [or_imp, forall_and, fits] using underway.inputs
  seen := by
    obtain ⟨first, seen⟩ := underway.seen
    exact ⟨first, by simp [seen]⟩
  compared := by simp [underway.compared]
  planned := by simp [its, ← underway.planned]
  shown := by simp [shows]
  changed := by simp [underway.changed]

theorem fail (underway : Underway paths token last course (stage :: rest) differences observed
      changes) (taken : Program.Exchange (Step O) Step.Reply)
    (its : taken.call.stage? = some stage) (given : taken.call.given? = some observed)
    (fits : taken.call.Fits token last (some differences)) (failed : taken.failure?.isSome = true) :
    Orderly paths token last (course ++ [taken]) (taken.shown?.or (some observed))
      (changes.join taken.changes) where
  planned := by
    obtain ⟨first, seen⟩ := underway.seen
    have planned := underway.planned
    simp [plan, seen, underway.compared, its] at planned ⊢
    exact ⟨rest, by simp [planned]⟩
  complete := .inr ⟨taken, by simp, failed⟩
  succeeded := by simpa using underway.succeeded
  threaded := by simp [underway.threaded, given, underway.shown]
  inputs := by simpa [or_imp, forall_and, fits, underway.compared] using underway.inputs
  observed := by cases seen : taken.shown? <;> simp [seen, underway.shown]
  fallback := by cases seen : taken.shown? <;> simp [seen, underway.shown]
  changes := by simp [underway.changed]

end Underway

structure Complete (paths : List String) (token : Token) (last : Option O) (course : Course O)
    (observed : O) (changes : Changes) : Prop where
  orderly : Orderly paths token last course (some observed) changes
  succeeded : ∀ taken ∈ course, taken.failure? = none
  shown : shown course = some observed

theorem Underway.complete {course : Course O} {differences : Delta} {observed : O}
    {changes : Changes} (underway : Underway paths token last course [] differences observed
      changes) : Complete paths token last course observed changes where
  orderly := by
    obtain ⟨first, seen⟩ := underway.seen
    have planned : stages course = plan paths course := by
      simpa [plan, seen, underway.compared] using underway.planned
    exact {
      planned := by simp [planned]
      complete := .inl planned
      succeeded := fun taken member => underway.succeeded taken (List.dropLast_subset _ member)
      threaded := underway.threaded
      inputs := by simpa [underway.compared] using underway.inputs
      observed := by simp [underway.shown]
      fallback := by simp [underway.shown]
      changes := underway.changed.symm }
  succeeded := underway.succeeded
  shown := underway.shown

theorem Complete.ask {course : Course O} {observed : O} {changes : Changes}
    (complete : Complete paths token last course observed changes)
    (taken : Program.Exchange (Step O) Step.Reply) (question : taken.call.stage? = none)
    (given : ∀ given, taken.call.given? = some given → given = observed) :
    Complete paths token last (course ++ [taken]) observed changes := by
  obtain ⟨fine, hidden, unfound, uncompared, unchanged, fits⟩ := taken.question question
  have same : stages course = plan paths course := by
    refine complete.orderly.complete.resolve_right ?_
    rintro ⟨taken, final, failed⟩
    simp [complete.succeeded taken (List.mem_of_getLast? final)] at failed
  have kept : plan paths (course ++ [taken]) = plan paths course := by
    simp [plan, unfound, uncompared]
  exact {
    orderly := {
      planned := by simp [kept, question, same]
      complete := .inl (by simp [kept, question, same])
      succeeded := by simpa using complete.succeeded
      threaded := by
        simp only [threaded_concat_iff, complete.orderly.threaded, complete.shown, true_and]
        exact fun seen its => congrArg some (given seen its).symm
      inputs := by simpa [or_imp, forall_and, uncompared, fits] using complete.orderly.inputs
      observed := by simp [hidden, complete.shown]
      fallback := by simp [hidden, complete.shown]
      changes := by simp [unchanged, complete.orderly.changes] }
    succeeded := by simpa [or_imp, forall_and, fine] using complete.succeeded
    shown := by simp [hidden, complete.shown] }

section Parts

variable {course : Course O} {rest : List Stage} {differences : Delta} {observed : O}
  {changes : Changes}

/-- What is to be shown of the end of every pass. -/
def Ends (paths : List String) (token : Token) (last : Option O) (result : PassResult O)
    (course : Course O) : Prop :=
  Orderly paths token last course result.observed result.changes

/-- Whatever a step is answered, the rest of a pass goes on with it. -/
theorem ends_step {step : Step O} {next : step.Reply → Stepwise O (PassResult O)}
    (goes : ∀ reply, (next reply).Always Program.recorded (Ends paths token last)
      (course ++ [⟨step, reply⟩])) :
    (Pass.step step >>= next).Always Program.recorded (Ends paths token last) course := by
  rintro reply _ rfl
  exact goes reply

theorem ends_stop {observed : Option O} {failure : Failure}
    (orderly : Orderly paths token last course observed changes) :
    (stop observed changes failure).Always Program.recorded (Ends paths token last) course :=
  orderly

theorem ends_finish (complete : Complete paths token last course observed changes) :
    (finish observed changes).Always Program.recorded (Ends paths token last) course := by
  refine ends_step fun refresh => ?_
  have asked := complete.ask ⟨.needsRefresh changes, refresh⟩ rfl nofun
  cases refresh with
  | true => exact asked.orderly
  | false =>
    refine ends_step fun settled => ?_
    have again := asked.ask ⟨.settled observed, settled⟩ rfl fun given same => by
      simpa [Step.given?] using same.symm
    cases settled <;> exact again.orderly

def primaryAgenda (paths : List String) (differences : Delta) : List Stage :=
  if differences.differentExcept (tagsPath :: paths) then [.update] else []

def collectionAgenda (paths : List String) (differences : Delta) : List Stage :=
  (if paths.any differences.differentAt then [.syncCollections] else []) ++
    primaryAgenda paths differences

theorem ends_updatePrimary (underway : Underway paths token last course
      (primaryAgenda paths differences) differences observed changes) :
    (updatePrimary paths differences observed changes).Always Program.recorded
      (Ends paths token last) course := by
  unfold updatePrimary
  unfold primaryAgenda at underway
  split
  · next differs =>
    rw [if_pos differs] at underway
    refine ends_step fun reply => ?_
    cases reply with
    | error failure =>
      have ended := underway.fail ⟨.update observed differences, .error failure⟩
        rfl rfl rfl rfl
      refine ends_stop ?_
      simpa [Program.Exchange.shown?, Program.Exchange.changes] using ended
    | ok updated =>
      have done := (underway.next ⟨.update observed differences, .ok updated⟩
        rfl rfl rfl rfl rfl).complete
      refine ends_finish ?_
      simpa [Changes.join, Program.Exchange.changes, Changes.none] using done
  · next same =>
    rw [if_neg same] at underway
    exact ends_finish underway.complete

theorem ends_updateCollections {tags : Bool} (underway : Underway paths token last course
      (collectionAgenda paths differences) differences observed { Changes.none with tags }) :
    (updateCollections paths differences observed { Changes.none with tags }).Always
      Program.recorded (Ends paths token last) course := by
  unfold updateCollections
  unfold collectionAgenda at underway
  split
  · next differs =>
    rw [if_pos differs] at underway
    refine ends_step fun applied => ?_
    obtain ⟨seen, changed, failure⟩ := applied
    cases failure with
    | some failure =>
      have ended := underway.fail
        ⟨.syncCollections observed differences, ⟨seen, changed, some failure⟩⟩
        rfl rfl rfl rfl
      refine ends_stop ?_
      simpa [Program.Exchange.shown?, Program.Exchange.changes, Changes.join, Changes.none]
        using ended
    | none =>
      have going := underway.next
        ⟨.syncCollections observed differences, ⟨seen, changed, none⟩⟩
        rfl rfl rfl rfl rfl
      refine ends_updatePrimary ?_
      simpa [Program.Exchange.changes, Changes.join, Changes.none] using going
  · next same =>
    rw [if_neg same] at underway
    exact ends_updatePrimary underway

theorem ends_updateTags (differ : differences.isEmpty = false)
    (underway : Underway paths token last course (agenda paths differences) differences observed
      .none) :
    (updateTags paths differences observed).Always Program.recorded (Ends paths token last)
      course := by
  unfold updateTags
  have left : agenda paths differences =
      (if differences.differentAt tagsPath then [.syncTags] else []) ++
        collectionAgenda paths differences := by
    simp [agenda, differ, collectionAgenda, primaryAgenda]
  rw [left] at underway
  split
  · next differs =>
    rw [if_pos differs] at underway
    refine ends_step fun reply => ?_
    cases reply with
    | error failure =>
      exact underway.fail ⟨.syncTags observed, .error failure⟩ rfl rfl trivial rfl
    | ok updated =>
      refine ends_updateCollections ?_
      exact underway.next ⟨.syncTags observed, .ok updated⟩ rfl rfl trivial rfl rfl
  · next same =>
    rw [if_neg same] at underway
    exact ends_updateCollections underway

end Parts

theorem ends_update (observed : O) :
    (update paths observed).Always Program.recorded (Ends paths token last)
      [⟨.observe last, .ok (some observed)⟩] := by
  have looked : Threaded [⟨.observe last, .ok (some observed)⟩] :=
    (threaded_concat_iff [] _).2 ⟨threaded_nil, nofun⟩
  have checked (reply : Except Failure Unit) :
      Threaded ([⟨.observe last, .ok (some observed)⟩] ++ [⟨.checkImmutable observed, reply⟩]) :=
    (threaded_concat_iff _ _).2 ⟨looked, fun given same => same⟩
  refine ends_step fun reply => ?_
  cases reply with
  | error failure =>
    exact {
      planned := ⟨[.delta], rfl⟩
      complete := .inr ⟨_, rfl, rfl⟩
      succeeded := by simp [Program.Exchange.failure?]
      threaded := checked _
      inputs := by simp [Step.Fits]
      observed := rfl
      fallback := nofun
      changes := rfl }
  | ok =>
    refine ends_step fun differences => ?_
    have underway : Underway paths token last
        ([⟨.observe last, .ok (some observed)⟩] ++ [⟨.checkImmutable observed, .ok ()⟩] ++
          [⟨.delta observed, differences⟩]) (agenda paths differences) differences observed .none :=
      { succeeded := by simp [Program.Exchange.failure?]
        threaded := (threaded_concat_iff _ _).2 ⟨checked _, fun given same => same⟩
        inputs := by simp [Step.Fits]
        seen := ⟨observed, rfl⟩
        compared := rfl
        planned := rfl
        shown := rfl
        changed := rfl }
    split
    · next same =>
      have nothing : agenda paths differences = [] := by simp [agenda, same]
      rw [nothing] at underway
      exact ends_finish underway.complete
    · next differ => exact ends_updateTags (Bool.eq_false_iff.2 differ) underway

theorem ends_create :
    (create last token).Always Program.recorded (Ends paths token last)
      [⟨.observe last, .ok none⟩] := by
  have looked : Threaded ([⟨.observe last, .ok none⟩] : Course O) :=
    (threaded_concat_iff [] _).2 ⟨threaded_nil, nofun⟩
  have made (reply : Except Failure O) :
      Threaded ([⟨.observe last, .ok none⟩] ++ [⟨.create token, reply⟩]) :=
    (threaded_concat_iff _ _).2 ⟨looked, nofun⟩
  refine ends_step fun reply => ?_
  cases reply with
  | error failure =>
    exact {
      planned := ⟨[.afterCreate], rfl⟩
      complete := .inr ⟨_, rfl, rfl⟩
      succeeded := by simp [Program.Exchange.failure?]
      threaded := made _
      inputs := by simp [Step.Fits]
      observed := rfl
      fallback := fun _ => ⟨⟨.create token, .error failure⟩, by simp, rfl, .inr rfl⟩
      changes := rfl }
  | ok created =>
    refine ends_step fun applied => ?_
    obtain ⟨observed, changed, failure⟩ := applied
    have orderly : Orderly paths token last
        ([⟨.observe last, .ok none⟩] ++ [⟨.create token, .ok created⟩] ++
          [⟨.afterCreate created, ⟨observed, changed, failure⟩⟩]) (some observed)
        { Changes.none with created := true, collections := changed } :=
      { planned := ⟨[], rfl⟩
        complete := .inl rfl
        succeeded := by simp [Program.Exchange.failure?]
        threaded := (threaded_concat_iff _ _).2 ⟨made _, fun given same => same⟩
        inputs := by simp [Step.Fits]
        observed := rfl
        fallback := nofun
        changes := by simp [Pass.changed, Program.Exchange.changes, Changes.none] }
    cases failure with
    | some failure => exact orderly
    | none => exact ends_finish ⟨orderly, by simp [Program.Exchange.failure?], rfl⟩

variable (paths token last) in
theorem ends_run : (run paths token last).Always Program.recorded (Ends paths token last) [] := by
  refine ends_step fun reply => ?_
  match reply with
  | .ok none => exact ends_create
  | .ok (some observed) => exact ends_update observed
  | .error failure =>
    exact {
      planned := ⟨[], rfl⟩
      complete := .inl rfl
      succeeded := by simp
      threaded := (threaded_concat_iff [] _).2 ⟨threaded_nil, nofun⟩
      inputs := by simp [Step.Fits]
      observed := rfl
      fallback := fun _ => ⟨⟨.observe last, .error failure⟩, by simp, rfl, .inl rfl⟩
      changes := rfl }

end Pass

namespace Program.Exchange

variable {O : Type} (taken : Exchange (Step O) Step.Reply)

theorem stage_of_changes :
    (taken.changes.created = true → taken.call.stage? = some .create) ∧
    (taken.changes.tags = true → taken.call.stage? = some .syncTags) ∧
    (taken.changes.collections = true → taken.call.stage? = some .afterCreate ∨
      taken.call.stage? = some .syncCollections) ∧
    (taken.changes.primary = true → taken.call.stage? = some .update) := by
  unfold changes
  split <;> simp [Step.stage?, Changes.none]

end Program.Exchange

namespace Pass

variable {O : Type} {course : Course O}

theorem mem_stages {taken : Program.Exchange (Step O) Step.Reply} {stage : Stage}
    (member : taken ∈ course) (its : taken.call.stage? = some stage) : stage ∈ stages course :=
  List.mem_filterMap.2 ⟨taken, member, its⟩

structure Called (course : Course O) (changes : Changes) : Prop where
  created : changes.created = true → .create ∈ stages course
  tags : changes.tags = true → .syncTags ∈ stages course
  collections : changes.collections = true →
    .afterCreate ∈ stages course ∨ .syncCollections ∈ stages course
  primary : changes.primary = true → .update ∈ stages course

theorem called_changed (course : Course O) : Called course (changed course) where
  created flagged := by
    obtain ⟨taken, member, flagged⟩ := List.any_eq_true.1 flagged
    exact mem_stages member (taken.stage_of_changes.1 flagged)
  tags flagged := by
    obtain ⟨taken, member, flagged⟩ := List.any_eq_true.1 flagged
    exact mem_stages member (taken.stage_of_changes.2.1 flagged)
  collections flagged := by
    obtain ⟨taken, member, flagged⟩ := List.any_eq_true.1 flagged
    exact (taken.stage_of_changes.2.2.1 flagged).imp (mem_stages member) (mem_stages member)
  primary flagged := by
    obtain ⟨taken, member, flagged⟩ := List.any_eq_true.1 flagged
    exact mem_stages member (taken.stage_of_changes.2.2.2 flagged)

theorem shown_eq_none_iff : shown course = none ↔ ∀ taken ∈ course, taken.shown? = none := by
  simp [shown]

end Pass

namespace Manager

variable {Call : Type} {Reply : Call → Type} {Desired Observed σ : Type}

/-- The steps that a pass takes, with the replies that the manager comes to. -/
def course (manager : Manager Call Reply Desired Observed) (desired : Desired) (token : Token)
    (last : Option Observed) (serve : (call : Call) → σ → Reply call × σ) (state : σ) :
    Pass.Course Observed :=
  (Pass.run manager.collectionPaths token last).transcript
    (fun step state => (manager.perform desired step).run serve state) state

/-- Whatever a manager does, a pass takes exactly the steps that are planned, in their order, up to
the first that fails. Each works on the snapshot that the step before it has returned, and the last
snapshot is kept however the pass ends. -/
theorem pass_in_order (manager : Manager Call Reply Desired Observed) (desired : Desired)
    (token : Token) (last : Option Observed) (serve : (call : Call) → σ → Reply call × σ)
    (state : σ) (delays : PassDelays) (now : Timestamp) (prior : Conditions) :
    let course := manager.course desired token last serve state
    let result := ((manager.pass desired token last).run serve state).1.conclude
      manager.terminalCodes delays now prior
    Pass.Orderly manager.collectionPaths token last course result.observed result.changes ∧
      (result.observed = none → last = none ∧ ∀ taken ∈ course, taken.shown? = none) ∧
      Pass.Called course result.changes := by
  intro course result
  have orderly : Pass.Orderly manager.collectionPaths token last course result.observed
      result.changes := by
    have ends := Program.post_transcript
      (fun step state => (manager.perform desired step).run serve state) _ [] state
      (Pass.ends_run manager.collectionPaths token last)
    simpa [Pass.Ends, course, result, Manager.course, pass, Program.run_expand] using ends
  refine ⟨orderly, fun unseen => ?_, ?_⟩
  · have nothing : Pass.shown course = none ∧ last = none := by
      rw [← Option.or_eq_none_iff, ← orderly.observed, unseen]
    exact ⟨nothing.2, Pass.shown_eq_none_iff.1 nothing.1⟩
  · rw [orderly.changes]
    exact Pass.called_changed course

end Manager

end Converge
