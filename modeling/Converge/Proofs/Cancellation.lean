import Converge.Context

/-! Which contexts a handle cancels. A handle comes with a context, and other contexts are made from
that one: copies, contexts for further passes or with other deadlines. All of these hear the handle,
however late they are made and even if the handle is dropped once it has been used. Only a context
that is made cancellable again hears nothing but its new handle. -/
namespace Converge

inductive Derivation where
  | clone
  | nextPass
  | deadline (time : Nat)
  | timeout (duration : Nat)
  | cancellable
deriving DecidableEq

structure Issue where
  context : Context
  origin : Option (Nat × Derivation)

/-- What happens to contexts and handles. A context goes by its place among all that were made, and
a handle by the place of the context with which it was returned. -/
inductive Act where
  | new
  | derive (source : Nat) (derivation : Derivation)
  | cancel (call : Nat)
  | drop (call : Nat)
  | elapse (duration : Nat)

structure Scene where
  now : Nat
  supply : Supply
  timeline : Timeline
  issued : List Issue
  handles : List (Nat × Signal)

namespace Scene

def empty : Scene := ⟨0, ⟨0, 0⟩, .empty, [], []⟩

def issue (scene : Scene) (context : Context) (supply : Supply)
    (origin : Option (Nat × Derivation)) : Scene :=
  { scene with supply, issued := scene.issued ++ [⟨context, origin⟩] }

def derive (scene : Scene) (source : Nat) (parent : Context) (derivation : Derivation) : Scene :=
  let origin := some (source, derivation)
  match derivation with
  | .clone => scene.issue parent scene.supply origin
  | .nextPass =>
    let (context, supply) := parent.forNextPass scene.supply
    scene.issue context supply origin
  | .deadline time => scene.issue (parent.withDeadline time) scene.supply origin
  | .timeout duration => scene.issue (parent.withTimeout scene.now duration) scene.supply origin
  | .cancellable =>
    let (context, signal, supply) := parent.cancellable scene.supply
    { scene.issue context supply origin with
      handles := (scene.issued.length, signal) :: scene.handles }

def step (scene : Scene) : Act → Scene
  | .new =>
    let (context, supply) := Context.new scene.supply
    scene.issue context supply none
  | .derive source derivation =>
    match scene.issued[source]? with
    | some parent => scene.derive source parent.context derivation
    | none => scene
  | .cancel call =>
    match scene.handles.lookup call with
    | some signal => { scene with timeline := scene.timeline.give signal scene.now }
    | none => scene
  | .drop call => { scene with handles := scene.handles.filter fun handle => handle.1 ≠ call }
  | .elapse duration => { scene with now := scene.now + duration }

def run (acts : List Act) : Scene := acts.foldl step empty

end Scene

namespace Issue

variable {issued earlier : List Issue} {place call source : Nat} {issue : Issue} {signal : Signal}

inductive Derived (issued : List Issue) (allowed : Derivation → Prop) (first : Nat) :
    Nat → Prop where
  | refl : Derived issued allowed first first
  | next {place source : Nat} {derivation : Derivation} {issue : Issue}
      (made : issued[place]? = some issue) (origin : issue.origin = some (source, derivation))
      (kind : allowed derivation) (before : Derived issued allowed first source) :
      Derived issued allowed first place

def Inherits (issued : List Issue) : Nat → Nat → Prop := Derived issued (· ≠ .cancellable)

/-- A place at which a context was made cancellable, with the signal that it got. -/
def IsCall (issued : List Issue) (call : Nat) (signal : Signal) : Prop :=
  ∃ issue source, issued[call]? = some issue ∧ issue.origin = some (source, .cancellable) ∧
    issue.context.signal = some signal

inductive Hears (earlier : List Issue) : Issue → Prop where
  | anew {issue : Issue} (origin : issue.origin = none) (silent : issue.context.signal = none) :
      Hears earlier issue
  | inherited {issue parent : Issue} {source : Nat} {derivation : Derivation}
      (origin : issue.origin = some (source, derivation)) (kind : derivation ≠ .cancellable)
      (made : earlier[source]? = some parent)
      (same : issue.context.signal = parent.context.signal) : Hears earlier issue
  | own {issue : Issue} {source : Nat} {signal : Signal}
      (origin : issue.origin = some (source, .cancellable))
      (given : issue.context.signal = some signal)
      (fresh : ∀ issue ∈ earlier, issue.context.signal ≠ some signal) : Hears earlier issue

namespace Hears

variable {derivation : Derivation}

theorem of_inherited (hears : Hears earlier issue)
    (origin : issue.origin = some (source, derivation)) (kind : derivation ≠ .cancellable) :
    ∃ parent, earlier[source]? = some parent ∧ issue.context.signal = parent.context.signal := by
  cases hears with
  | anew absent => simp [absent] at origin
  | inherited same _ made signal =>
    obtain ⟨rfl, -⟩ := Prod.mk.inj (Option.some.inj (same.symm.trans origin))
    exact ⟨_, made, signal⟩
  | own same =>
    obtain ⟨-, rfl⟩ := Prod.mk.inj (Option.some.inj (same.symm.trans origin))
    exact absurd rfl kind

theorem of_own (hears : Hears earlier issue) (origin : issue.origin = some (source, .cancellable))
    (given : issue.context.signal = some signal) :
    ∀ other ∈ earlier, other.context.signal ≠ some signal := by
  cases hears with
  | anew absent => simp [absent] at origin
  | inherited same kind =>
    obtain ⟨-, rfl⟩ := Prod.mk.inj (Option.some.inj (same.symm.trans origin))
    exact absurd rfl kind
  | own _ signal fresh =>
    obtain rfl := Option.some.inj (signal.symm.trans given)
    exact fresh

end Hears

inductive Lineage : List Issue → Prop where
  | nil : Lineage []
  | concat {earlier : List Issue} {issue : Issue} (before : Lineage earlier)
      (hears : Hears earlier issue) : Lineage (earlier ++ [issue])

theorem getElem?_concat_eq_some_iff {last : Issue} : (earlier ++ [last])[place]? = some issue ↔
    earlier[place]? = some issue ∨ place = earlier.length ∧ last = issue := by
  rcases Nat.lt_trichotomy place earlier.length with old | rfl | beyond
  · simp [List.getElem?_append_left old, Nat.ne_of_lt old]
  · simp
  · have outside : (earlier ++ [last]).length ≤ place := by simpa using Nat.succ_le_of_lt beyond
    simp [List.getElem?_eq_none (Nat.le_of_lt beyond), Nat.ne_of_gt beyond,
      List.getElem?_eq_none outside]

theorem Derived.concat {allowed : Derivation → Prop} {first : Nat}
    (derived : Derived issued allowed first place) (last : Issue) :
    Derived (issued ++ [last]) allowed first place := by
  induction derived with
  | refl => exact .refl
  | next made origin kind _ ih =>
    exact .next (getElem?_concat_eq_some_iff.2 (.inl made)) origin kind ih

theorem IsCall.concat (made : IsCall issued call signal) (last : Issue) :
    IsCall (issued ++ [last]) call signal := by
  obtain ⟨issue, source, there, rest⟩ := made
  exact ⟨issue, source, getElem?_concat_eq_some_iff.2 (.inl there), rest⟩

namespace Lineage

theorem inherited (lineage : Lineage issued) (made : issued[place]? = some issue)
    {derivation : Derivation} (origin : issue.origin = some (source, derivation))
    (kind : derivation ≠ .cancellable) :
    ∃ parent, issued[source]? = some parent ∧
      issue.context.signal = parent.context.signal := by
  induction lineage with
  | nil => simp at made
  | concat _ hears ih =>
    rcases getElem?_concat_eq_some_iff.1 made with old | ⟨-, rfl⟩
    · obtain ⟨parent, there, same⟩ := ih old
      exact ⟨parent, getElem?_concat_eq_some_iff.2 (.inl there), same⟩
    · obtain ⟨parent, there, same⟩ := hears.of_inherited origin kind
      exact ⟨parent, getElem?_concat_eq_some_iff.2 (.inl there), same⟩

theorem exists_call (lineage : Lineage issued) (made : issued[place]? = some issue)
    (hears : issue.context.signal = some signal) :
    ∃ call, IsCall issued call signal ∧ Inherits issued call place := by
  induction lineage generalizing place issue with
  | nil => simp at made
  | @concat earlier last _ traced ih =>
    rcases getElem?_concat_eq_some_iff.1 made with old | ⟨rfl, rfl⟩
    · obtain ⟨call, is_call, inherits⟩ := ih old hears
      exact ⟨call, is_call.concat _, inherits.concat _⟩
    · cases traced with
      | anew _ silent => simp [silent] at hears
      | inherited origin kind there same =>
        obtain ⟨call, is_call, inherits⟩ := ih there (same ▸ hears)
        exact ⟨call, is_call.concat _, .next made origin kind (inherits.concat _)⟩
      | own origin given _ =>
        exact ⟨earlier.length, ⟨_, _, made, origin, hears⟩, .refl⟩

theorem call_unique (lineage : Lineage issued) {other : Nat} (one : IsCall issued call signal)
    (another : IsCall issued other signal) : call = other := by
  induction lineage generalizing call other with
  | nil =>
    obtain ⟨_, _, made, -⟩ := one
    simp at made
  | @concat earlier last _ traced ih =>
    obtain ⟨issue, source, made, origin, hears⟩ := one
    obtain ⟨issue', source', made', origin', hears'⟩ := another
    -- A signal that is new at the last place is heard nowhere else.
    rcases getElem?_concat_eq_some_iff.1 made with old | ⟨rfl, rfl⟩ <;>
      rcases getElem?_concat_eq_some_iff.1 made' with old' | ⟨rfl, rfl⟩
    · exact ih ⟨issue, source, old, origin, hears⟩ ⟨issue', source', old', origin', hears'⟩
    · exact absurd hears (traced.of_own origin' hears' issue (List.mem_of_getElem? old))
    · exact absurd hears' (traced.of_own origin hears issue' (List.mem_of_getElem? old'))
    · rfl

theorem hears_iff (lineage : Lineage issued) (is_call : IsCall issued call signal)
    (made : issued[place]? = some issue) :
    issue.context.signal = some signal ↔ Inherits issued call place := by
  constructor
  · intro hears
    obtain ⟨other, same, inherits⟩ := lineage.exists_call made hears
    exact lineage.call_unique is_call same ▸ inherits
  · intro inherits
    induction inherits generalizing issue with
    | refl =>
      obtain ⟨first, _, there, _, given⟩ := is_call
      obtain rfl : first = issue := Option.some.inj (there.symm.trans made)
      exact given
    | next there origin kind _ ih =>
      obtain rfl : _ = issue := Option.some.inj (there.symm.trans made)
      obtain ⟨parent, before, same⟩ := lineage.inherited there origin kind
      exact same.trans (ih before)

end Lineage

end Issue

namespace Timeline

variable {timeline : Timeline} {signal : Signal} {time : Nat}

/-- The timelines differ at most in when one signal is given. -/
def AgreeBut (signal : Signal) (one another : Timeline) : Prop :=
  ∀ other, other ≠ signal → one.cancelAt other = another.cancelAt other

theorem agreeBut_give (timeline : Timeline) (signal : Signal) (time : Nat) :
    AgreeBut signal timeline (timeline.give signal time) := by
  intro other differs
  simp [cancelAt, give, Ne.symm differs]

theorem AgreeBut.give {another : Timeline} (agree : AgreeBut signal timeline another)
    (other : Signal) (time : Nat) :
    AgreeBut signal (timeline.give other time) (another.give other time) := by
  intro heard differs
  by_cases same : other = heard
  · subst same
    have before := agree other differs
    simp only [cancelAt] at before
    simp [cancelAt, Timeline.give, List.min?_cons, before]
  · rw [← agreeBut_give timeline other time heard (Ne.symm same),
      ← agreeBut_give another other time heard (Ne.symm same)]
    exact agree heard differs

theorem cancelAt_of_given (given : (signal, time) ∈ timeline.given) :
    ∃ first ≤ time, timeline.cancelAt signal = some first := by
  have member : time ∈ (timeline.given.filter fun entry => entry.1 = signal).map Prod.snd :=
    List.mem_map.2 ⟨_, List.mem_filter.2 ⟨given, by simp⟩, rfl⟩
  obtain ⟨first, found⟩ := Option.isSome_iff_exists.1 (List.isSome_min?_of_mem member)
  exact ⟨first, (List.min?_eq_some_iff.1 found).2 time member, found⟩

end Timeline

namespace Scene

open Issue

structure Sound (scene : Scene) : Prop where
  lineage : Lineage scene.issued
  known : ∀ issue ∈ scene.issued, ∀ signal, issue.context.signal = some signal →
    signal.serial < scene.supply.nextSignal
  handed : ∀ call signal, (call, signal) ∈ scene.handles → IsCall scene.issued call signal

variable {scene : Scene}

theorem sound_empty : empty.Sound where
  lineage := .nil
  known := by simp [empty]
  handed := by simp [empty]

theorem Sound.issue (sound : scene.Sound) {context : Context} {supply : Supply}
    {origin : Option (Nat × Derivation)} (hears : Hears scene.issued ⟨context, origin⟩)
    (known : ∀ signal, context.signal = some signal → signal.serial < supply.nextSignal)
    (grown : scene.supply.nextSignal ≤ supply.nextSignal) :
    (scene.issue context supply origin).Sound where
  lineage := sound.lineage.concat hears
  known := by
    intro issue member signal heard
    rcases List.mem_append.1 member with old | new
    · exact Nat.lt_of_lt_of_le (sound.known issue old signal heard) grown
    · obtain rfl := List.mem_singleton.1 new
      exact known signal heard
  handed call signal member := (sound.handed call signal member).concat _

theorem Sound.derive (sound : scene.Sound) {source : Nat} {parent : Issue}
    (made : scene.issued[source]? = some parent) (derivation : Derivation) :
    (scene.derive source parent.context derivation).Sound := by
  have known := sound.known parent (List.mem_of_getElem? made)
  cases derivation with
  | cancellable =>
    have fresh : ∀ issue ∈ scene.issued,
        issue.context.signal ≠ some ⟨scene.supply.nextSignal⟩ := by
      intro issue member heard
      exact absurd (sound.known issue member _ heard) (Nat.lt_irrefl _)
    have issued : (scene.issue (parent.context.cancellable scene.supply).1
        (parent.context.cancellable scene.supply).2.2 (some (source, .cancellable))).Sound :=
      sound.issue (.own rfl rfl fresh) (by simp [Context.cancellable]) (Nat.le_succ _)
    refine ⟨issued.lineage, issued.known, fun call signal member => ?_⟩
    rcases List.mem_cons.1 member with new | old
    · obtain ⟨rfl, rfl⟩ := Prod.mk.injEq _ _ _ _ ▸ new
      exact ⟨_, source, getElem?_concat_eq_some_iff.2 (.inr ⟨rfl, rfl⟩), rfl, rfl⟩
    · exact issued.handed call signal old
  | _ => exact sound.issue (.inherited rfl nofun made rfl) known (Nat.le_refl _)

theorem Sound.step (sound : scene.Sound) (act : Act) : (scene.step act).Sound := by
  cases act with
  | new => exact sound.issue (.anew rfl rfl) nofun (Nat.le_refl _)
  | derive source derivation =>
    simp only [Scene.step]
    split
    · next made => exact sound.derive made derivation
    · exact sound
  | cancel call =>
    simp only [Scene.step]
    split
    · exact ⟨sound.lineage, sound.known, sound.handed⟩
    · exact sound
  | drop call =>
    exact ⟨sound.lineage, sound.known, fun call signal member =>
      sound.handed call signal ((List.mem_filter.1 member).1)⟩
  | elapse duration => exact ⟨sound.lineage, sound.known, sound.handed⟩

theorem Sound.play (sound : scene.Sound) (acts : List Act) :
    (acts.foldl Scene.step scene).Sound := by
  induction acts generalizing scene with
  | nil => exact sound
  | cons act acts ih => exact ih (sound.step act)

structure Fired (scene : Scene) (call : Nat) (signal : Signal) (time : Nat) : Prop where
  is_call : IsCall scene.issued call signal
  given : (signal, time) ∈ scene.timeline.given
  past : time ≤ scene.now

variable {call time : Nat} {signal : Signal}

theorem Fired.step (fired : scene.Fired call signal time) (act : Act) :
    (scene.step act).Fired call signal time := by
  obtain ⟨is_call, given, past⟩ := fired
  cases act with
  | new => exact ⟨is_call.concat _, given, past⟩
  | derive source derivation =>
    simp only [Scene.step]
    split
    · cases derivation <;> exact ⟨is_call.concat _, given, past⟩
    · exact ⟨is_call, given, past⟩
  | cancel other =>
    simp only [Scene.step]
    split
    · exact ⟨is_call, List.mem_cons_of_mem _ given, past⟩
    · exact ⟨is_call, given, past⟩
  | drop other => exact ⟨is_call, given, past⟩
  | elapse duration => exact ⟨is_call, given, Nat.le_trans past (Nat.le_add_right _ _)⟩

theorem Fired.play (fired : scene.Fired call signal time) (acts : List Act) :
    (acts.foldl Scene.step scene).Fired call signal time := by
  induction acts generalizing scene with
  | nil => exact fired
  | cons act acts ih => exact ih (fired.step act)

/-- Nothing that happens depends on when signals are given. -/
theorem step_apart {timeline : Timeline}
    (agree : scene.timeline.AgreeBut signal timeline) (act : Act) :
    ∃ later, { scene with timeline }.step act = { scene.step act with timeline := later } ∧
      (scene.step act).timeline.AgreeBut signal later := by
  cases act with
  | new => exact ⟨timeline, rfl, agree⟩
  | derive source derivation =>
    cases made : scene.issued[source]? with
    | none => exact ⟨timeline, by simp [Scene.step, made], by simpa [Scene.step, made] using agree⟩
    | some parent =>
      simp only [Scene.step, made]
      cases derivation <;> exact ⟨timeline, rfl, agree⟩
  | cancel call =>
    cases held : scene.handles.lookup call with
    | none => exact ⟨timeline, by simp [Scene.step, held], by simpa [Scene.step, held] using agree⟩
    | some other =>
      simp only [Scene.step, held]
      exact ⟨_, rfl, agree.give other scene.now⟩
  | drop call => exact ⟨timeline, rfl, agree⟩
  | elapse duration => exact ⟨timeline, rfl, agree⟩

theorem play_apart {timeline : Timeline}
    (agree : scene.timeline.AgreeBut signal timeline) (acts : List Act) :
    ∃ later, acts.foldl step { scene with timeline } =
        { acts.foldl step scene with timeline := later } ∧
      (acts.foldl step scene).timeline.AgreeBut signal later := by
  induction acts generalizing scene timeline with
  | nil => exact ⟨timeline, rfl, agree⟩
  | cons act acts ih =>
    obtain ⟨later, next, still⟩ := step_apart agree act
    rw [List.foldl_cons, List.foldl_cons, next]
    exact ih still

end Scene

namespace Context

/-- A context whose signal has been given, at a time or before, is of no more use. -/
structure CalledOff (context : Context) (timeline : Timeline) (time now : Nat) : Prop where
  cancelled : context.isCancelled timeline now = true
  check : context.check timeline now = .error .cancelled
  run : ∀ {α : Type} (duration : Option Nat) (result : Except Failure α),
    ((context.bounds timeline).race now duration).map
      (fun (ended, ending) => (ended, ending.result result)) = some (now, .error .cancelled)
  resolved : ∃ first ≤ time, (context.bounds timeline).cancelAt = some first

theorem calledOff {context : Context} {timeline : Timeline} {signal : Signal}
    {time now : Nat} (hears : context.signal = some signal)
    (given : (signal, time) ∈ timeline.given) (past : time ≤ now) :
    context.CalledOff timeline time now := by
  obtain ⟨first, early, found⟩ := Timeline.cancelAt_of_given given
  have heard : (context.bounds timeline).cancelAt = some first := by
    simp [Context.bounds, hears, found]
  have cancelled : (context.bounds timeline).isCancelled now = true := by
    simpa [Bounds.isCancelled, heard] using Nat.le_trans early past
  exact {
    cancelled
    check := by simp [Context.check, Bounds.check, cancelled]
    run := by simp [Bounds.race, cancelled, Ending.result, Ending.failure?]
    resolved := ⟨first, early, heard⟩ }

end Context

namespace Scene

open Issue

/-- Somebody has the handle that was returned along with the context at a place. -/
def holds (scene : Scene) (call : Nat) : Bool := (scene.handles.lookup call).isSome

/-- Once a handle has been used, every context that inherits its signal is of no more use, whenever
it was made and whatever becomes of the handle. All other contexts, among them those that were made
cancellable again, are under the same terms as if the handle had never been used. -/
theorem cancellation_inherited (before after : List Act) (call : Nat)
    (held : (run before).holds call = true) :
    let scene := run (before ++ .cancel call :: after)
    let spared := run (before ++ after)
    scene.now = spared.now ∧ scene.issued = spared.issued ∧
      ∀ place issue, scene.issued[place]? = some issue →
        (Inherits scene.issued call place →
          issue.context.CalledOff scene.timeline (run before).now scene.now) ∧
        (¬ Inherits scene.issued call place →
          issue.context.bounds scene.timeline = issue.context.bounds spared.timeline) := by
  intro scene spared
  obtain ⟨signal, handle⟩ := Option.isSome_iff_exists.1 held
  have sound : (run before).Sound := sound_empty.play before
  have member : (call, signal) ∈ (run before).handles := by
    obtain ⟨_, _, split, -⟩ := List.lookup_eq_some_iff.1 handle
    simp [split]
  have used : (run before).step (.cancel call) =
      { run before with timeline := (run before).timeline.give signal (run before).now } := by
    simp only [step, handle]
  have late : scene = after.foldl step ((run before).step (.cancel call)) := by
    simp only [scene, run, List.foldl_append, List.foldl_cons]
  have early : spared = after.foldl step (run before) := List.foldl_append
  have fired : scene.Fired call signal (run before).now := by
    rw [late, used]
    refine Fired.play ?_ after
    exact ⟨sound.handed call signal member, List.mem_cons_self, Nat.le_refl _⟩
  -- With the handle used or not, the same happens from there on.
  obtain ⟨later, apart, agree⟩ :=
    play_apart (Timeline.agreeBut_give _ signal (run before).now) after
  rw [← used, ← late, ← early] at apart
  rw [← early] at agree
  have lineage : Lineage scene.issued :=
    (sound_empty.play (before ++ .cancel call :: after)).lineage
  refine ⟨by rw [apart], by rw [apart], fun place issue made => ?_⟩
  have hears := lineage.hears_iff fired.is_call made
  refine ⟨fun inherits => Context.calledOff (hears.2 inherits) fired.given fired.past,
    fun unheard => ?_⟩
  have other : ∀ heard, issue.context.signal = some heard →
      scene.timeline.cancelAt heard = spared.timeline.cancelAt heard := by
    intro heard its
    rw [apart]
    exact (agree heard fun same => unheard (hears.1 (same ▸ its))).symm
  cases its : issue.context.signal with
  | none => simp [Context.bounds, its]
  | some heard => simp [Context.bounds, its, other heard its]

theorem deadline_inherited :
    let before : List Act := [.new, .derive 0 .cancellable, .derive 1 .nextPass,
      .derive 1 .cancellable]
    let scene := run (before ++ .cancel 1 :: [.drop 1, .elapse 5, .derive 2 (.timeout 10)])
    (run before).holds 1 = true ∧
      (∃ issue, scene.issued[4]? = some issue ∧ issue.context.CalledOff scene.timeline 0 5) ∧
      ∃ issue, scene.issued[3]? = some issue ∧
        issue.context.bounds scene.timeline = .unbounded := by
  intro before scene
  have inherited :=
    cancellation_inherited before [.drop 1, .elapse 5, .derive 2 (.timeout 10)] 1 rfl
  refine ⟨rfl, ⟨_, rfl, (inherited.2.2 4 _ rfl).1 ?_⟩, _, rfl, (inherited.2.2 3 _ rfl).2 ?_⟩
  · exact .next rfl rfl nofun (.next rfl rfl nofun .refl)
  · intro inherits
    cases inherits with
    | next made origin kind =>
      cases made
      cases origin
      exact kind rfl

/-- A context that was made cancellable twice does not hear the first handle. -/
theorem not_always_inherited : ¬ ∀ (before after : List Act) (call : Nat),
    (run before).holds call = true →
      let scene := run (before ++ .cancel call :: after)
      ∀ place issue, scene.issued[place]? = some issue →
        Derived scene.issued (fun _ => True) call place →
          issue.context.isCancelled scene.timeline scene.now = true := by
  intro always
  have cancelled := always [.new, .derive 0 .cancellable, .derive 1 .cancellable] [] 1 rfl 2 _ rfl
    (.next rfl rfl trivial .refl)
  cases cancelled

end Scene

end Converge
