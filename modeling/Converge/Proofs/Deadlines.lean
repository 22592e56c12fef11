import Converge.Proofs.Moves
import Converge.Proofs.Reconcile

/-! Time limits. A call ends with whatever comes first, its own completion, the cancellation or the
deadline, and a call that begins too late does nothing. So a pass that begins in time ends in time
and changes nothing afterwards. -/
namespace Converge

def Ending.rank : Ending → Nat
  | .completed => 0
  | .cancelled => 1
  | .expired => 2

theorem Ending.eq_of_rank {ending other : Ending} (same : ending.rank = other.rank) :
    ending = other := by
  cases ending <;> cases other <;> first | rfl | cases same

namespace Bounds

variable {bounds : Bounds} {now : Nat} {duration : Option Nat}

inductive Occurs (bounds : Bounds) (now : Nat) (duration : Option Nat) : Nat × Ending → Prop where
  | completed {taken : Nat} (given : duration = some taken) :
      Occurs bounds now duration (now + taken, .completed)
  | cancelled {time : Nat} (given : bounds.cancelAt = some time) :
      Occurs bounds now duration (time, .cancelled)
  | expired {time : Nat} (given : bounds.deadline = some time) :
      Occurs bounds now duration (time, .expired)

def Precedes (event other : Nat × Ending) : Prop :=
  event.1 < other.1 ∨ event.1 = other.1 ∧ event.2.rank ≤ other.2.rank

theorem Precedes.refl (event : Nat × Ending) : Precedes event event := .inr ⟨rfl, Nat.le_refl _⟩

theorem Precedes.trans {first second third : Nat × Ending} (before : Precedes first second)
    (after : Precedes second third) : Precedes first third := by
  unfold Precedes at *
  omega

theorem Precedes.antisymm {event other : Nat × Ending} (before : Precedes event other)
    (after : Precedes other event) : event = other := by
  have both : event.1 = other.1 ∧ event.2.rank = other.2.rank := by
    unfold Precedes at *
    omega
  exact Prod.ext both.1 (Ending.eq_of_rank both.2)

structure First (among : Nat × Ending → Prop) (event : Nat × Ending) : Prop where
  occurs : among event
  least : ∀ other, among other → Precedes event other

theorem First.unique {among : Nat × Ending → Prop} {event other : Nat × Ending}
    (first : First among event) (again : First among other) : event = other :=
  (first.least other again.occurs).antisymm (again.least event first.occurs)

structure Leads (found : Option (Nat × Ending)) (among : Nat × Ending → Prop) : Prop where
  first : ∀ event ∈ found, First among event
  none : found = none → ∀ other, ¬among other

namespace Leads

variable {found others : Option (Nat × Ending)} {among besides : Nat × Ending → Prop}

theorem single (found : Option (Nat × Ending)) : Leads found fun event => found = some event where
  first event there := ⟨there, fun other same => by
    cases Option.some.inj (there.symm.trans same)
    exact .refl event⟩
  none nothing other same := by
    rw [nothing] at same
    cases same

theorem earlier (one : Leads found among) (other : Leads others besides)
    (ranked : ∀ event later, among event → besides later → event.2.rank ≤ later.2.rank) :
    Leads (earlier found others) fun event => among event ∨ besides event := by
  unfold Bounds.earlier
  split
  · next event later =>
    have first := one.first event rfl
    have second := other.first later rfl
    have order := ranked event later first.occurs second.occurs
    split
    · next sooner =>
      have precedes : Precedes later event := .inl sooner
      refine ⟨fun _ same => ?_, nofun⟩
      cases same
      exact ⟨.inr second.occurs, fun another => Or.rec
        (fun member => precedes.trans (first.least another member)) (second.least another)⟩
    · next late =>
      have precedes : Precedes event later := by
        unfold Precedes
        omega
      refine ⟨fun _ same => ?_, nofun⟩
      cases same
      exact ⟨.inl first.occurs, fun another => Or.rec (first.least another)
        fun member => precedes.trans (second.least another member)⟩
  · have absent := one.none rfl
    simpa [absent] using other
  · have absent := other.none rfl
    simpa [absent] using one

theorem eq_some_iff (leads : Leads found among) {event : Nat × Ending} :
    found = some event ↔ First among event := by
  refine ⟨leads.first event, fun first => ?_⟩
  cases same : found with
  | none => exact absurd first.occurs (leads.none same event)
  | some other => exact congrArg some ((leads.first other same).unique first)

end Leads

theorem occurs_iff {event : Nat × Ending} :
    bounds.Occurs now duration event ↔
      (duration.map (fun taken => (now + taken, .completed)) = some event ∨
        bounds.cancelAt.map (fun time => (time, .cancelled)) = some event) ∨
      bounds.deadline.map (fun time => (time, .expired)) = some event := by
  simp only [Option.map_eq_some_iff]
  constructor
  · rintro (given | given | given)
    · exact .inl (.inl ⟨_, given, rfl⟩)
    · exact .inl (.inr ⟨_, given, rfl⟩)
    · exact .inr ⟨_, given, rfl⟩
  · rintro ((⟨_, given, rfl⟩ | ⟨_, given, rfl⟩) | ⟨_, given, rfl⟩)
    · exact .completed given
    · exact .cancelled given
    · exact .expired given

theorem leads_firstEvent (bounds : Bounds) (now : Nat) (duration : Option Nat) :
    Leads (bounds.firstEvent now duration) (bounds.Occurs now duration) := by
  have ranked : ∀ {time : Option Nat} {place : Nat → Nat} {ending : Ending} {event : Nat × Ending},
      time.map (fun time => (place time, ending)) = some event → event.2 = ending := by
    intro time place ending event given
    obtain ⟨_, -, rfl⟩ := Option.map_eq_some_iff.1 given
    rfl
  have leads := ((Leads.single (duration.map fun taken => (now + taken, .completed))).earlier
    (.single (bounds.cancelAt.map fun time => (time, .cancelled))) ?_).earlier
    (.single (bounds.deadline.map fun time => (time, .expired))) ?_
  · have same : bounds.Occurs now duration = _ := funext fun event => propext occurs_iff
    exact same ▸ leads
  · intro event later done cancelled
    rw [ranked done, ranked cancelled]
    exact Nat.zero_le _
  · rintro event later (done | cancelled) expired
    · rw [ranked done]
      exact Nat.zero_le _
    · rw [ranked cancelled, ranked expired]
      exact Nat.le_succ _

/-- When a call comes back that is made now, if ever, and with what. Its own result is the one that
it has if it is completed. -/
def answer {α : Type} (bounds : Bounds) (now : Nat) (duration : Option Nat)
    (own : Except Failure α) : Option (Nat × Except Failure α) :=
  (bounds.race now duration).map fun (time, ending) => (time, ending.result own)

/-- A call is not begun if it is called off or late. Otherwise it comes back with the first of all
that may end it, and never if there is nothing. -/
structure Decides {α : Type} (bounds : Bounds) (now : Nat) (duration : Option Nat)
    (own : Except Failure α) (answer : Option (Nat × Except Failure α)) : Prop where
  cancelled : bounds.isCancelled now = true → answer = some (now, .error .cancelled)
  expired : bounds.isCancelled now = false → bounds.isExpired now = true →
    answer = some (now, .error .deadlineExceeded)
  first : bounds.isCancelled now = false → bounds.isExpired now = false → ∀ time result,
    answer = some (time, result) ↔
      ∃ ending, First (bounds.Occurs now duration) (time, ending) ∧ result = ending.result own
  never : bounds.isCancelled now = false → bounds.isExpired now = false →
    (answer = none ↔ ∀ event, ¬bounds.Occurs now duration event)

theorem race_of_check (timely : bounds.isCancelled now = false ∧ bounds.isExpired now = false) :
    bounds.race now duration = bounds.firstEvent now duration := by
  simp [race, timely]

theorem decides_answer {α : Type} (bounds : Bounds) (now : Nat) (duration : Option Nat)
    (own : Except Failure α) :
    bounds.Decides now duration own (bounds.answer now duration own) where
  cancelled cancelled := by simp [answer, race, cancelled, Ending.result, Ending.failure?]
  expired going expired := by
    simp [answer, race, going, expired, Ending.result, Ending.failure?]
  first going timely time result := by
    have leads := leads_firstEvent bounds now duration
    simp only [answer, race_of_check ⟨going, timely⟩, Option.map_eq_some_iff, leads.eq_some_iff]
    constructor
    · rintro ⟨⟨_, ending⟩, first, same⟩
      cases same
      exact ⟨ending, first, rfl⟩
    · rintro ⟨ending, first, rfl⟩
      exact ⟨(time, ending), first, rfl⟩
  never going timely := by
    have leads := leads_firstEvent bounds now duration
    rw [answer, race_of_check ⟨going, timely⟩, Option.map_eq_none_iff]
    refine ⟨leads.none, fun nothing => Option.eq_none_iff_forall_not_mem.2 fun event there => ?_⟩
    exact nothing event (leads.first event there).occurs

structure Admits (bounds : Bounds) (time : Nat) : Prop where
  deadline : ∀ limit ∈ bounds.deadline, time ≤ limit
  cancelAt : ∀ limit ∈ bounds.cancelAt, time ≤ limit

theorem Precedes.time_le {event other : Nat × Ending} (precedes : Precedes event other) :
    event.1 ≤ other.1 := by
  unfold Precedes at precedes
  omega

theorem admits_race {event : Nat × Ending} (admits : bounds.Admits now)
    (ended : bounds.race now duration = some event) : bounds.Admits event.1 := by
  unfold race at ended
  split at ended
  · cases ended
    exact admits
  · split at ended
    · cases ended
      exact admits
    · have first := (leads_firstEvent bounds now duration).first event ended
      exact ⟨fun limit given => (first.least _ (.expired given)).time_le,
        fun limit given => (first.least _ (.cancelled given)).time_le⟩

theorem admits_wait (admits : bounds.Admits now) (taken : Nat) :
    bounds.Admits (bounds.wait now taken).1 := by
  unfold wait
  cases ended : bounds.race now (some taken) with
  | some event => exact admits_race admits ended
  | none =>
    unfold race at ended
    split at ended
    · cases ended
    · split at ended
      · cases ended
      · exact absurd (.completed rfl) ((leads_firstEvent bounds now (some taken)).none ended _)

end Bounds

namespace Provider.World

variable {world : World} {bounds : Bounds} {call : Call}

theorem admits_ending (admits : bounds.Admits world.time) :
    bounds.Admits (world.ending bounds).1 := by
  unfold ending
  split
  · exact admits
  · exact Bounds.admits_wait admits world.latency

theorem admits_serve (admits : bounds.Admits world.time) :
    bounds.Admits (world.serve bounds call).2.time := by
  have begun : (world.begin bounds call).2.time = world.time := by
    unfold begin
    split <;> rfl
  unfold serve
  split
  · next failure rest refused =>
    rw [refused] at begun
    exact begun ▸ admits
  · next rest accepted =>
    rw [accepted] at begun
    have begun : rest.time = world.time := begun
    have ends := admits_ending (begun.symm ▸ admits : bounds.Admits rest.time)
    simp only
    split
    · exact ends
    · unfold complete
      split <;> exact ends

theorem check_of_changed (changed : (world.serve bounds call).2.registry ≠ world.registry) :
    bounds.check world.time = .ok () := by
  unfold serve begin at changed
  cases late : bounds.check world.time with
  | ok => rfl
  | error failure =>
    rw [late] at changed
    exact absurd rfl changed

end Provider.World

open Provider Resolver

/-- A call that is called off, or whose deadline has come, is over at once. Otherwise it ends with
its own completion, the cancellation or the deadline, whatever comes first, and of those that
coincide with the one that was named first. So a pass over whatever resource that begins in time is
in time between any two of its calls and at its end, and changes nothing afterwards. -/
theorem Manager.pass_in_time (bounds : Bounds) :
    (∀ {α : Type} (now : Nat) (duration : Option Nat) (own : Except Failure α),
      bounds.Decides now duration own (bounds.answer now duration own)) ∧
    ∀ {D O : Type} (manager : Manager Call Call.Reply D O) (delays : PassDelays) (desired : D)
      (last : Option O) (prior : Conditions) (world : World), bounds.Admits world.time →
      (∀ middle ∈ manager.worlds desired bounds last world, bounds.Admits middle.time) ∧
      bounds.Admits (manager.reconcile delays desired bounds last prior world).2.time ∧
      ∀ move ∈ manager.moves desired bounds last world,
        move.after.registry ≠ move.before.registry →
          bounds.check move.before.time = .ok () ∧ bounds.Admits move.after.time := by
  refine ⟨bounds.decides_answer, fun manager delays desired last prior world admits => ?_⟩
  have throughout : ∀ middle ∈ manager.worlds desired bounds last world,
      bounds.Admits middle.time :=
    (Program.asks_any _).forall_states (fun middle : World => bounds.Admits middle.time)
      (fun _ _ _ => World.admits_serve) admits
  refine ⟨throughout, throughout _ (Program.run_mem_states _ _), fun move made changed => ?_⟩
  obtain ⟨-, comes⟩ := Program.of_mem_moves made
  refine ⟨World.check_of_changed (comes ▸ changed), ?_⟩
  exact throughout _ (Program.after_mem_states made)

/-- A provider that takes a tenth of a second for a call. -/
def unhurried : World := World.still.withLatency 100

def networked : RuleSpec :=
  { (default : RuleSpec) with
    name := "internal"
    createdAt := some .epoch
    domainName := "corp.example."
    ruleType := .system
    associations := [⟨"vpc-1"⟩] }

theorem Manager.pass_in_time_tie :
    let bounds : Bounds := ⟨some 100, some 150⟩
    (ruleManager.moves networked bounds none unhurried).map
      (fun move => (move.after.time, move.after.registry.rules.size,
        move.after.registry.associations.length)) = [(100, 1, 0), (100, 1, 0)] ∧
    ∀ middle ∈ ruleManager.worlds networked bounds none unhurried, middle.time ≤ 100 := by
  intro bounds
  have admits : bounds.Admits unhurried.time := by
    constructor <;> simp [bounds, unhurried, World.withLatency, World.still]
  refine ⟨by decide +kernel, fun middle there => ?_⟩
  have timely := (pass_in_time bounds).2 ruleManager {} networked none ∅ unhurried admits
  exact (timely.1 middle there).deadline 100 rfl

end Converge
