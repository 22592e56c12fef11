import Converge.Proofs.Conditions

/-! The history of a list of conditions. Every pass is noted in it once. What the list says in the
end is told here from the notes alone: which conditions there are, which of them hold and since
when. The kinds of condition are dealt with one by one, as a note treats each of them in its own
way. -/
namespace Converge

structure Note where
  time : Timestamp
  failure : Option (Failure × Severity)
  synced : Bool
  message : Option String
deriving DecidableEq

def Severity.raises : Severity → ConditionKind
  | .terminal => .terminal
  | .recoverable => .recoverable

namespace Note

def severity? (note : Note) : Option Severity := note.failure.map Prod.snd

def tells (note : Note) (told : Option Bool) : ConditionKind → Option Bool
  | .terminal => if note.severity? = some .terminal then some true else told.map fun _ => false
  | .recoverable =>
    match note.severity? with
    | some .terminal => told
    | some .recoverable => some true
    | none => told.map fun _ => false
  | .synced => some note.synced

theorem tells_raises_ne_none_iff (note : Note) (told : Option Bool) (severity : Severity) :
    note.tells told severity.raises ≠ none ↔ told ≠ none ∨ note.severity? = some severity := by
  unfold tells
  rcases how : note.severity? with _ | _ | _ <;> cases severity <;> simp [Severity.raises]

end Note

namespace Conditions

/-- The kinds of condition there are, in the order of the list. -/
def kinds (conditions : Conditions) : List ConditionKind := conditions.entries.map Condition.kind

def status? (conditions : Conditions) (kind : ConditionKind) : Option Bool :=
  (conditions.get? kind).map Condition.status

def since? (conditions : Conditions) (kind : ConditionKind) : Option Timestamp :=
  (conditions.get? kind).map Condition.since

def note (conditions : Conditions) (note : Note) : Conditions :=
  conditions.track note.time note.failure note.synced note.message

def after (start : Conditions) (notes : List Note) : Conditions := notes.foldl Conditions.note start

/-- The notes that have made a condition or changed its status. -/
def flips (start : Conditions) (kind : ConditionKind) : List Note → List Note
  | [] => []
  | note :: rest =>
    let next := start.note note
    if next.status? kind = start.status? kind then next.flips kind rest
    else note :: next.flips kind rest

section Views

variable (conditions : Conditions) (now : Timestamp) (kind other : ConditionKind)

theorem mem_kinds_iff : kind ∈ conditions.kinds ↔ conditions.status? kind ≠ none := by
  simp [kinds, status?, get?]

theorem isTrue_iff : conditions.isTrue kind = true ↔ conditions.status? kind = some true := by
  simp [isTrue, status?, Option.any_eq_true]

theorem get?_of_mem {condition : Condition} (distinct : conditions.kinds.Nodup)
    (member : condition ∈ conditions.entries) :
    conditions.get? condition.kind = some condition := by
  obtain ⟨entries⟩ := conditions
  obtain ⟨before, after, rfl⟩ := List.append_of_mem member
  refine List.find?_eq_some_iff_append.2 ⟨by simp, before, after, rfl, fun earlier there => ?_⟩
  have apart := List.nodup_append.1 (by simpa [kinds] using distinct)
  simpa using apart.2.2 earlier.kind (List.mem_map_of_mem there) condition.kind (by simp)

@[simp]
theorem status?_set (status : Bool) (message : Option String) :
    (conditions.set now kind status message).status? other =
      if other = kind then some status else conditions.status? other := by
  split
  · next same => simp [status?, same, get?_set_self]
  · next apart => simp [status?, apart]

@[simp]
theorem since?_set (status : Bool) (message : Option String) :
    (conditions.set now kind status message).since? other =
      if other = kind then
        if some status = conditions.status? other then conditions.since? other else some now
      else conditions.since? other := by
  split
  · next same =>
    subst same
    cases found : conditions.get? other with
    | none => simp [since?, status?, get?_set_self, found]
    | some old =>
      by_cases steady : old.status = status
      · simp [since?, status?, get?_set_self, found, steady]
      · simp [since?, status?, get?_set_self, found, steady, Ne.symm steady]
  · next apart => simp [since?, apart]

theorem clear_eq_ite : conditions.clear now kind =
    if conditions.status? kind = none then conditions else conditions.set now kind false none := by
  unfold clear status?
  cases conditions.get? kind <;> simp

@[simp]
theorem status?_clear :
    (conditions.clear now kind).status? other =
      if other = kind then (conditions.status? other).map fun _ => false
      else conditions.status? other := by
  rw [clear_eq_ite]
  by_cases same : other = kind
  · subst same
    cases told : conditions.status? other <;> simp [told]
  · split <;> simp [same]

@[simp]
theorem since?_clear :
    (conditions.clear now kind).since? other =
      if other = kind then
        if (conditions.status? other).map (fun _ => false) = conditions.status? other then
          conditions.since? other
        else some now
      else conditions.since? other := by
  rw [clear_eq_ite]
  by_cases same : other = kind
  · subst same
    cases told : conditions.status? other <;> simp [told]
  · split <;> simp [same]

theorem kinds_set (status : Bool) (message : Option String) :
    (conditions.set now kind status message).kinds =
      if kind ∈ conditions.kinds then conditions.kinds else conditions.kinds ++ [kind] := by
  obtain ⟨entries⟩ := conditions
  simp only [set, kinds]
  induction entries with
  | nil => simp [write]
  | cons head rest ih =>
    unfold write
    by_cases same : head.kind = kind
    · simp [same]
    · rw [if_neg same, List.map_cons, ih]
      by_cases there : kind ∈ rest.map Condition.kind <;> simp [there, Ne.symm same]

end Views

structure Grows (before after : Conditions) : Prop where
  kept : before.kinds <+: after.kinds
  distinct : before.kinds.Nodup → after.kinds.Nodup

namespace Grows

variable {first second third : Conditions} (now : Timestamp) (kind : ConditionKind)

theorem refl (conditions : Conditions) : Grows conditions conditions :=
  ⟨List.prefix_rfl, id⟩

theorem trans (earlier : Grows first second) (later : Grows second third) : Grows first third :=
  ⟨earlier.kept.trans later.kept, later.distinct ∘ earlier.distinct⟩

theorem set (grows : Grows first second) (status : Bool) (message : Option String) :
    Grows first (second.set now kind status message) := by
  refine grows.trans ⟨?_, fun distinct => ?_⟩
  · rw [kinds_set]
    split
    · exact List.prefix_rfl
    · exact List.prefix_append _ _
  · rw [kinds_set]
    split
    · exact distinct
    · next fresh =>
      refine List.nodup_append.2 ⟨distinct, by simp, fun other there last again => ?_⟩
      rintro rfl
      exact fresh (List.mem_singleton.1 again ▸ there)

theorem clear (grows : Grows first second) : Grows first (second.clear now kind) := by
  rw [clear_eq_ite]
  split
  · exact grows
  · exact grows.set now kind false none

end Grows

section Notes

variable (start : Conditions) (kind : ConditionKind) (note : Note) (notes others : List Note)

theorem grows_note : Grows start (start.note note) := by
  unfold Conditions.note track
  refine Grows.set _ _ ?_ _ _
  have same := Grows.refl start
  split
  · exact same.set _ _ _ _
  · exact (same.clear _ _).set _ _ _ _
  · exact (same.clear _ _).clear _ _

@[simp]
theorem status?_note : (start.note note).status? kind = note.tells (start.status? kind) kind := by
  obtain ⟨time, failure, synced, message⟩ := note
  match failure with
  | none => cases kind <;> simp [Conditions.note, track, Note.tells, Note.severity?]
  | some (cause, .terminal) =>
    cases kind <;> simp [Conditions.note, track, Note.tells, Note.severity?]
  | some (cause, .recoverable) =>
    cases kind <;> simp [Conditions.note, track, Note.tells, Note.severity?]

theorem since?_note : (start.note note).since? kind =
    if (start.note note).status? kind = start.status? kind then start.since? kind
    else some note.time := by
  rw [status?_note]
  obtain ⟨time, failure, synced, message⟩ := note
  match failure with
  | none => cases kind <;> simp [Conditions.note, track, Note.tells, Note.severity?] <;> congr
  | some (cause, .terminal) =>
    cases kind <;> simp [Conditions.note, track, Note.tells, Note.severity?]
    congr
  | some (cause, .recoverable) =>
    cases kind <;> simp [Conditions.note, track, Note.tells, Note.severity?] <;> congr

theorem grows_after : Grows start (start.after notes) := by
  induction notes generalizing start with
  | nil => exact .refl start
  | cons note rest ih => exact (grows_note start note).trans (ih (start.note note))

@[simp]
theorem after_append : start.after (notes ++ others) = (start.after notes).after others :=
  List.foldl_append

theorem since?_after : (start.after notes).since? kind =
    ((start.flips kind notes).getLast?.map Note.time).or (start.since? kind) := by
  induction notes generalizing start with
  | nil => rfl
  | cons note rest ih =>
    have later := ih (start.note note)
    rw [since?_note] at later
    unfold flips
    split at later
    · next steady =>
      rw [if_pos steady]
      exact later
    · next moved =>
      rw [if_neg moved, List.getLast?_cons]
      refine later.trans ?_
      cases (flips (start.note note) kind rest).getLast? <;> rfl

end Notes

section Laws

variable (start : Conditions) (notes : List Note) (note : Note)

theorem raises_mem_kinds_after_iff (severity : Severity) :
    severity.raises ∈ (start.after notes).kinds ↔
      severity.raises ∈ start.kinds ∨ ∃ note ∈ notes, note.severity? = some severity := by
  induction notes generalizing start with
  | nil => simp [after]
  | cons note rest ih =>
    have later := ih (start.note note)
    rw [mem_kinds_iff (start.note note), status?_note, note.tells_raises_ne_none_iff,
      ← mem_kinds_iff, or_assoc] at later
    exact later.trans (by simp)

theorem isTrue_terminal_note_iff :
    (start.note note).isTrue .terminal = true ↔ note.severity? = some .terminal := by
  rw [isTrue_iff, status?_note, Note.tells]
  split
  · next ended => simp [ended]
  · next going => simp [going]

theorem isTrue_recoverable_note : (start.note note).isTrue .recoverable =
    if note.severity? = some .terminal then start.isTrue .recoverable
    else decide (note.severity? = some .recoverable) := by
  rw [Bool.eq_iff_iff, isTrue_iff, status?_note, Note.tells]
  rcases note.severity? with _ | _ | _ <;> simp [isTrue_iff]

theorem isTrue_recoverable_after : (start.after notes).isTrue .recoverable =
    (notes.filter fun note => note.severity? ≠ some .terminal).getLast?.elim
      (start.isTrue .recoverable) fun note => note.severity? = some .recoverable := by
  induction notes generalizing start with
  | nil => rfl
  | cons note rest ih =>
    have later := ih (start.note note)
    rw [isTrue_recoverable_note] at later
    refine later.trans ?_
    by_cases ended : note.severity? = some .terminal
    · simp [ended]
    · rw [List.filter_cons_of_pos (by simpa using ended), List.getLast?_cons, if_neg ended]
      cases (rest.filter fun note => note.severity? ≠ some .terminal).getLast? <;> rfl

end Laws

/-- What a list of conditions says after some notes, the last of which is singled out. -/
structure History (start : Conditions) (earlier : List Note) (last : Note) : Prop where
  distinct : (start.after (earlier ++ [last])).kinds.Nodup
  kept : ∀ before after, earlier ++ [last] = before ++ after →
    (start.after before).kinds <+: (start.after (earlier ++ [last])).kinds
  raised : ∀ severity : Severity, severity.raises ∈ (start.after (earlier ++ [last])).kinds ↔
    severity.raises ∈ start.kinds ∨ ∃ note ∈ earlier ++ [last], note.severity? = some severity
  terminal : (start.after (earlier ++ [last])).isTrue .terminal = true ↔
    last.severity? = some .terminal
  recoverable : (start.after (earlier ++ [last])).isTrue .recoverable =
    ((earlier ++ [last]).filter fun note => note.severity? ≠ some .terminal).getLast?.elim
      (start.isTrue .recoverable) fun note => note.severity? = some .recoverable
  synced : (start.after (earlier ++ [last])).status? .synced = some last.synced
  since : ∀ condition ∈ (start.after (earlier ++ [last])).entries, some condition.since =
    ((start.flips condition.kind (earlier ++ [last])).getLast?.map Note.time).or
      (start.since? condition.kind)

/-- Whatever passes are noted in a list of conditions, and at whatever times, the list tells of them
in the end as a history does. -/
theorem history_after {start : Conditions} (distinct : start.kinds.Nodup) (earlier : List Note)
    (last : Note) : History start earlier last := by
  have apart := (grows_after start (earlier ++ [last])).distinct distinct
  have final : start.after (earlier ++ [last]) = (start.after earlier).note last :=
    after_append start earlier [last]
  exact {
    distinct := apart
    kept := fun before after same => by
      rw [same, after_append]
      exact (grows_after _ after).kept
    raised := raises_mem_kinds_after_iff start _
    terminal := by
      rw [final]
      exact isTrue_terminal_note_iff _ last
    recoverable := isTrue_recoverable_after start _
    synced := by
      rw [final, status?_note]
      rfl
    since := fun condition member => by
      rw [← since?_after, since?, get?_of_mem _ apart member]
      rfl }

def secondOfEpoch (second : Fin 60) : Timestamp :=
  { Timestamp.epoch with second, secondInMinute := Nat.le_of_lt second.isLt }

theorem relapsing_history :
    let throttled := Failure.provider "ThrottlingException" "Rate exceeded"
    let refused := Failure.terminal "direction is immutable"
    let start : Conditions := ⟨[⟨.recoverable, false, none, secondOfEpoch 0⟩]⟩
    let earlier : List Note :=
      [⟨secondOfEpoch 1, some (refused, .terminal), false, none⟩,
        ⟨secondOfEpoch 2, some (throttled, .recoverable), false, none⟩]
    let last : Note := ⟨secondOfEpoch 3, some (refused, .terminal), false, none⟩
    start.kinds.Nodup ∧ History start earlier last ∧
      (start.after (earlier ++ [last])).entries =
        [⟨.recoverable, true, some throttled.text, secondOfEpoch 2⟩,
          ⟨.terminal, true, some refused.text, secondOfEpoch 3⟩,
          ⟨.synced, false, none, secondOfEpoch 1⟩] :=
  ⟨by decide, history_after (by decide) _ _, by decide +kernel⟩

end Conditions

end Converge
