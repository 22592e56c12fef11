import Converge.Agent.Status

/-! What conditions say after a pass. Old conditions stay in the list, so what they say now is
settled by the pass alone only because every pass sets or clears what an older one may have left. -/
namespace Converge

namespace Conditions

variable (conditions : Conditions) (now : Timestamp) (kind other : ConditionKind)

def message? : Option String := (conditions.get? kind).bind Condition.message

@[simp]
theorem isTrue_set (status : Bool) (message : Option String) :
    (conditions.set now kind status message).isTrue other =
      if other = kind then status else conditions.isTrue other := by
  split
  · next same => simp [isTrue, same, get?_set_self]
  · next apart => simp [isTrue, apart]

@[simp]
theorem message?_set (status : Bool) (message : Option String) :
    (conditions.set now kind status message).message? other =
      if other = kind then message else conditions.message? other := by
  split
  · next same => simp [message?, same, get?_set_self]
  · next apart => simp [message?, apart]

theorem clear_eq :
    conditions.clear now kind = conditions.set now kind false none ∨
      conditions.clear now kind = conditions ∧ conditions.get? kind = none := by
  unfold clear
  cases conditions.get? kind <;> simp

@[simp]
theorem isTrue_clear :
    (conditions.clear now kind).isTrue other =
      if other = kind then false else conditions.isTrue other := by
  rcases conditions.clear_eq now kind with cleared | ⟨kept, missing⟩
  · rw [cleared, isTrue_set]
  · rw [kept]
    split
    · next same => simp [isTrue, same, missing]
    · rfl

@[simp]
theorem message?_clear :
    (conditions.clear now kind).message? other =
      if other = kind then none else conditions.message? other := by
  rcases conditions.clear_eq now kind with cleared | ⟨kept, missing⟩
  · rw [cleared, message?_set]
  · rw [kept]
    split
    · next same => simp [message?, same, missing]
    · rfl

theorem messageOf_eq :
    Summary.messageOf conditions = (conditions.message? .terminal <|>
      conditions.message? .recoverable <|> conditions.message? .synced) := by
  have first : Summary.messageOf conditions =
      [ConditionKind.terminal, .recoverable, .synced].findSome? conditions.message? := rfl
  rw [first]
  cases terminal : conditions.message? .terminal <;>
    cases recoverable : conditions.message? .recoverable <;>
    cases synced : conditions.message? .synced <;>
    simp [List.findSome?, terminal, recoverable, synced]

structure Tell (failed : Option Severity) (outcome : Outcome) : Prop where
  synced : conditions.isTrue .synced = true ↔ outcome = .converged
  terminal : conditions.isTrue .terminal = true ↔ ∃ reason, outcome = .fatal reason
  recoverable : failed = some .recoverable → conditions.isTrue .recoverable = true
  unfailed : failed = none → conditions.isTrue .recoverable = false
  message : Summary.messageOf conditions = outcome.reason?

end Conditions

namespace Reconciled

variable {O : Type} (now : Timestamp) (prior : Conditions) (observed : Option O) (changes : Changes)

theorem tell_ofFailure (codes : List String) (failure : Failure) :
    let result := ofFailure codes now prior observed changes failure
    result.conditions.Tell (some (failure.severity codes)) result.outcome := by
  unfold ofFailure
  cases failure.severity codes with
  | terminal =>
    constructor <;> simp [Conditions.track, Conditions.messageOf_eq, Outcome.reason?]
  | recoverable =>
    constructor <;> simp [Conditions.track, Conditions.messageOf_eq, Outcome.reason?]

theorem tell_ofWaiting (delay : Nat) (reason : String) :
    let result := ofWaiting now prior observed changes delay reason
    result.conditions.Tell none result.outcome := by
  constructor <;> simp [ofWaiting, Conditions.track, Conditions.messageOf_eq, Outcome.reason?]

theorem tell_ofSettled :
    let result := ofSettled now prior observed changes
    result.conditions.Tell none result.outcome := by
  constructor <;> simp [ofSettled, Conditions.track, Conditions.messageOf_eq, Outcome.reason?]

end Reconciled

namespace PassEnding

def severity? (codes : List String) : PassEnding → Option Severity
  | .failed failure => some (failure.severity codes)
  | _ => none

end PassEnding

theorem PassResult.tell_conclude {O : Type} (codes : List String) (delays : PassDelays)
    (now : Timestamp) (prior : Conditions) (result : PassResult O) :
    let reconciled := result.conclude codes delays now prior
    reconciled.conditions.Tell (result.ending.severity? codes) reconciled.outcome := by
  obtain ⟨observed, changes, ending⟩ := result
  cases ending with
  | failed failure => exact Reconciled.tell_ofFailure now prior observed changes codes failure
  | stale => exact Reconciled.tell_ofWaiting now prior observed changes delays.refresh _
  | unsettled => exact Reconciled.tell_ofWaiting now prior observed changes delays.settle _
  | settled => exact Reconciled.tell_ofSettled now prior observed changes

end Converge
