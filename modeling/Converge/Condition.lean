import Converge.Failure
import Converge.Timestamp

/-! Status conditions. A resource has at most one condition of a kind. A condition that no longer
holds is cleared and not dropped, so the list tells what has ever happened. -/
namespace Converge

inductive ConditionKind where
  | terminal
  | recoverable
  | synced
deriving DecidableEq, Inhabited

structure Condition where
  kind : ConditionKind
  status : Bool
  message : Option String
  since : Timestamp
deriving DecidableEq

structure Conditions where
  entries : List Condition
deriving DecidableEq

namespace Conditions

def empty : Conditions := ⟨[]⟩

instance : EmptyCollection Conditions := ⟨empty⟩

instance : Inhabited Conditions := ⟨empty⟩

def get? (conditions : Conditions) (kind : ConditionKind) : Option Condition :=
  conditions.entries.find? fun condition => condition.kind = kind

def isTrue (conditions : Conditions) (kind : ConditionKind) : Bool :=
  (conditions.get? kind).any fun condition => condition.status

def write (now : Timestamp) (kind : ConditionKind) (status : Bool) (message : Option String) :
    List Condition → List Condition
  | [] => [⟨kind, status, message, now⟩]
  | condition :: rest =>
    if condition.kind = kind then
      let since := if condition.status = status then condition.since else now
      ⟨kind, status, message, since⟩ :: rest
    else condition :: write now kind status message rest

/-- Puts a condition into its place, or at the end if it is new. The time moves only when the
status does. -/
def set (conditions : Conditions) (now : Timestamp) (kind : ConditionKind) (status : Bool)
    (message : Option String) : Conditions :=
  ⟨write now kind status message conditions.entries⟩

/-- A condition that never arose is not made. -/
def clear (conditions : Conditions) (now : Timestamp) (kind : ConditionKind) : Conditions :=
  if (conditions.get? kind).isSome then conditions.set now kind false none else conditions

/-- Notes how a pass went: a recoverable failure clears a terminal one, a terminal failure clears
nothing, and a pass without failure clears both. -/
def track (conditions : Conditions) (now : Timestamp) (failure : Option (Failure × Severity))
    (synced : Bool) (message : Option String) : Conditions :=
  let noted := match failure with
    | some (cause, .terminal) => conditions.set now .terminal true (some cause.text)
    | some (cause, .recoverable) =>
      (conditions.clear now .terminal).set now .recoverable true (some cause.text)
    | none => (conditions.clear now .terminal).clear now .recoverable
  noted.set now .synced synced message

theorem find_write (now : Timestamp) (kind other : ConditionKind) (status : Bool)
    (message : Option String) (entries : List Condition) (apart : other ≠ kind) :
    (write now kind status message entries).find? (fun c => c.kind = other) =
      entries.find? (fun c => c.kind = other) := by
  induction entries with
  | nil => simp [write, Ne.symm apart]
  | cons head rest ih =>
    unfold write
    split
    · next same => simp [same, Ne.symm apart]
    · simp [List.find?_cons, ih]

@[simp]
theorem get?_set_of_ne (conditions : Conditions) (now : Timestamp) {kind other : ConditionKind}
    (status : Bool) (message : Option String) (apart : other ≠ kind) :
    (conditions.set now kind status message).get? other = conditions.get? other :=
  find_write now kind other status message conditions.entries apart

theorem get?_set_self (conditions : Conditions) (now : Timestamp) (kind : ConditionKind)
    (status : Bool) (message : Option String) :
    (conditions.set now kind status message).get? kind = some ⟨kind, status, message,
      match conditions.get? kind with
      | some old => if old.status = status then old.since else now
      | none => now⟩ := by
  obtain ⟨entries⟩ := conditions
  simp only [set, get?]
  induction entries with
  | nil => simp [write]
  | cons head rest ih =>
    unfold write
    split
    · next same => simp [same]
    · next apart => simp [apart, ih]

end Conditions

end Converge
