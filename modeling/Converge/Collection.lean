import Converge.Diff
import Converge.Program

/-! Collections that change one item per call. Everything missing is attached before anything is
detached, so that the collection never falls below a size that the provider insists on. -/
namespace Converge

/-- How the items of a collection are told apart, attached and detached. A call may report a value
that describes the whole collection, such as its size. -/
structure Collection (Call : Type) (Reply : Call → Type) (α κ γ : Type) where
  key : α → κ
  attach : α → Attempt Call Reply (Option γ)
  detach : κ → Attempt Call Reply (Option γ)

structure Progress (α κ γ : Type) where
  attached : List α
  detached : List κ
  aggregate : Option γ
  failure : Option Failure
deriving DecidableEq

namespace Progress

variable {α κ γ : Type}

def none : Progress α κ γ := ⟨[], [], .none, .none⟩

instance : Inhabited (Progress α κ γ) := ⟨none⟩

def attach (progress : Progress α κ γ) (item : α) (aggregate : Option γ) : Progress α κ γ :=
  { progress with
    attached := progress.attached ++ [item]
    aggregate := aggregate <|> progress.aggregate }

def detach (progress : Progress α κ γ) (k : κ) (aggregate : Option γ) : Progress α κ γ :=
  { progress with
    detached := progress.detached ++ [k]
    aggregate := aggregate <|> progress.aggregate }

def fail (progress : Progress α κ γ) (failure : Failure) : Progress α κ γ :=
  { progress with failure := some failure }

def changed (progress : Progress α κ γ) : Bool :=
  !progress.attached.isEmpty || !progress.detached.isEmpty

def mergeInto [DecidableEq κ] (progress : Progress α κ γ) (key : α → κ) (observed : List α) :
    List α :=
  (observed.filter fun item => key item ∉ progress.detached) ++ progress.attached

end Progress

namespace Collection

variable {Call : Type} {Reply : Call → Type} {α κ γ : Type}

def attachAll (collection : Collection Call Reply α κ γ) :
    List α → Progress α κ γ → Program Call Reply (Progress α κ γ)
  | [], progress => pure progress
  | item :: rest, progress => do
    match ← (collection.attach item).outcome with
    | .ok aggregate => attachAll collection rest (progress.attach item aggregate)
    | .error failure => pure (progress.fail failure)

def detachAll (collection : Collection Call Reply α κ γ) :
    List κ → Progress α κ γ → Program Call Reply (Progress α κ γ)
  | [], progress => pure progress
  | k :: rest, progress => do
    match ← (collection.detach k).outcome with
    | .ok aggregate => detachAll collection rest (progress.detach k aggregate)
    | .error failure => pure (progress.fail failure)

/-- Attaches and then detaches what the keyed difference asks for, up to the first failure. -/
def sync [DecidableEq κ] (collection : Collection Call Reply α κ γ) (desired observed : List α) :
    Program Call Reply (Progress α κ γ) := do
  let plan := diff collection.key desired observed
  let progress ← collection.attachAll plan.added .none
  match progress.failure with
  | some _ => pure progress
  | none => collection.detachAll plan.removed progress

end Collection

end Converge
