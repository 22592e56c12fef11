import Converge.Delta
import Converge.Program
import Converge.Token

/-! What has to be said about a kind of resource before resources of that kind can be kept as they
are desired: how to observe one, create it, compare it, change it and delete it. A pass is written
in terms of these steps alone; a manager says what each step means in calls to the provider. -/
namespace Converge

structure Changes where
  created : Bool
  tags : Bool
  collections : Bool
  primary : Bool
deriving DecidableEq, Inhabited

namespace Changes

def none : Changes := ⟨false, false, false, false⟩

def any (changes : Changes) : Bool :=
  changes.created || changes.tags || changes.collections || changes.primary

end Changes

/-- What came of a step that may have done part of its work before it failed. -/
structure Applied (O : Type) where
  observed : O
  changed : Bool
  failure : Option Failure
deriving DecidableEq

namespace Applied

def unchanged {O : Type} (observed : O) : Applied O := ⟨observed, false, .none⟩

end Applied

/-- What a pass asks about a resource of which it sees only snapshots. -/
inductive Step (O : Type) where
  | observe (last : Option O)
  | create (token : Token)
  | afterCreate (created : O)
  | checkImmutable (observed : O)
  | delta (observed : O)
  | syncTags (observed : O)
  | syncCollections (observed : O) (delta : Delta)
  | update (observed : O) (delta : Delta)
  | delete (observed : O)
  /-- Do these changes have to be read back before the resource counts as synced? -/
  | needsRefresh (changes : Changes)
  | settled (observed : O)

namespace Step

@[reducible]
def Reply {O : Type} : Step O → Type
  | observe _ => Except Failure (Option O)
  | create _ => Except Failure O
  | afterCreate _ => Applied O
  | checkImmutable _ => Except Failure Unit
  | delta _ => Delta
  | syncTags _ => Except Failure O
  | syncCollections _ _ => Applied O
  | update _ _ => Except Failure O
  | delete _ => Except Failure Unit
  | needsRefresh _ => Bool
  | settled _ => Bool

end Step

structure Manager (Call : Type) (Reply : Call → Type) (Desired Observed : Type) where
  kind : String
  name : Desired → String
  createdAt : Desired → Option Timestamp := fun _ => none
  terminalCodes : List String := []
  collectionPaths : List String := []
  /-- Nothing is returned for a resource that does not exist yet. -/
  observe : Desired → Option Observed → Attempt Call Reply (Option Observed)
  create : Desired → Token → Attempt Call Reply Observed
  afterCreate : Desired → Observed → Program Call Reply (Applied Observed) :=
    fun _ created => pure (Applied.unchanged created)
  checkImmutable : Desired → Observed → Except Failure Unit := fun _ _ => .ok ()
  delta : Desired → Observed → Delta
  syncTags : Desired → Observed → Attempt Call Reply Observed
  syncCollections : Desired → Observed → Delta → Program Call Reply (Applied Observed) :=
    fun _ observed _ => pure (Applied.unchanged observed)
  update : Desired → Observed → Delta → Attempt Call Reply Observed
  delete : Observed → Attempt Call Reply Unit
  needsRefresh : Changes → Bool := fun _ => false
  settled : Observed → Bool := fun _ => true

namespace Manager

variable {Call : Type} {Reply : Call → Type} {Desired Observed : Type}

def perform (manager : Manager Call Reply Desired Observed) (desired : Desired) :
    (step : Step Observed) → Program Call Reply step.Reply
  | .observe last => (manager.observe desired last).outcome
  | .create token => (manager.create desired token).outcome
  | .afterCreate created => manager.afterCreate desired created
  | .checkImmutable observed => pure (manager.checkImmutable desired observed)
  | .delta observed => pure (manager.delta desired observed)
  | .syncTags observed => (manager.syncTags desired observed).outcome
  | .syncCollections observed delta => manager.syncCollections desired observed delta
  | .update observed delta => (manager.update desired observed delta).outcome
  | .delete observed => (manager.delete observed).outcome
  | .needsRefresh changes => pure (manager.needsRefresh changes)
  | .settled observed => pure (manager.settled observed)

/-- The token that every attempt to create the resource carries. -/
def token (manager : Manager Call Reply Desired Observed) (desired : Desired) (now : Timestamp) :
    Token :=
  Token.forResource (manager.name desired) (manager.createdAt desired) now

end Manager

end Converge
