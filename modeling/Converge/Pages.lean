import Converge.Program

/-! Listings that come page by page. Each page names the token of the next one; the first page has
none, and neither does the page after the last. -/
namespace Converge

structure Page (α : Type) where
  items : List α
  nextToken : Option String
deriving DecidableEq

abbrev PageSource (Call : Type) (Reply : Call → Type) (α : Type) : Type :=
  Option String → Attempt Call Reply (Page α)

structure Walk where
  token : Option String
  finished : Bool
deriving DecidableEq

namespace Walk

variable {Call : Type} {Reply : Call → Type} {α : Type}

def start : Walk := ⟨none, false⟩

instance : Inhabited Walk := ⟨start⟩

/-- An empty token ends the listing like a missing one. -/
def after (page : Page α) : Walk :=
  match page.nextToken.filter fun token => !token.isEmpty with
  | some token => ⟨some token, false⟩
  | none => ⟨none, true⟩

/-- The next page, or nothing at the end. A failed fetch does not move the walk. -/
def next (source : PageSource Call Reply α) (walk : Walk) :
    Program Call Reply (Option (Except Failure (List α)) × Walk) :=
  if walk.finished then pure (none, walk)
  else do
    match ← (source walk.token).outcome with
    | .ok page => pure (some (.ok page.items), after page)
    | .error failure => pure (some (.error failure), walk)

def restart (walk : Walk) : Walk := { walk with token := none, finished := false }

/-- The items of at most as many pages as allowed, after those already read. -/
def collectFrom (source : PageSource Call Reply α) :
    Nat → Walk → List α → Attempt Call Reply (List α)
  | 0, _, found => pure found
  | allowed + 1, walk, found => ExceptT.mk do
    match ← next source walk with
    | (none, _) => pure (.ok found)
    | (some (.error failure), _) => pure (.error failure)
    | (some (.ok items), walk) => (collectFrom source allowed walk (found ++ items)).outcome

/-- A token is an offset of at most 64 bits, so no listing has more pages than this. -/
def pageLimit : Nat := Nat.pow 2 64

/-- All that is left of the listing. The first failure ends the walk. -/
def collect (source : PageSource Call Reply α) (walk : Walk) : Attempt Call Reply (List α) :=
  collectFrom source pageLimit walk []

@[simp]
theorem next_of_finished (source : PageSource Call Reply α) (walk : Walk)
    (finished : walk.finished = true) : next source walk = pure (none, walk) := by
  simp [next, finished]

end Walk

end Converge
