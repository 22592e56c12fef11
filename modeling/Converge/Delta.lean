/-! Which fields of a record differ between what is desired and what is observed.
A field is named by a dotted path; a question about a path is also about everything below it. -/
namespace Converge

def segments : List Char → List (List Char)
  | [] => [[]]
  | c :: rest =>
    if c = '.' then [] :: segments rest
    else match segments rest with
      | [] => [[c]]
      | part :: parts => (c :: part) :: parts

/-- After the first path the second one ends or goes on with a dot. -/
def coversText : List Char → List Char → Bool
  | [], [] => true
  | [], c :: _ => c = '.'
  | _ :: _, [] => false
  | p :: path, c :: rest => p = c && coversText path rest

def covers (path below : String) : Bool := coversText path.toList below.toList

@[simp]
theorem segments_ne_nil (text : List Char) : segments text ≠ [] := by
  cases text with
  | nil => simp [segments]
  | cons c rest =>
    unfold segments
    split
    · simp
    · split <;> simp

@[simp]
theorem covers_self (path : String) : covers path path = true := by
  unfold covers
  induction path.toList with
  | nil => rfl
  | cons c rest ih => simp [coversText, ih]

structure Delta where
  paths : List String
  distinct : paths.Nodup
deriving DecidableEq

namespace Delta

variable {α κ : Type}

def empty : Delta := ⟨[], List.nodup_nil⟩

instance : Inhabited Delta := ⟨empty⟩

def isEmpty (delta : Delta) : Bool := delta.paths.isEmpty

def record (delta : Delta) (path : String) (differs : Bool) : Delta :=
  if fresh : differs = true ∧ path ∉ delta.paths then
    ⟨delta.paths ++ [path], by
      refine List.nodup_append.2 ⟨delta.distinct, by simp, fun a member b last => ?_⟩
      rintro rfl
      exact fresh.2 (List.mem_singleton.1 last ▸ member)⟩
  else delta

def ofPaths (paths : List String) : Delta :=
  paths.foldl (fun delta path => delta.record path true) empty

def compare [DecidableEq α] (delta : Delta) (path : String) (desired observed : α) : Delta :=
  delta.record path (desired ≠ observed)

/-- A field that is left open cannot differ. -/
def compareIfSet [DecidableEq α] (delta : Delta) (path : String)
    (desired observed : Option α) : Delta :=
  delta.record path (desired.isSome && desired ≠ observed)

def compareUnordered [DecidableEq α] (delta : Delta) (path : String)
    (desired observed : List α) : Delta :=
  delta.record path
    !(desired.all (fun item => item ∈ observed) && observed.all fun item => item ∈ desired)

/-- Only the natural keys count, and neither their order nor how often they occur. -/
def compareKeys [DecidableEq κ] (delta : Delta) (path : String) (key : α → κ)
    (desired observed : List α) : Delta :=
  delta.compareUnordered path (desired.map key) (observed.map key)

def differentAt (delta : Delta) (path : String) : Bool :=
  delta.paths.any fun found => covers path found

/-- Something differs that lies at or below none of the paths. -/
def differentExcept (delta : Delta) (paths : List String) : Bool :=
  delta.paths.any fun found => !paths.any fun path => covers path found

@[simp]
theorem mem_paths_record (delta : Delta) (path other : String) (differs : Bool) :
    other ∈ (delta.record path differs).paths ↔
      other ∈ delta.paths ∨ (differs = true ∧ other = path) := by
  unfold record
  split
  · next fresh => simp [fresh.1]
  · next stale =>
    constructor
    · exact .inl
    · rintro (member | ⟨yes, rfl⟩)
      · exact member
      · exact Classical.byContradiction fun absent => stale ⟨yes, absent⟩

end Delta

end Converge
