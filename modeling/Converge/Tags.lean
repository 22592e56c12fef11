import Converge.Diff
import Converge.NameMap

/-! Tag sets and their difference. Tags are told apart by key and value together, so a tag with a
new value is an addition; as adding overwrites, its key is not removed as well. -/
namespace Converge

structure Tag where
  key : String
  value : String
deriving DecidableEq, Inhabited

abbrev Tags := NameMap String

namespace Tags

def ofTags (tags : List Tag) : Tags :=
  NameMap.ofList (tags.map fun tag => (tag.key, tag.value))

def toTags (tags : Tags) : List Tag :=
  tags.entries.map fun entry => ⟨entry.1, entry.2⟩

def add (tags : Tags) (added : List Tag) : Tags :=
  tags.insertAll (added.map fun tag => (tag.key, tag.value))

def remove (tags : Tags) (keys : List String) : Tags := tags.eraseAll keys

@[simp]
theorem mem_toTags (tags : Tags) (tag : Tag) :
    tag ∈ tags.toTags ↔ tags.get? tag.key = some tag.value := by
  rw [NameMap.get?_eq_some_iff, toTags, List.mem_map]
  constructor
  · rintro ⟨entry, member, rfl⟩
    exact member
  · intro member
    exact ⟨_, member, rfl⟩

end Tags

structure TagDiff where
  added : List Tag
  removed : List String
deriving DecidableEq, Inhabited

namespace TagDiff

def isEmpty (plan : TagDiff) : Bool := plan.added.isEmpty && plan.removed.isEmpty

def apply (plan : TagDiff) (tags : Tags) : Tags := (tags.add plan.added).remove plan.removed

end TagDiff

def tagDiff (desired observed : Tags) : TagDiff :=
  let plan := diff (fun tag : Tag => (tag.key, tag.value)) desired.toTags observed.toTags
  { added := plan.added
    removed := (plan.removed.map Prod.fst).filter fun key => key ∉ plan.added.map Tag.key }

end Converge
