import Converge.Program
import Converge.Tags

/-! Bringing the tags of a resource to the desired ones, with at most one call that adds and one
that removes. -/
namespace Converge

structure TagAccess (Call : Type) (Reply : Call → Type) where
  list : String → Attempt Call Reply (List Tag)
  tag : String → List Tag → Attempt Call Reply Unit
  untag : String → List String → Attempt Call Reply Unit

namespace TagAccess

variable {Call : Type} {Reply : Call → Type}

def fetch (access : TagAccess Call Reply) (arn : String) : Attempt Call Reply Tags := do
  let tags ← access.list arn
  pure (Tags.ofTags tags)

/-- Adds first. A call that would change nothing is not made, and none is made after a failure. -/
def sync (access : TagAccess Call Reply) (arn : String) (desired observed : Tags) :
    Attempt Call Reply TagDiff := do
  let plan := tagDiff desired observed
  if !plan.added.isEmpty then access.tag arn plan.added
  if !plan.removed.isEmpty then access.untag arn plan.removed
  pure plan

end TagAccess

end Converge
