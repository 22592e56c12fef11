import Converge.Timestamp

/-! Tokens that make a create request safe to repeat. All passes of one resource carry the same
token, since it is made of the name and of the time at which the resource was declared. -/
namespace Converge

structure Token where
  text : String
deriving DecidableEq, Inhabited

namespace Token

def stamp (name : String) (instant : Timestamp) : Token := ⟨s!"{name}-{instant.millis}"⟩

/-- A resource without a time of declaration is stamped with the present. -/
def forResource (name : String) (createdAt : Option Timestamp) (now : Timestamp) : Token :=
  stamp name (createdAt.getD now)

@[simp]
theorem forResource_some (name : String) (instant now : Timestamp) :
    forResource name (some instant) now = stamp name instant := rfl

end Token

end Converge
