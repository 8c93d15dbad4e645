import NamePattern.Pattern.Error
import NamePattern.Pattern.Matcher
import NamePattern.Text.Decimal

/-! The groups of a pattern by their numbers. -/
namespace NamePattern

/-- The nodes that capture, in the order in which they were registered. -/
structure Registry where
  refs : List NodeId
deriving DecidableEq

namespace Registry

def empty : Registry := ⟨[]⟩

def size (r : Registry) : Nat := r.refs.length

def push (r : Registry) (id : NodeId) : Registry := ⟨r.refs ++ [id]⟩

/-- The node registered last, and the registry without it. -/
def pop? (r : Registry) : Option (NodeId × Registry) :=
  r.refs.getLast?.map fun id => (id, ⟨r.refs.dropLast⟩)

/-- The first `n` entries. -/
def take (r : Registry) (n : Nat) : Registry := ⟨r.refs.take n⟩

/-- The node registered as number `i`, counted from zero. Messages count groups from one. -/
def get (r : Registry) (i : Nat) : Except ExpandError NodeId :=
  match r.refs[i]? with
  | some id => .ok id
  | none => .error (.backrefOutOfRange (min (i + 1) Text.maxNumber) r.size)

end Registry

end NamePattern
