import NamePattern.Component

/-! Hierarchical names and their parts. -/
namespace NamePattern

/-- A sequence of components. -/
structure Name where
  components : List Component
deriving DecidableEq, Inhabited

namespace Name

def empty : Name := ⟨[]⟩

def length (n : Name) : Nat := n.components.length

def isEmpty (n : Name) : Bool := n.components.isEmpty

def get? (n : Name) (i : Nat) : Option Component := n.components[i]?

/-- The name followed by one more component. -/
def push (n : Name) (c : Component) : Name := ⟨n.components ++ [c]⟩

/-- The components of one name followed by those of another. -/
def append (m n : Name) : Name := ⟨m.components ++ n.components⟩

instance : Append Name := ⟨append⟩

def reverse (n : Name) : Name := ⟨n.components.reverse⟩

/-- The components from position `start` on, at most `count` of them. -/
def subName (n : Name) (start count : Nat) : Name := ⟨(n.components.drop start).take count⟩

/-- The first `count` components, or the whole name if it has fewer. -/
def take (n : Name) (count : Nat) : Name := n.subName 0 count

/-- The components from position `start` up to but not including `stop`, if the name has them. -/
def slice? (n : Name) (start stop : Nat) : Option Name :=
  if start ≤ stop ∧ stop ≤ n.length then some (n.subName start (stop - start)) else none

/-- Whether the second name continues the first. -/
def isPrefixOf (m n : Name) : Bool := m.components.isPrefixOf n.components

/-- Names are ordered component by component, and a proper beginning comes before what it
begins. -/
instance : Ord Name := ⟨fun m n => compare m.components n.components⟩

/-- The components of a name from the least to the greatest. -/
def sorted (n : Name) : List Component := n.components.mergeSort fun a b => (compare a b).isLE

end Name

end NamePattern
