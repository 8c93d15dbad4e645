import NamePattern.Name

/-! Results of matches. -/
namespace NamePattern

/-- What a match has captured. Groups are numbered from one, in the order of the pattern that
matched. -/
structure Captures where
  /-- The matched components. -/
  result : List Component
  groups : List (List Component)
  /-- Whether the match began behind the first component. -/
  secondary : Bool
deriving DecidableEq

namespace Captures

/-- No match, with a number of empty groups. -/
def unmatched (groups : Nat) : Captures := ⟨[], List.replicate groups [], false⟩

/-- Group zero is the whole match. -/
def get? (c : Captures) : Nat → Option (List Component)
  | 0 => some c.result
  | i + 1 => c.groups[i]?

/-- The number of groups, with the whole match as one. -/
def size (c : Captures) : Nat := c.groups.length + 1

end Captures

end NamePattern
