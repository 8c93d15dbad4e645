import NamePattern.Name
import NamePattern.Text.Quoted

/-! Relations between two names, as trust rules use them. -/
namespace NamePattern

inductive Name.Relation where
  /-- Both names are the same. -/
  | equal
  /-- The second name continues the first or is the same. -/
  | isPrefixOf
  /-- The second name continues the first and is longer. -/
  | isStrictPrefixOf
deriving DecidableEq

namespace Name.Relation

/-- Whether the first name stands in the relation to the second. -/
def check : Relation → Name → Name → Bool
  | equal, m, n => m == n
  | isPrefixOf, m, n => m.isPrefixOf n
  | isStrictPrefixOf, m, n => decide (m.length < n.length) && m.isPrefixOf n

/-- How a relation is written. -/
def spelling : Relation → String
  | equal => "equal"
  | isPrefixOf => "is-prefix-of"
  | isStrictPrefixOf => "is-strict-prefix-of"

/-- A text that spells no relation. -/
structure Unknown where
  input : List Char
deriving DecidableEq

def Unknown.message (e : Unknown) : String :=
  "unsupported name relation " ++ Text.quoted e.input

/-- Reads a relation by its spelling, in either case. -/
def read (s : List Char) : Except Unknown Relation :=
  match [equal, isPrefixOf, isStrictPrefixOf].find?
      fun r => r.spelling.toList == s.map Char.toLower with
  | some r => .ok r
  | none => .error ⟨s⟩

end Name.Relation

end NamePattern
