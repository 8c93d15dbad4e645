import NamePattern.CharRegex
import NamePattern.Component.Escaped
import NamePattern.Name
import NamePattern.Pattern.Memo
import NamePattern.Pattern.Quantifier

/-! Compiled patterns: trees whose nodes are numbered by the arena that holds them. -/
namespace NamePattern

/-- The number of a node in its arena. -/
abbrev NodeId := Nat

/-- A node that matches one component. -/
structure Leaf where
  id : NodeId
  /-- Nothing if every component matches. -/
  regex : Option CharRegex
  /-- The nodes that stand for the groups of the regex, in their order. -/
  groups : List NodeId

/-- A compiled pattern, given what its leaves are. -/
inductive Matcher (α : Type) where
  | component (id : NodeId) (leaf : α)
  /-- One component that some member matches, or, without `inclusion`, that none does. -/
  | set (id : NodeId) (members : List α) (inclusion : Bool)
  | group (id : NodeId) (inner : Matcher α)
  | repeated (id : NodeId) (inner : Matcher α) (bounds : Bounds)
  | list (id : NodeId) (items : List (Matcher α))

namespace Matcher

def id {α : Type} : Matcher α → NodeId
  | component id _ | set id _ _ | group id _ | repeated id _ _ | list id _ => id

/-- Sets match exactly one component. -/
def isSet {α : Type} : Matcher α → Bool
  | set _ _ _ => true
  | _ => false

mutual

/-- The pattern with its leaves replaced. -/
def map {α β : Type} (f : α → β) : Matcher α → Matcher β
  | component id leaf => .component id (f leaf)
  | set id members inclusion => .set id (members.map f) inclusion
  | group id inner => .group id (inner.map f)
  | repeated id inner bounds => .repeated id (inner.map f) bounds
  | list id items => .list id (mapItems f items)

def mapItems {α β : Type} (f : α → β) : List (Matcher α) → List (Matcher β)
  | [] => []
  | item :: items => item.map f :: mapItems f items

end

end Matcher

/-- Matches one component, in its escaped form: nothing if that fails, and what the groups of the
leaf capture otherwise. A group that took no part captures the empty component. -/
def Leaf.answer (leaf : Leaf) (c : Component) : Option (List (NodeId × Component)) :=
  match leaf.regex with
  | none => some []
  | some regex =>
    (regex.captures c.escaped).map fun texts =>
      (leaf.groups.zip texts).map fun (id, text) => (id, .ofText (text.getD []))

/-- What a leaf makes of the components of a name. No answer is worked out twice. -/
structure Answers where
  memo : Memo (Option (List (NodeId × Component)))

namespace Answers

/-- The answer to the component at a position. -/
def get (a : Answers) (i : Nat) : Option (List (NodeId × Component)) := (a.memo.get? i).join

/-- The answers of a leaf to some components. -/
def ofLeaf (components : Array Component) (leaf : Leaf) : Answers :=
  ⟨.ofFn components.size fun i => components[i]?.bind leaf.answer⟩

theorem get_ofLeaf (components : Array Component) (leaf : Leaf) (i : Nat) :
    (ofLeaf components leaf).get i = components[i]?.bind leaf.answer := by
  unfold get ofLeaf
  rcases Memo.get?_ofFn_or components.size i fun i => components[i]?.bind leaf.answer with h | h
  · simp [h]
  · by_cases hi : i < components.size
    · simp [Memo.get?_ofFn _ hi] at h
    · simp [h, hi]

end Answers

end NamePattern
