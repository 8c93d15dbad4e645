import NamePattern.Name
import NamePattern.Pattern.Matcher

/-! What the groups of a pattern have captured during a match. -/
namespace NamePattern

/-- What a capturing node recorded last. -/
inductive Capture where
  /-- A group: `length` components of the name from `offset` on. -/
  | span (offset length : Nat)
  /-- A group of a component regex: one component made of the text it matched. -/
  | value (c : Component)
deriving DecidableEq

/-- One slot for each node of an arena. A slot changes only when its own node is matched: going
back on a choice restores nothing. -/
structure Slots where
  captures : Array (Option Capture)
deriving DecidableEq

namespace Slots

def empty (size : Nat) : Slots := ⟨Array.replicate size none⟩

def set (s : Slots) (id : NodeId) (c : Capture) : Slots :=
  ⟨s.captures.setIfInBounds id (some c)⟩

def clear (s : Slots) (id : NodeId) : Slots := ⟨s.captures.setIfInBounds id none⟩

def get? (s : Slots) (id : NodeId) : Option Capture := s.captures[id]?.join

/-- The components that a node has captured; none if its last call failed or never happened. -/
def resolve (s : Slots) (name : Name) (id : NodeId) : List Component :=
  match s.get? id with
  | some (.span offset length) => (name.subName offset length).components
  | some (.value c) => [c]
  | none => []

end Slots

/-- Something that may succeed, and that writes slots either way. -/
abbrev Attempt := Slots → Bool × Slots

namespace Attempt

@[inline] def fail : Attempt := fun s => (false, s)

@[inline] def succeed : Attempt := fun s => (true, s)

/-- Makes the second attempt only if the first succeeds. -/
@[inline] def andThen (first second : Attempt) : Attempt := fun s =>
  match first s with
  | (true, s) => second s
  | (false, s) => (false, s)

/-- Makes the second attempt only if the first fails. -/
@[inline] def orElse (first second : Attempt) : Attempt := fun s =>
  match first s with
  | (true, s) => (true, s)
  | (false, s) => second s

/-- Tries the numbers from `n` down to zero. -/
@[specialize] def longestFirst (attempt : Nat → Attempt) : Nat → Attempt
  | 0 => attempt 0
  | n + 1 => (attempt (n + 1)).orElse (longestFirst attempt n)

/-- Tries the members of a list in order. -/
@[specialize] def any {α : Type} (attempt : α → Attempt) : List α → Attempt
  | [] => fail
  | a :: as => (attempt a).orElse (any attempt as)

end Attempt

end NamePattern
