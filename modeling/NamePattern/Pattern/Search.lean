import NamePattern.Pattern.Repetition

/-! Matching a compiled pattern with a run of components of a name. -/
namespace NamePattern

/-- Matches one component. Success fills the slots of the groups of the leaf. -/
def Answers.run (leaf : Answers) (offset length : Nat) : Attempt := fun slots =>
  if length ≠ 1 then (false, slots)
  else
    match leaf.get offset with
    | none => (false, slots)
    | some values => (true, values.foldl (fun slots (id, c) => slots.set id (.value c)) slots)

namespace Matcher

mutual

/-- Matches the `length` components from `offset` on of the name that the leaves answer to. The run
must lie within the name. -/
def run : Matcher Answers → Nat → Nat → Attempt
  | component _ leaf, offset, length => leaf.run offset length
  | set _ members inclusion, offset, length => fun slots =>
    if length ≠ 1 then (false, slots)
    else
      let (found, slots) := Attempt.any (fun leaf => leaf.run offset length) members slots
      (found == inclusion, slots)
  | group id inner, offset, length => fun slots =>
    match run inner offset length (slots.clear id) with
    | (true, slots) => (true, slots.set id (.span offset length))
    | (false, slots) => (false, slots)
  | repeated _ inner bounds, offset, length =>
    Repetition.run (run inner) bounds inner.isSet offset length
  | list _ items, offset, length => runItems items offset length

/-- Matches items one behind the other. Each takes as many components as it can while the items
behind it still match. -/
def runItems : List (Matcher Answers) → Nat → Nat → Attempt
  | [], _, length => fun slots => (length == 0, slots)
  | item :: items, offset, length =>
    Attempt.longestFirst
      (fun taken => (run item offset taken).andThen
        (runItems items (offset + taken) (length - taken)))
      length

end

end Matcher

end NamePattern
