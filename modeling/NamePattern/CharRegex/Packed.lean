import NamePattern.CharRegex.CharSet

/-! Tables of characters in a compact form. Numbers are written in base 31 with the low digits
first. The last digit of a number is one of `0-9 A-U`, and the digits before it are `V-Z a-z`. -/
namespace NamePattern.CharRegex.Packed

/-- The value of a digit, and whether the number goes on behind it. -/
def digit (c : Char) : Nat × Bool :=
  let n := c.toNat
  if n < 65 then (n - 48, false)
  else if n < 86 then (n - 55, false)
  else if n < 97 then (n - 86, true)
  else (n - 92, true)

/-- The numbers of a text. `low` is the value of the digits read of the first one, and `weight` the
weight of its next digit. -/
def numbersFrom (low weight : Nat) : List Char → List Nat
  | [] => []
  | c :: s =>
    match digit c with
    | (d, true) => numbersFrom (low + d * weight) (weight * 31) s
    | (d, false) => (low + d * weight) :: numbersFrom 0 1 s

def numbers (rows : List String) : List Nat := numbersFrom 0 1 (rows.flatMap String.toList)

/-- The runs behind a code point. Of two numbers, the first says how many code points lie before
a run, and the second how many follow its first one. -/
def runsFrom (next : Nat) : List Nat → List (Nat × Nat)
  | skipped :: more :: rest =>
    (next + skipped, next + skipped + more) :: runsFrom (next + skipped + more + 1) rest
  | _ => []

def set (rows : List String) : CharSet := ⟨runsFrom 0 (numbers rows)⟩

/-- Lists of ascending code points. Each begins with its distance to the first of the list before
it, goes on with the distances between its members, and ends with zero. `first` is the first code
point of the current list, and `last` its latest, if it has any yet. -/
def listsFrom (first : Nat) (last : Option Nat) (list : List Nat) : List Nat → List (List Nat)
  | [] => []
  | n :: ns =>
    match last with
    | none => listsFrom (first + n) (some (first + n)) [first + n] ns
    | some last =>
      if n = 0 then list.reverse :: listsFrom first none [] ns
      else listsFrom first (some (last + n)) ((last + n) :: list) ns

def lists (rows : List String) : List (List Nat) := listsFrom 0 none [] (numbers rows)

end NamePattern.CharRegex.Packed

namespace NamePattern.CharRegex

/-- A property of characters under all its names. Names are written without case, blanks, hyphens
and underscores, which do not count in a query. -/
structure Property where
  names : List String
  rows : List String

/-- The characters that have a property. -/
def Property.set (p : Property) : CharSet := Packed.set p.rows

end NamePattern.CharRegex
