/-! Sets of characters, as runs of code points. -/
namespace NamePattern.CharRegex

/-- The greatest code point. -/
def maxCodePoint : Nat := 0x10ffff

/-- A set of characters. The runs, each given by its first and last code point, are in ascending
order and do not touch each other. Code points that are no characters do not count. -/
structure CharSet where
  runs : List (Nat × Nat)
deriving DecidableEq, Inhabited

namespace CharSet

/-- Joins a run with those behind it that overlap or touch it. The runs are ordered by their first
code points. -/
def join (lo hi : Nat) : List (Nat × Nat) → List (Nat × Nat)
  | [] => [(lo, hi)]
  | (lo', hi') :: runs =>
    if lo' ≤ hi + 1 then join lo (max hi hi') runs else (lo, hi) :: join lo' hi' runs

/-- The set of all characters in some runs. -/
def ofRuns (runs : List (Nat × Nat)) : CharSet :=
  match runs.mergeSort fun a b => a.1 ≤ b.1 with
  | [] => ⟨[]⟩
  | (lo, hi) :: runs => ⟨join lo hi runs⟩

def empty : CharSet := ⟨[]⟩

/-- All characters from one to another. -/
def range (first last : Char) : CharSet := ⟨[(first.toNat, last.toNat)]⟩

def single (c : Char) : CharSet := range c c

def contains (s : CharSet) (c : Char) : Bool :=
  s.runs.any fun (lo, hi) => lo ≤ c.toNat && c.toNat ≤ hi

def union (s t : CharSet) : CharSet := ofRuns (s.runs ++ t.runs)

/-- The runs of what lies outside some runs, from a code point on. -/
def gaps (start : Nat) : List (Nat × Nat) → List (Nat × Nat)
  | [] => if start ≤ maxCodePoint then [(start, maxCodePoint)] else []
  | (lo, hi) :: runs =>
    if start < lo then (start, lo - 1) :: gaps (hi + 1) runs else gaps (hi + 1) runs

def complement (s : CharSet) : CharSet := ⟨gaps 0 s.runs⟩

def intersection (s t : CharSet) : CharSet := (s.complement.union t.complement).complement

def difference (s t : CharSet) : CharSet := s.intersection t.complement

def symmetricDifference (s t : CharSet) : CharSet := (s.union t).difference (s.intersection t)

/-- The part of a set that lies in ASCII. -/
def ascii (s : CharSet) : CharSet :=
  ⟨s.runs.filterMap fun (lo, hi) => if lo < 128 then some (lo, min hi 127) else none⟩

/-- Whether all characters of a set lie in ASCII. -/
def isAscii (s : CharSet) : Bool := s.runs.all fun (_, hi) => hi < 128

/-- The only character of a set. -/
def single? (s : CharSet) : Option Char :=
  match s.runs with
  | [(lo, hi)] => if lo = hi then some (Char.ofNat lo) else none
  | _ => none

end CharSet

end NamePattern.CharRegex
