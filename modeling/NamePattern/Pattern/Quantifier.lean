import NamePattern.Pattern.Error
import NamePattern.Text.Decimal

/-! Quantifiers: how often a part of a pattern is repeated. -/
namespace NamePattern

/-- Least and greatest number of repetitions. -/
structure Bounds where
  min : Nat
  max : Nat
  min_le_max : min ≤ max
deriving DecidableEq

namespace Bounds

/-- The greatest number of repetitions where a quantifier names none. -/
def unbounded : Nat := Text.maxNumber

/-- One bound of a quantifier. -/
def readBound (pattern quantifier digits : List Char) : Except CompileError Nat :=
  if !Text.isNumeral digits then .error (.quantifier pattern quantifier)
  else if Text.maxNumber < Text.numeralValue digits then .error (.overflow pattern digits)
  else .ok (Text.numeralValue digits)

/-- What stands between the braces of a quantifier. -/
def body? : List Char → Option (List Char)
  | '{' :: s => if s.getLast? = some '}' then some s.dropLast else none
  | _ => none

/-- Least and greatest number as they are written: nothing, `?`, `+`, `*`, or `n`, `n,`, `,m` or
`n,m` in braces. -/
def readPair (pattern : List Char) (q : List Char) : Except CompileError (Nat × Nat) :=
  match q with
  | [] => .ok (1, 1)
  | ['?'] => .ok (0, 1)
  | ['+'] => .ok (1, unbounded)
  | ['*'] => .ok (0, unbounded)
  | _ =>
    match body? q with
    | none => .error (.quantifier pattern q)
    | some body =>
      match body.takeWhile (· != ','), body.dropWhile (· != ',') with
      | n, [] => do
        let n ← readBound pattern q n
        return (n, n)
      | [], _ :: m => do
        let m ← readBound pattern q m
        return (0, m)
      | n, [_] => do
        let n ← readBound pattern q n
        return (n, unbounded)
      | n, _ :: m => do
        let n ← readBound pattern q n
        let m ← readBound pattern q m
        return (n, m)

/-- Reads a quantifier. `pattern` is the whole repeated part, for messages. -/
def read (pattern q : List Char) : Except CompileError Bounds := do
  let (min, max) ← readPair pattern q
  if h : min ≤ max then return ⟨min, max, h⟩ else throw (.bounds pattern min max)

end Bounds

end NamePattern
