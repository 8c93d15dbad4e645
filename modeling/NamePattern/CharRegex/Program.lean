import NamePattern.CharRegex.Expr

/-! Regexes over characters as programs of a machine that tries instructions in order of
preference. -/
namespace NamePattern.CharRegex

/-- Instructions go on with the next one unless they say otherwise. -/
inductive Instruction where
  /-- Consumes one character of a set. -/
  | chars (s : CharSet)
  /-- Goes on only at certain places. -/
  | look (l : Look)
  /-- Notes the place under a number: `2 * i` for the start of group `i`, `2 * i + 1` for its
  end. -/
  | save (slot : Nat)
  /-- Goes on at two instructions and prefers the first. -/
  | split (first second : Nat)
  | jump (target : Nat)
  | accept

/-- Goes on at `inside` or at `outside`. Greedy expressions prefer to stay inside. -/
def Instruction.branch (greedy : Bool) (inside outside : Nat) : Instruction :=
  if greedy then .split inside outside else .split outside inside

/-- Instructions by their numbers. The first is the start. -/
abbrev Program := Array Instruction

/-- Repeats a step a number of times. -/
def copies {α : Type} (step : α → α) : Nat → α → α
  | 0, a => a
  | n + 1, a => copies step n (step a)

namespace Expr

/-- How many instructions an expression takes. -/
def codeSize : Expr → Nat
  | .empty => 0
  | .literal text => text.length
  | .set _ => 1
  | .look _ => 1
  | .capture _ body => body.codeSize + 2
  | .repeated min max _ body =>
    match max with
    | none => if min = 0 then body.codeSize + 2 else min * body.codeSize + 1
    | some max => min * body.codeSize + (max - min) * (body.codeSize + 1)
  | .seq a b => a.codeSize + b.codeSize
  | .alt a b => a.codeSize + b.codeSize + 2

/-- Whether some part of an expression stands for no character at all. -/
def hasEmptySet : Expr → Bool
  | .set s => s.runs.isEmpty
  | .capture _ body => body.hasEmptySet
  | .repeated _ _ _ body => body.hasEmptySet
  | .seq a b => a.hasEmptySet || b.hasEmptySet
  | .alt a b => a.hasEmptySet || b.hasEmptySet
  | _ => false

/-- Whether no match of an expression is empty. -/
def neverEmpty : Expr → Bool
  | .empty => false
  | .literal _ => true
  | .set _ => true
  | .look _ => false
  | .capture _ body => body.neverEmpty
  | .repeated min _ _ body => min != 0 && body.neverEmpty
  | .seq a b => a.neverEmpty || b.neverEmpty
  | .alt a b => a.neverEmpty && b.neverEmpty

/-- Whether an expression is known to consume something. Nothing is known of one that contains an
empty set. -/
def consumes (e : Expr) : Bool := e.neverEmpty && !e.hasEmptySet

/-- Puts the instructions of an expression behind a program, up to `stop`, where they go on. A body
that is repeated any number of times and always consumes something returns to the choice before it.
One that may consume nothing is repeated once or more often, or left out: the choice behind it is
then another one than the choice before it, which keeps the order of preference. -/
def emit (stop : Nat) : Expr → Program → Program
  | .empty, p => p
  | .literal text, p => text.foldl (fun p c => p.push (.chars (.single c))) p
  | .set s, p => p.push (.chars s.ascii)
  | .look l, p => p.push (.look l)
  | .capture index body, p =>
    (body.emit (stop - 1) (p.push (.save (2 * index)))).push (.save (2 * index + 1))
  | .repeated min max greedy body, p =>
    let size := body.codeSize
    let once (p : Program) := body.emit (p.size + size) p
    match max with
    | none =>
      if min = 0 then
        let start := p.size
        let p := once (p.push (.branch greedy (start + 1) stop))
        p.push (if body.consumes then .jump start else .branch greedy (start + 1) stop)
      else
        let p := copies once (min - 1) p
        (once p).push (.branch greedy p.size stop)
    | some max =>
      let p := copies once min p
      copies (fun p => once (p.push (.branch greedy (p.size + 1) stop))) (max - min) p
  | .seq a b, p => b.emit stop (a.emit (p.size + a.codeSize) p)
  | .alt a b, p =>
    let middle := p.size + a.codeSize + 2
    let p := a.emit (middle - 1) (p.push (.split (p.size + 1) middle))
    b.emit stop (p.push (.jump stop))

end Expr

def Program.ofExpr (e : Expr) : Program := (e.emit e.codeSize #[]).push .accept

end NamePattern.CharRegex
