import NamePattern.CharRegex.Folding
import NamePattern.CharRegex.Tree

/-! Regexes over characters in terms of what they match: flags are resolved, classes are sets,
and parts that cannot matter are left out. -/
namespace NamePattern.CharRegex

/-- Conditions on a place, with the flags taken into account. -/
inductive Look where
  | textStart
  | textEnd
  | lineStart
  | lineEnd
  | crlfLineStart
  | crlfLineEnd
  | wordBoundary
  | notWordBoundary
  | wordStart
  | wordEnd
  | wordStartHalf
  | wordEndHalf
deriving DecidableEq

/-- A regex in normal form: sequences and alternatives are nested to the right, a sequence holds
no empty part and no two texts in a row, a set has not just one member, and earlier alternatives
are preferred. -/
inductive Expr where
  | empty
  /-- A text that is not empty. -/
  | literal (text : List Char)
  | set (s : CharSet)
  | look (l : Look)
  | capture (index : Nat) (body : Expr)
  | repeated (min : Nat) (max : Option Nat) (greedy : Bool) (body : Expr)
  | seq (first rest : Expr)
  | alt (first rest : Expr)
deriving DecidableEq

namespace Expr

/-- One character of a set. -/
def ofSet (s : CharSet) : Expr :=
  match s.single? with
  | some c => .literal [c]
  | none => .set s

/-- One expression after the other. -/
def append : Expr → Expr → Expr
  | .empty, e => e
  | .seq a b, e => .seq a (b.append e)
  | a, .empty => a
  | .literal s, .literal t => .literal (s ++ t)
  | .literal s, .seq (.literal t) e => .seq (.literal (s ++ t)) e
  | a, e => .seq a e

/-- The parts of a sequence. -/
def factors : Expr → List Expr
  | .empty => []
  | .seq a b => a :: b.factors
  | e => [e]

def ofFactors (es : List Expr) : Expr := es.foldr append .empty

/-- The alternatives of a choice. -/
def branches : Expr → List Expr
  | .alt a b => a :: b.branches
  | e => [e]

def ofBranches : List Expr → Expr
  | [] => .set .empty
  | [e] => e
  | e :: es => .alt e (ofBranches es)

/-- Whether an expression matches no character at all. -/
def isPlace : Expr → Bool
  | .empty => true
  | .literal _ => false
  | .set _ => false
  | .look _ => true
  | .capture _ body => body.isPlace
  | .repeated _ max _ body => max.isSome && body.isPlace
  | .seq a b => a.isPlace && b.isPlace
  | .alt a b => a.isPlace && b.isPlace

/-- A repetition. Repeating a mere place once is enough, no repetition is empty, and one
repetition is the body itself. -/
def ofRepetition (min : Nat) (max : Option Nat) (greedy : Bool) (body : Expr) : Expr :=
  let (min, max) :=
    if body.isPlace then (Nat.min min 1, some (Nat.min (max.getD 1) 1)) else (min, max)
  if min = 0 ∧ max = some 0 then .empty
  else if min = 1 ∧ max = some 1 then body
  else .repeated min max greedy body

/-- The longest beginning that two lists share. -/
def commonPrefix : List Expr → List Expr → List Expr
  | a :: as, b :: bs => if a = b then a :: commonPrefix as bs else []
  | _, _ => []

/-- The only character of a text. -/
def char? : Expr → Option Char
  | .literal [c] => some c
  | _ => none

def set? : Expr → Option CharSet
  | .set s => some s
  | _ => none

/-- The set that a choice amounts to whose alternatives are all characters, or all sets. -/
def unionSet? (es : List Expr) : Option CharSet :=
  match es.mapM char? with
  | some cs => some (.ofRuns (cs.map fun c => (c.toNat, c.toNat)))
  | none => (es.mapM set?).map fun sets => .ofRuns (sets.flatMap CharSet.runs)

/-- Sequences of two or more parts have a front to share. -/
def isSequence : Expr → Bool
  | .seq _ _ => true
  | _ => false

/-- The parts that all alternatives begin with, if all of them are sequences. -/
def sharedFront : List Expr → List Expr
  | [] => []
  | e :: es =>
    if (e :: es).all isSequence then
      es.foldl (fun front f => commonPrefix front f.factors) e.factors
    else []

/-- A choice. Choices among single characters or among sets become sets, and a front that all
alternatives share is matched once, before the choice. Fronts are shared at most `n` deep. -/
def ofAlternatives : Nat → List Expr → Expr
  | 0, es => ofBranches es
  | n + 1, es =>
    let es := es.flatMap branches
    match es with
    | [e] => e
    | _ =>
      match unionSet? es with
      | some s => ofSet s
      | none =>
        match sharedFront es with
        | [] => ofBranches es
        | front =>
          let rests := es.map fun e => ofFactors (e.factors.drop front.length)
          ofFactors (front ++ [ofAlternatives n rests])

/-- A bound on how deep the alternatives of an expression can share fronts. -/
def size : Expr → Nat
  | .capture _ body => body.size + 1
  | .repeated _ _ _ body => body.size + 1
  | .seq a b => a.size + b.size + 1
  | .alt a b => a.size + b.size + 1
  | _ => 1

def choice : List Expr → Expr
  | [e] => e
  | es => ofAlternatives (es.foldl (fun n e => n + e.size) 1) es

/-- The number of the last capturing group that is left. -/
def groupCount : Expr → Nat
  | .capture index body => max index body.groupCount
  | .repeated _ _ _ body => body.groupCount
  | .seq a b => max a.groupCount b.groupCount
  | .alt a b => max a.groupCount b.groupCount
  | _ => 0

end Expr

/-- The settings in force at some part of a regex. -/
structure Flags where
  ignoreCase : Bool
  multiLine : Bool
  dotAll : Bool
  swapGreed : Bool
  unicode : Bool
  crlf : Bool

/-- The settings with some of them changed. -/
def Flags.apply (f : Flags) (change : FlagChange) : Flags where
  ignoreCase := (change.get? .ignoreCase).getD f.ignoreCase
  multiLine := (change.get? .multiLine).getD f.multiLine
  dotAll := (change.get? .dotAll).getD f.dotAll
  swapGreed := (change.get? .swapGreed).getD f.swapGreed
  unicode := (change.get? .unicode).getD f.unicode
  crlf := (change.get? .crlf).getD f.crlf

def isAscii (c : Char) : Bool := c.toNat < 128

/-- A set up to case if the settings ask for it. Without Unicode only ASCII letters have a case. -/
def Flags.fold (f : Flags) (s : CharSet) : CharSet :=
  if f.ignoreCase then
    if f.unicode then s.folded else s.foldedAscii
  else s

/-- The complement of a set. Without Unicode a class is one of bytes, and the complement of an ASCII
class would match parts of characters, which is refused. -/
def Flags.negate? (f : Flags) (negated : Bool) (s : CharSet) : Option CharSet :=
  if negated then
    if f.unicode then some s.complement else none
  else some s

/-- The set of some runs of characters. -/
def runSet (runs : List (Char × Char)) : CharSet :=
  .ofRuns (runs.map fun (lo, hi) => (lo.toNat, hi.toNat))

/-- Digits, blanks and word characters, which all lie in ASCII without Unicode. -/
def Shorthand.set (unicode : Bool) : Shorthand → CharSet
  | .digit => if unicode then Property.union ["nd"] else runSet [('0', '9')]
  | .space => if unicode then Property.union ["whitespace"] else runSet [('\t', '\r'), (' ', ' ')]
  | .word =>
    if unicode then Property.union ["alphabetic", "m", "nd", "pc", "joincontrol"]
    else runSet [('0', '9'), ('A', 'Z'), ('_', '_'), ('a', 'z')]

def SetOperator.apply : SetOperator → CharSet → CharSet → CharSet
  | .intersection => CharSet.intersection
  | .difference => CharSet.difference
  | .symmetricDifference => CharSet.symmetricDifference

/-- The characters of a class. Without Unicode a class holds bytes, so it cannot name characters
outside ASCII or Unicode properties. -/
def ClassTree.set? (f : Flags) : ClassTree → Option CharSet
  | .empty => some .empty
  | .literal l => if f.unicode || isAscii l.char then some (.single l.char) else none
  | .range a b =>
    if f.unicode || (isAscii a.char && isAscii b.char) then some (.range a.char b.char) else none
  | .ascii negated runs => f.negate? negated (f.fold (runSet runs))
  | .shorthand negated s => f.negate? negated (s.set f.unicode)
  | .property negated query => do
    let s ← query.resolve?
    if f.unicode then f.negate? negated (f.fold s) else none
  | .bracketed negated body => do
    let s ← body.set? f
    f.negate? negated (f.fold s)
  | .union a b => do
    let s ← a.set? f
    let t ← b.set? f
    return s.union t
  | .operation op a b => do
    let s ← a.set? f
    let t ← b.set? f
    return op.apply (f.fold s) (f.fold t)

def Assertion.look (f : Flags) : Assertion → Look
  | .lineStart => if f.multiLine then if f.crlf then .crlfLineStart else .lineStart else .textStart
  | .lineEnd => if f.multiLine then if f.crlf then .crlfLineEnd else .lineEnd else .textEnd
  | .textStart => .textStart
  | .textEnd => .textEnd
  | .wordBoundary => .wordBoundary
  | .notWordBoundary => .notWordBoundary
  | .wordStart => .wordStart
  | .wordEnd => .wordEnd
  | .wordStartHalf => .wordStartHalf
  | .wordEndHalf => .wordEndHalf

/-- A literal. A byte outside ASCII is no character of its own, and is refused. -/
def Literal.expr? (f : Flags) (l : Literal) : Option Expr :=
  if !f.unicode && l.byte && !isAscii l.char then none
  else if f.unicode || isAscii l.char then some (.ofSet (f.fold (.single l.char)))
  else some (.literal [l.char])

/-- The characters that a dot stands for. It stands for characters, not for bytes. -/
def Flags.dot? (f : Flags) : Option CharSet :=
  if !f.unicode then none
  else if f.dotAll then some CharSet.empty.complement
  else if f.crlf then some (runSet [('\n', '\n'), ('\r', '\r')]).complement
  else some (CharSet.single '\n').complement

/-- The alternatives of a regex under given settings, and the settings after it. Settings made in
one alternative last through the following ones, up to the end of the group. -/
def Tree.alternatives? : Tree → Flags → Option (List Expr × Flags)
  | .empty, f => some ([.empty], f)
  | .flags change, f => some ([.empty], f.apply change)
  | .literal l, f => (l.expr? f).map fun e => ([e], f)
  | .any, f => f.dot?.map fun s => ([.ofSet s], f)
  | .assertion a, f => some ([.look (a.look f)], f)
  | .shorthand negated s, f =>
    (f.negate? negated (s.set f.unicode)).map fun s => ([.ofSet s], f)
  | .property negated query, f =>
    ((ClassTree.property negated query).set? f).map fun s => ([.ofSet s], f)
  | .bracketed negated body, f =>
    ((ClassTree.bracketed negated body).set? f).map fun s => ([.ofSet s], f)
  | .repeated min max greedy body, f => do
    let (es, g) ← body.alternatives? f
    return ([.ofRepetition min max (greedy != g.swapGreed) (.choice es)], g)
  | .capture index body, f => do
    let (es, _) ← body.alternatives? f
    return ([.capture index (.choice es)], f)
  | .group change body, f => do
    let (es, _) ← body.alternatives? (f.apply change)
    return ([.choice es], f)
  | .seq first rest, f => do
    let (as, f) ← first.alternatives? f
    let (bs, f) ← rest.alternatives? f
    return ([(Expr.choice as).append (.choice bs)], f)
  | .alt first rest, f => do
    let (as, f) ← first.alternatives? f
    let (bs, f) ← rest.alternatives? f
    return (as ++ bs, f)

/-- What a regex means under the settings that are in force at its start. -/
def Tree.expr? (t : Tree) (f : Flags) : Option Expr :=
  (t.alternatives? f).map fun (es, _) => .choice es

end NamePattern.CharRegex
