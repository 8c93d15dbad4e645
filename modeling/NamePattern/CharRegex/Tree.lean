import NamePattern.CharRegex.Property

/-! Regexes over characters as they are written. -/
namespace NamePattern.CharRegex

/-- Settings that a regex can change for a part of itself. -/
inductive Flag where
  | ignoreCase
  | multiLine
  | dotAll
  | swapGreed
  | unicode
  | crlf
  | extended
deriving DecidableEq

def Flag.ofChar? : Char → Option Flag
  | 'i' => some .ignoreCase
  | 'm' => some .multiLine
  | 's' => some .dotAll
  | 'U' => some .swapGreed
  | 'u' => some .unicode
  | 'R' => some .crlf
  | 'x' => some .extended
  | _ => none

/-- Flags that are set anew, each on or off. -/
abbrev FlagChange := List (Flag × Bool)

/-- What a change does to one flag, if it mentions the flag. -/
def FlagChange.get? (change : FlagChange) (f : Flag) : Option Bool :=
  (change.find? fun (g, _) => g = f).map Prod.snd

/-- One character of a regex that stands for itself, however it is spelled. -/
structure Literal where
  char : Char
  /-- Written as `\xHH`, which names a byte where a regex works on bytes. -/
  byte : Bool
deriving DecidableEq

/-- Conditions on a place between two characters. -/
inductive Assertion where
  | lineStart
  | lineEnd
  | textStart
  | textEnd
  | wordBoundary
  | notWordBoundary
  | wordStart
  | wordEnd
  | wordStartHalf
  | wordEndHalf
deriving DecidableEq

/-- The one-letter classes `\d`, `\s` and `\w`. -/
inductive Shorthand where
  | digit
  | space
  | word
deriving DecidableEq

/-- Operators between the parts of a bracketed class. -/
inductive SetOperator where
  | intersection
  | difference
  | symmetricDifference
deriving DecidableEq

/-- What stands between the brackets of a class. -/
inductive ClassTree where
  | empty
  | literal (l : Literal)
  | range (first last : Literal)
  /-- A class such as `[:alpha:]`, by the runs of ASCII that it names. -/
  | ascii (negated : Bool) (runs : List (Char × Char))
  | shorthand (negated : Bool) (s : Shorthand)
  | property (negated : Bool) (query : PropertyQuery)
  | bracketed (negated : Bool) (body : ClassTree)
  | union (first rest : ClassTree)
  | operation (op : SetOperator) (left right : ClassTree)

/-- A regex as it is written. Parts in sequence and alternatives are nested to the right. -/
inductive Tree where
  | empty
  | flags (change : FlagChange)
  | literal (l : Literal)
  | any
  | assertion (a : Assertion)
  | shorthand (negated : Bool) (s : Shorthand)
  | property (negated : Bool) (query : PropertyQuery)
  | bracketed (negated : Bool) (body : ClassTree)
  | repeated (min : Nat) (max : Option Nat) (greedy : Bool) (body : Tree)
  | capture (index : Nat) (body : Tree)
  | group (change : FlagChange) (body : Tree)
  | seq (first rest : Tree)
  | alt (first rest : Tree)

/-- The union of a list of class items. -/
def ClassTree.ofItems : List ClassTree → ClassTree
  | [] => .empty
  | [t] => t
  | t :: ts => .union t (ofItems ts)

/-- The sequence of a list of parts. -/
def Tree.ofParts : List Tree → Tree
  | [] => .empty
  | [t] => t
  | t :: ts => .seq t (ofParts ts)

/-- How deeply a class nests. A union counts once, however many items it has: `inner` tells
that the union around this one has been counted. -/
def ClassTree.depth (inner : Bool) : ClassTree → Nat
  | .bracketed _ body => body.depth false + 1
  | .union first rest => max (first.depth false) (rest.depth true) + (if inner then 0 else 1)
  | .operation _ left right => max (left.depth false) (right.depth false) + 1
  | _ => 0

/-- What a run of parts that has been counted is made of. -/
inductive Run where
  | none
  | sequence
  | alternatives
deriving DecidableEq

/-- How deeply a regex nests. A sequence and a list of alternatives count once, however long:
`run` tells which of them has been counted around this part. -/
def Tree.depth (run : Run) : Tree → Nat
  | .bracketed _ body => body.depth false + 1
  | .repeated _ _ _ body => body.depth .none + 1
  | .capture _ body => body.depth .none + 1
  | .group _ body => body.depth .none + 1
  | .seq first rest =>
    max (first.depth .none) (rest.depth .sequence) + (if run = .sequence then 0 else 1)
  | .alt first rest =>
    max (first.depth .none) (rest.depth .alternatives) + (if run = .alternatives then 0 else 1)
  | _ => 0

/-- Regexes that nest more deeply are refused. -/
def nestLimit : Nat := 250

end NamePattern.CharRegex
