import NamePattern.Pattern.Bracket
import NamePattern.Text.Quoted

/-! What can be wrong with a pattern or a template. -/
namespace NamePattern

/-- A malformed pattern. `pattern` is the part of it that was being read. -/
inductive CompileError where
  | bracketMismatch (pattern : List Char)
  | unexpected (pattern found : List Char)
  | missingRightBrace (pattern : List Char)
  | quantifier (pattern quantifier : List Char)
  | bounds (pattern : List Char) (min max : Nat)
  | overflow (pattern bound : List Char)
  | componentRegex (pattern : List Char)
deriving DecidableEq

namespace CompileError

/-- The part of the pattern that was being read. -/
def pattern : CompileError → List Char
  | bracketMismatch p | unexpected p _ | missingRightBrace p | quantifier p _ | bounds p _ _
  | overflow p _ | componentRegex p => p

def message : CompileError → String
  | bracketMismatch p => "bracket mismatch in " ++ Text.quoted p
  | unexpected p found => "unexpected syntax " ++ Text.quoted found ++ " in " ++ Text.quoted p
  | missingRightBrace p => "missing right brace in " ++ Text.quoted p
  | quantifier p q => "unrecognized repetition " ++ Text.quoted q ++ " in " ++ Text.quoted p
  | bounds p min max =>
    "repetition min " ++ toString min ++ " is greater than max " ++ toString max ++ " in " ++
      Text.quoted p
  | overflow p bound =>
    "repetition bound " ++ Text.quoted bound ++ " overflows in " ++ Text.quoted p
  | componentRegex p => "invalid component regex " ++ Text.quoted p

end CompileError

/-- Why the reading of a pattern ends early. -/
inductive Fault where
  | refused (e : CompileError)
  /-- There are more opening brackets of one kind than can be counted. -/
  | overflow (pattern : List Char)
deriving DecidableEq

namespace Fault

/-- The error that a builder reports. There is none for a counter that overflows: a builder takes the
bracket for one that is not closed. -/
def error : Fault → CompileError
  | refused e => e
  | overflow p => .bracketMismatch p

/-- The fault of an opening bracket that is not closed within the text `s` behind it. -/
def unclosed (opening : Char) (s pattern : List Char) : Fault :=
  if Bracket.Countable opening s then .refused (.bracketMismatch pattern) else .overflow pattern

theorem unclosed_of_countable {o : Char} {s : List Char} (h : Bracket.Countable o s)
    (pattern : List Char) : unclosed o s pattern = .refused (.bracketMismatch pattern) :=
  if_pos h

theorem unclosed_of_not_countable {o : Char} {s : List Char} (h : ¬ Bracket.Countable o s)
    (pattern : List Char) : unclosed o s pattern = .overflow pattern :=
  if_neg h

end Fault

/-- A template that cannot be expanded. -/
inductive ExpandError where
  /-- No token starts at the byte `offset` of the template. -/
  | malformed (template : List Char) (offset : Nat)
  /-- The template refers to group `index`, and there are `count` of them. -/
  | backrefOutOfRange (index count : Nat)
deriving DecidableEq

def ExpandError.message : ExpandError → String
  | malformed template offset =>
    "malformed expand template " ++ Text.quoted template ++ " at offset " ++ toString offset
  | backrefOutOfRange index count =>
    "back reference \\" ++ toString index ++ " is out of range (" ++ toString count ++
      " available)"

end NamePattern
