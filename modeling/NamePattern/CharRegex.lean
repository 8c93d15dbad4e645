import NamePattern.CharRegex.Footprint
import NamePattern.CharRegex.Reader
import NamePattern.CharRegex.Search

/-! Regexes over the characters of an ASCII text. -/
namespace NamePattern

/-- A regex that is ready to be searched for. -/
structure CharRegex where
  program : CharRegex.Program
  /-- How many capturing groups it has. -/
  groups : Nat

namespace CharRegex

/-- The settings at the start of a regex. -/
def Flags.start (ignoreCase : Bool) : Flags where
  ignoreCase := ignoreCase
  multiLine := false
  dotAll := false
  swapGreed := false
  unicode := true
  crlf := false

/-- Reads a regex, if it is well formed and not too large. -/
def read? (ignoreCase : Bool) (s : List Char) : Option CharRegex := do
  let t ← Tree.read? s
  let e ← t.expr? (.start ignoreCase)
  if e.fits then return ⟨.ofExpr e, e.groupCount⟩ else none

/-- Reads a regex that is to match a whole text. It is put between anchors as it stands, so a
parenthesis that it does not open can end their reach. -/
def readWhole? (ignoreCase : Bool) (s : List Char) : Option CharRegex :=
  read? ignoreCase (['\\', 'A', '(', '?', ':'] ++ s ++ [')', '\\', 'z'])

/-- The texts of the groups in the first match, if there is one. Groups that took no part have
none. -/
def captures (r : CharRegex) (text : List Char) : Option (List (Option (List Char))) :=
  (search r.program text).map fun saves =>
    (List.range r.groups).map fun i => saves.group text (i + 1)

/-- A regex that matches exactly a given text. -/
def escape (s : List Char) : List Char :=
  s.flatMap fun c => if metacharacters.contains c then ['\\', c] else [c]

end CharRegex

end NamePattern
