import NamePattern.Component.Escaped
import NamePattern.Pattern.Arena
import NamePattern.Template

/-! Regexes over the components of a name. -/
namespace NamePattern

/-- A pattern that is compiled on an arena of its own. -/
structure CompiledPattern where
  arena : Arena
  root : NodeId

namespace CompiledPattern

def compile (ignoreCase : Bool) (text : List Char) : Except CompileError CompiledPattern :=
  match Builder.patternList text (.empty ignoreCase) with
  | .ok m arena => .ok ⟨arena, m.id⟩
  | .error e _ => .error e

/-- Matches a whole name. -/
def captures (p : CompiledPattern) (n : Name) : Option Captures :=
  p.arena.matchAt p.root n 0 n.length

/-- How many groups the pattern has. -/
def groups (p : CompiledPattern) : Nat := p.arena.registry.size

end CompiledPattern

/-- A regex over names. Without `^` in front it may match behind any number of components, and
without `$` at the end it may match before any number of them. -/
structure NameRegex where
  text : List Char
  /-- The template that expansion falls back on. -/
  template : List Char
  /-- The form that matches from the first component on. -/
  primary : CompiledPattern
  /-- The form that matches behind any number of components. -/
  secondary : Option CompiledPattern
  /-- What the last match has captured. -/
  last : Captures

namespace NameRegex

/-- The pattern that every run of components matches. -/
def wildcard : List Char := ['<', '.', '*', '>', '*']

/-- The text without `$`, or with a wildcard behind it. -/
def closeEnd (text : List Char) : List Char :=
  if text.getLast? = some '$' then text.dropLast else text ++ wildcard

/-- The pattern of the primary form, and of the secondary form unless `^` rules it out. -/
def forms (text : List Char) : List Char × Option (List Char) :=
  match closeEnd text with
  | '^' :: body => (body, none)
  | body => (body, some (wildcard ++ body))

def compile (ignoreCase : Bool) (text template : List Char) : Except CompileError NameRegex := do
  let (first, second) := forms text
  let primary ← CompiledPattern.compile ignoreCase first
  let secondary ← second.mapM (CompiledPattern.compile ignoreCase)
  return ⟨text, template, primary, secondary, .unmatched primary.groups⟩

/-- The text of a regex for a name, and for all that continue it unless `anchored`. -/
def textOfName (n : Name) (anchored : Bool) : List Char :=
  '^' :: n.components.flatMap (fun c => '<' :: CharRegex.escape c.escaped ++ ['>']) ++
    if anchored then ['$'] else []

def ofName (n : Name) (anchored : Bool) : Except CompileError NameRegex :=
  compile false (textOfName n anchored) []

/-- Matches a name. The secondary form is tried only if the primary one fails. -/
def captures (r : NameRegex) (n : Name) : Option Captures :=
  match r.primary.captures n with
  | some c => some c
  | none => do
    let c ← (← r.secondary).captures n
    return { c with secondary := true }

def isMatch (r : NameRegex) (n : Name) : Bool := (r.captures n).isSome

/-- Matches a name, and keeps what the match has captured. A failed match leaves empty groups. -/
def matchName (r : NameRegex) (n : Name) : Bool × NameRegex :=
  match r.captures n with
  | some c => (true, { r with last := c })
  | none => (false, { r with last := .unmatched r.primary.groups })

/-- Builds a name from the last match. The empty template stands for the one of the regex. -/
def expand (r : NameRegex) (template : List Char) : Except ExpandError Name :=
  r.last.expand (if template.isEmpty then r.template else template)

end NameRegex

end NamePattern
