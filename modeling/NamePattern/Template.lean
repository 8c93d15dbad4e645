import NamePattern.Captures
import NamePattern.Pattern.Bracket
import NamePattern.Pattern.Error
import NamePattern.Text.Decimal
import NamePattern.Text.Utf8

/-! Templates: how to build a name from what a match has captured. -/
namespace NamePattern

/-- A part of a template. -/
inductive Token where
  /-- `<text>`: one component with this value, which nothing unescapes. -/
  | literal (text : List Char)
  /-- `\n`: the components that group `n` has captured. -/
  | group (n : Nat)
deriving DecidableEq

namespace Token

/-- Cuts the token off the front of a text. Brackets inside a literal are balanced. A number takes
all digits there are, and one that is too large counts as the greatest. -/
def cut? : List Char → Option (Token × List Char)
  | '<' :: s => (Bracket.cut? '<' '>' 0 s).map fun (inside, rest) => (literal inside, rest)
  | '\\' :: s =>
    match s.takeWhile Char.isDigit with
    | [] => none
    | digits =>
      some (group (min (Text.numeralValue digits) Text.maxNumber), s.dropWhile Char.isDigit)
  | _ => none

theorem length_of_cut? {s rest : List Char} {t : Token} (h : cut? s = some (t, rest)) :
    rest.length < s.length := by
  unfold cut? at h
  split at h
  · obtain ⟨⟨inside, r⟩, hc, he⟩ := Option.map_eq_some_iff.mp h
    obtain ⟨_, rfl⟩ := Prod.mk.inj he
    have := Bracket.length_of_cut? hc
    simp
    omega
  · next s =>
    split at h
    · simp at h
    · obtain ⟨_, rfl⟩ := Prod.mk.inj (Option.some.inj h)
      have := (List.dropWhile_suffix (l := s) Char.isDigit).length_le
      simp
      omega
  · simp at h

/-- The tokens at the front of a text, and what is left where none starts. -/
def cutAll (s : List Char) : List Token × List Char :=
  match _h : cut? s with
  | none => ([], s)
  | some (t, rest) =>
    let (ts, rest) := cutAll rest
    (t :: ts, rest)
termination_by s.length
decreasing_by exact length_of_cut? _h

/-- The components that a token stands for. -/
def expand (c : Captures) : Token → Except ExpandError (List Component)
  | literal text => .ok [.ofText text]
  | group n =>
    match c.get? n with
    | some components => .ok components
    | none => .error (.backrefOutOfRange n c.groups.length)

end Token

/-- The tokens of a template, up to its end or to the byte where none starts. -/
structure Template where
  tokens : List Token
  fault : Option Nat
deriving DecidableEq

namespace Template

/-- Reads a template. A fault is given by the byte where the text that is left starts. -/
def read (s : List Char) : Template :=
  let (tokens, rest) := Token.cutAll s
  ⟨tokens, if rest.isEmpty then none else some (Text.utf8Length s - Text.utf8Length rest)⟩

end Template

/-- Builds a name from a template. Of several faults the first one counts. -/
def Captures.expand (c : Captures) (template : List Char) : Except ExpandError Name := do
  let { tokens, fault } := Template.read template
  let parts ← tokens.mapM (·.expand c)
  match fault with
  | some offset => throw (.malformed template offset)
  | none => return ⟨parts.flatten⟩

end NamePattern
