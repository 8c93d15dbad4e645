import NamePattern.CharRegex.Property.Age
import NamePattern.CharRegex.Property.Binary
import NamePattern.CharRegex.Property.Boundary
import NamePattern.CharRegex.Property.Category
import NamePattern.CharRegex.Property.Script

/-! Queries for properties of characters. -/
namespace NamePattern.CharRegex

namespace Property

/-- The property of a name. -/
def find? (table : List Property) (name : String) : Option Property :=
  table.find? fun p => p.names.contains name

def set? (table : List Property) (name : String) : Option CharSet := (find? table name).map set

/-- The union of the sets of some properties. -/
def unionSet (ps : List Property) : CharSet := .ofRuns (ps.flatMap fun p => p.set.runs)

/-- The run of code points that can be no characters. -/
def surrogates : Nat × Nat := (0xd800, 0xdfff)

/-- The characters of no category. -/
def unassigned : CharSet :=
  (CharSet.ofRuns (surrogates :: (unionSet categories).runs)).complement

/-- A category that is not made of others. -/
def simpleCategory? (name : String) : Option CharSet :=
  if name == "cn" || name == "unassigned" then some unassigned else set? categories name

def category? (name : String) : Option CharSet :=
  if name == "any" then some CharSet.empty.complement
  else if name == "assigned" then some unassigned.complement
  else if name == "ascii" then some (.range '\x00' '\x7f')
  else
    match categoryGroups.find? fun (names, _) => names.contains name with
    | some (_, parts) =>
      some (.ofRuns ((parts.filterMap simpleCategory?).flatMap CharSet.runs))
    | none => simpleCategory? name

def script? (name : String) : Option CharSet := set? scripts name

/-- The characters that are used with a script. -/
def scriptExtension? (name : String) : Option CharSet := do
  let script ← find? scripts name
  return (script.names.findSome? (set? scriptExtensions)).getD script.set

/-- The characters of a version, which keeps all those of the versions before it. -/
def age? (name : String) : Option CharSet :=
  match ages.span fun p => !p.names.contains name with
  | (before, p :: _) => some (unionSet (before ++ [p]))
  | (_, []) => none

/-- A name with only what counts in it: ASCII in lower case, without `is` at its front. The
property `isc` keeps its name. -/
def normalize (s : List Char) : String :=
  let keep (s : List Char) :=
    (s.filter fun c => c.toNat < 128 && c != ' ' && c != '_' && c != '-').map Char.toLower
  match s with
  | i :: s :: rest =>
    if i.toLower = 'i' ∧ s.toLower = 's' then
      if keep rest = ['c'] then "isc" else String.ofList (keep rest)
    else String.ofList (keep (i :: s :: rest))
  | _ => String.ofList (keep s)

end Property

/-- What a property class asks for, before a negation. -/
inductive PropertyQuery where
  /-- A property by one name: yes-or-no, a general category or a script. -/
  | named (name : List Char)
  /-- A property that has values, and one of them. -/
  | valued (property value : List Char)
deriving DecidableEq

/-- The characters that a query describes, if it names a known property. -/
def PropertyQuery.resolve? : PropertyQuery → Option CharSet
  | named name =>
    let name := Property.normalize name
    Property.set? Property.binary name <|> Property.category? name <|> Property.script? name
  | valued property value =>
    let value := Property.normalize value
    match Property.normalize property with
    | "gc" | "generalcategory" => Property.category? value
    | "sc" | "script" => Property.script? value
    | "scx" | "scriptextensions" => Property.scriptExtension? value
    | "age" => Property.age? value
    | "gcb" | "graphemeclusterbreak" => Property.set? Property.clusterBreaks value
    | "wb" | "wordbreak" => Property.set? Property.wordBreaks value
    | "sb" | "sentencebreak" => Property.set? Property.sentenceBreaks value
    | _ => none

/-- The characters with any of some properties by one name. -/
def Property.union (names : List String) : CharSet :=
  .ofRuns (names.flatMap fun name =>
    ((PropertyQuery.named name.toList).resolve?.getD .empty).runs)

end NamePattern.CharRegex
