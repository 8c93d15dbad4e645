import NamePattern.Captures
import NamePattern.Pattern.Basic
import NamePattern.Pattern.Registry
import NamePattern.Pattern.Search

/-! Arenas: the numbered nodes of compiled patterns. -/
namespace NamePattern

/-- What a node is. -/
inductive Content where
  /-- A group whose inner pattern has not been compiled, or could not be. -/
  | reserved
  /-- A group of a component regex. It only captures. -/
  | pseudo
  | matcher (m : Matcher Leaf)

/-- A node, with the part of the pattern that it was compiled from. -/
structure Node where
  pattern : List Char
  content : Content

inductive Kind where
  | pseudo
  | component
  | set
  | group
  | repeated
  | list
deriving DecidableEq

def Content.kind : Content → Kind
  | .reserved => .group
  | .pseudo => .pseudo
  | .matcher (.component _ _) => .component
  | .matcher (.set _ _ _) => .set
  | .matcher (.group _ _) => .group
  | .matcher (.repeated _ _ _) => .repeated
  | .matcher (.list _ _) => .list

/-- Nodes, numbered in the order of their allocation, and the groups among them. -/
structure Arena where
  nodes : Array Node
  registry : Registry
  /-- Whether component regexes ignore case. -/
  ignoreCase : Bool

namespace Arena

def empty (ignoreCase : Bool) : Arena := ⟨#[], .empty, ignoreCase⟩

def size (a : Arena) : Nat := a.nodes.size

def isEmpty (a : Arena) : Bool := a.nodes.isEmpty

/-- Matches a node with exactly the `length` components of a name from `offset` on. Numbers of no
node, nodes that only capture and runs that do not lie within the name match nothing. -/
def isMatchAt (a : Arena) (id : NodeId) (name : Name) (offset length : Nat) : Attempt :=
  if offset + length ≤ name.length then
    match a.nodes[id]? with
    | some ⟨_, .matcher m⟩ => (m.map (.ofLeaf name.components.toArray)).run offset length
    | _ => .fail
  else .fail

/-- Matches a node as above, with empty slots, and collects what the groups have captured. -/
def matchAt (a : Arena) (id : NodeId) (name : Name) (offset length : Nat) : Option Captures :=
  match a.isMatchAt id name offset length (.empty a.size) with
  | (true, slots) =>
    some ⟨(name.subName offset length).components, a.registry.refs.map (slots.resolve name), false⟩
  | (false, _) => none

end Arena

/-- A step of compiling. A failure keeps the arena as the step has left it. -/
abbrev Builder := EStateM CompileError Arena

namespace Builder

def alloc (pattern : List Char) (content : Content) : Builder NodeId := fun a =>
  .ok a.size { a with nodes := a.nodes.push ⟨pattern, content⟩ }

def register (id : NodeId) : Builder Unit := fun a =>
  .ok () { a with registry := a.registry.push id }

/-- Allocates a node that its own number helps to describe. -/
def allocMatcher (pattern : List Char) (m : NodeId → Matcher Leaf) : Builder (Matcher Leaf) := do
  let a ← get
  let id ← alloc pattern (.matcher (m a.size))
  return m id

/-- Allocates and registers the nodes for the groups of a component regex. -/
def pseudos : Nat → Builder (List NodeId)
  | 0 => return []
  | n + 1 => do
    let id ← alloc [] .pseudo
    register id
    let ids ← pseudos n
    return id :: ids

/-- Allocates a member of a set behind its groups. -/
def member (m : Member) : Builder Leaf := do
  let groups ← pseudos (m.regex.elim 0 CharRegex.groups)
  let id := (← get).size
  let leaf : Leaf := ⟨id, m.regex, groups⟩
  let _ ← alloc m.text (.matcher (.component id leaf))
  return leaf

def members : List Member → Builder (List Leaf)
  | [] => return []
  | m :: ms => do
    let leaf ← member m
    let leaves ← members ms
    return leaf :: leaves

/-- Allocates the members of a set, up to its fault if it has one, and then the set. -/
def memberSet (s : MemberSet) : Builder (Matcher Leaf) := do
  let leaves ← members s.members
  match s.fault with
  | some f => throw f.error
  | none => allocMatcher s.text fun id => .set id leaves s.inclusion

/-- Allocates and registers a group, and then what is inside it, so that outer groups are numbered
before the groups that they contain. On failure the registry is as before, and the node stays
behind without a content. -/
def group (text : List Char) (inner : Builder (Matcher Leaf)) : Builder (Matcher Leaf) := do
  let registered := (← get).registry.size
  let id ← alloc text .reserved
  register id
  fun a =>
    match inner a with
    | .ok m a =>
      let g : Matcher Leaf := .group id m
      .ok g { a with nodes := a.nodes.setIfInBounds id ⟨text, .matcher g⟩ }
    | .error e a => .error e { a with registry := a.registry.take registered }

/-- Allocates a repetition behind what it repeats. A faulty quantifier fails after that has been
allocated. -/
def repetition (text : List Char) (atom : Builder (Matcher Leaf))
    (bounds : Except CompileError Bounds) : Builder (Matcher Leaf) := do
  let m ← atom
  match bounds with
  | .error e => throw e
  | .ok b => allocMatcher text fun id => .repeated id m b

/-- Allocates the items of a pattern from left to right, up to its fault if it has one. -/
def items : Pattern → Builder (List (Matcher Leaf))
  | .done => return []
  | .fault f => throw f.error
  | .group text inner rest => do
    let m ← group text do
      let ms ← items inner
      allocMatcher (text.tail.dropLast) fun id => .list id ms
    let ms ← items rest
    return m :: ms
  | .repeatGroup text atom inner bounds rest => do
    let m ← repetition text
      (group atom do
        let ms ← items inner
        allocMatcher (atom.tail.dropLast) fun id => .list id ms)
      bounds
    let ms ← items rest
    return m :: ms
  | .repeatSet text atom bounds rest => do
    let m ← repetition text (memberSet atom) bounds
    let ms ← items rest
    return m :: ms

/-- Allocates a list of items behind them. -/
def list (text : List Char) (p : Pattern) : Builder (Matcher Leaf) := do
  let ms ← items p
  allocMatcher text fun id => .list id ms

/-- Compiles the regex of one component. -/
def component (text : List Char) : Builder (Matcher Leaf) := do
  match Member.read (← get).ignoreCase text with
  | .error e => throw e
  | .ok m =>
    let leaf ← member m
    return .component leaf.id leaf

/-- Compiles a set of components. -/
def componentSet (text : List Char) : Builder (Matcher Leaf) := do
  memberSet (.read (← get).ignoreCase text)

/-- Compiles a group. -/
def backref (text : List Char) : Builder (Matcher Leaf) := do
  group text (list text.tail.dropLast (.readGroup (← get).ignoreCase text))

/-- Compiles a set or a group that ends before byte `indicator` of the text, with the quantifier
behind it. -/
def repeatAt (text : List Char) (indicator : Nat) : Builder (Matcher Leaf) :=
  match Text.splitAtByte? indicator text with
  | none => throw (.unexpected text text)
  | some (atom, quantifier) =>
    let inner := if atom.head? = some '(' then backref atom else componentSet atom
    repetition text inner (Bounds.read text quantifier)

/-- Compiles a pattern. -/
def patternList (text : List Char) : Builder (Matcher Leaf) := do
  list text (.read (← get).ignoreCase text)

end Builder

end NamePattern
