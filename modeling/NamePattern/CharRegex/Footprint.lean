import NamePattern.CharRegex.ByteRuns
import NamePattern.CharRegex.Program
import NamePattern.Text.Utf8
import Std.Data.HashMap

/-! How much room the automata take that match a regex byte by byte, forwards and backwards. Regexes
whose automata are too large are refused. -/
namespace NamePattern.CharRegex

/-- The room that an automaton takes: the number of its states, and the bytes of the links that
states hold beside themselves. -/
structure Footprint where
  states : Nat
  links : Nat
deriving DecidableEq

namespace Footprint

/-- A state takes 32 bytes. -/
def bytes (f : Footprint) : Nat := 32 * f.states + f.links

/-- Automata take at most ten mebibytes. -/
def isTooLarge (f : Footprint) : Bool := 10 * 1024 * 1024 < f.bytes

/-- Room for more states, and for the links they hold. A choice holds one link of four bytes for
each of its alternatives, and a state that reads a byte of several runs one of eight for each
run. -/
def add (f : Footprint) (states links : Nat) : Footprint := ⟨f.states + states, f.links + links⟩

/-- Repeats a part of an automaton. A part that makes it too large is not repeated any more. -/
def copies (part : Footprint → Footprint) : Nat → Footprint → Footprint
  | 0, f => f
  | n + 1, f => if f.isTooLarge then f else copies part n (part f)

end Footprint

/-- Whether a text is read from its first byte on or from its last. -/
inductive Direction where
  | forwards
  | backwards
deriving DecidableEq

/-- An automaton for a set of characters in the making. States that read the same bytes and go on
with the same states are shared, as long as they are remembered: each belongs to one of a limited
number of slots, which remembers the latest. -/
structure Sharing where
  footprint : Footprint
  slots : Std.HashMap Nat (List Nat × Nat)

namespace Sharing

/-- The slot of a state among `count` slots. -/
def slot (count : Nat) (state : List Nat) : Nat :=
  let mix (h : UInt64) (n : Nat) : UInt64 := (h ^^^ n.toUInt64) * 1099511628211
  (state.foldl mix 14695981039346656037 % count.toUInt64).toNat

/-- Makes a state, remembers it in a slot, and returns its number. -/
def make (i : Nat) (state : List Nat) (links : Nat) (s : Sharing) : Nat × Sharing :=
  let id := s.footprint.states
  (id, ⟨s.footprint.add 1 links, s.slots.insert i (state, id)⟩)

/-- The number of a state, which is made if it is not remembered. -/
def state (count : Nat) (state : List Nat) (links : Nat) (s : Sharing) : Nat × Sharing :=
  let i := slot count state
  match s.slots[i]? with
  | some (other, id) => if other = state then (id, s) else s.make i state links
  | none => s.make i state links

/-- The state that reads encodings from their first bytes on and then goes on with `target`.
Encodings are in ascending order and have at most `n` bytes. -/
def first (target : Nat) : Nat → List ByteRuns → Sharing → Nat × Sharing
  | 0, _, s => (target, s)
  | n + 1, encodings, s =>
    if encodings.all List.isEmpty then (target, s)
    else
      let groups := encodings.splitBy fun a b => a.head? == b.head?
      let (links, s) := groups.foldl
        (fun (links, s) group =>
          let (lo, hi) := (group.head?.bind List.head?).getD (0, 0)
          let (next, s) := first target n (group.map List.tail) s
          (links ++ [lo, hi, next], s))
        ([], s)
      state 10000 links (8 * groups.length) s

/-- Makes the states that read an encoding from its last byte on and then go on with `target`. -/
def last (s : Sharing) (encoding : ByteRuns) (target : Nat) : Sharing :=
  (encoding.foldl (fun (next, s) (lo, hi) => state 1000 [next, lo, hi] 0 s) (target, s)).2

end Sharing

/-- Adds the automaton of a set of characters, unless there is too much already. One of ASCII needs
no encodings. -/
def CharSet.addTo (d : Direction) (set : CharSet) (f : Footprint) : Footprint :=
  if f.isTooLarge then f
  else if set.isAscii then f.add 2 (8 * set.runs.length)
  else
    let encodings := ByteRuns.ofSet set
    match d with
    | .forwards => (Sharing.first f.states 4 encodings ⟨f.add 1 0, ∅⟩).2.footprint
    | .backwards =>
      let target := f.states + 1
      let start : Sharing := ⟨f.add 2 0, ∅⟩
      let s := encodings.foldl (fun s encoding => s.last encoding target) start
      s.footprint.add 0 (4 * encodings.length)

/-- The room for a choice among texts that share their beginnings. A text that ends where others go
on divides the choices there into those made before and after it. Texts have at most `n` bytes. -/
def sharedTexts : Nat → List (List UInt8) → Footprint → Footprint
  | 0, _, f => f
  | n + 1, texts, f =>
    if texts.all List.isEmpty then f
    else
      let texts :=
        if texts.head?.any List.isEmpty then [] :: texts.dropWhile List.isEmpty else texts
      let ends := texts.countP List.isEmpty
      let parts := (texts.splitBy fun a b => !a.isEmpty && !b.isEmpty).filter
        fun part => !part.all List.isEmpty
      let f := parts.foldl
        (fun f part =>
          let bytes := (part.filterMap List.head?).eraseDups
          let f := bytes.foldl
            (fun f b =>
              sharedTexts n ((part.filter fun t => t.head? == some b).map List.tail) f) f
          f.add 1 (if bytes.length = 1 then 0 else 8 * bytes.length)) f
      f.add 1 (4 * (parts.length + ends))

namespace Expr

def text? : Expr → Option (List Char)
  | .literal text => some text
  | _ => none

/-- Adds the room for a choice among alternatives, given their parts of the automaton. -/
def addChoice (d : Direction) (es : List Expr) (parts : List (Footprint → Footprint))
    (f : Footprint) : Footprint :=
  match es.mapM text? with
  | some texts =>
    let texts := texts.map fun t =>
      match d with
      | .forwards => Text.utf8 t
      | .backwards => (Text.utf8 t).reverse
    let longest := texts.foldl (fun n t => max n t.length) 0
    sharedTexts (longest + 1) texts (f.add 1 0)
  | none =>
    let f := (parts.take 2).foldl (fun f part => part f) f
    (parts.drop 2).foldl (fun f part => part f) (f.add 2 (4 * parts.length))

mutual

/-- Adds the automaton of an expression. The order in which its parts are made matters to the
numbers of their states, and by these to what is shared. -/
def addTo (d : Direction) : Expr → Footprint → Footprint
  | .empty, f => f.add 1 0
  | .literal text, f => f.add (Text.utf8Length text) 0
  | .set s, f => s.addTo d f
  | .look _, f => f.add 1 0
  | .capture _ body, f =>
    match d with
    | .forwards => (body.addTo d (f.add 1 0)).add 1 0
    | .backwards => body.addTo d f
  | .repeated min max _ body, f =>
    let part := body.addTo d
    match max with
    | none =>
      if min = 0 then
        if body.consumes then part (f.add 1 8) else (part f).add 3 16
      else (part (Footprint.copies part (min - 1) f)).add 1 8
    | some max =>
      if min = 0 ∧ max = 1 then (part (f.add 1 8)).add 1 0
      else
        let f := if min = 0 then f.add 1 0 else Footprint.copies part min f
        if min = max then f
        else Footprint.copies (fun f => part (f.add 1 8)) (max - min) (f.add 1 0)
  | .seq a b, f =>
    match d with
    | .forwards => b.addTo d (a.addTo d f)
    | .backwards => a.addTo d (b.addTo d f)
  | .alt a b, f => addChoice d (a :: b.branches) (a.addTo d :: b.addBranches d) f

/-- The parts that the alternatives of an expression add. -/
def addBranches (d : Direction) : Expr → List (Footprint → Footprint)
  | .alt a b => a.addTo d :: b.addBranches d
  | e => [e.addTo d]

end

/-- Whether all matches begin at the start of the text. -/
def fixesStart : Expr → Bool
  | .look l => l == .textStart
  | .capture _ body => body.fixesStart
  | .repeated min _ _ body => min != 0 && body.fixesStart
  | .seq a b => a.fixesStart || (a.isPlace && b.fixesStart)
  | .alt a b => a.fixesStart && b.fixesStart
  | _ => false

/-- Whether all matches stop at the end of the text. -/
def fixesEnd : Expr → Bool
  | .look l => l == .textEnd
  | .capture _ body => body.fixesEnd
  | .repeated min _ _ body => min != 0 && body.fixesEnd
  | .seq a b => b.fixesEnd || (b.isPlace && a.fixesEnd)
  | .alt a b => a.fixesEnd && b.fixesEnd
  | _ => false

/-- The room for the automaton of a whole regex. Unless all matches begin at the end of the text
that the automaton begins with, it first skips any number of bytes. Only forwards does it note
where the match begins and ends. -/
def footprint (d : Direction) (e : Expr) : Footprint :=
  let skip (fixed : Bool) : Footprint := if fixed then ⟨1, 0⟩ else ⟨3, 16⟩
  match d with
  | .forwards => (e.addTo d ((skip e.fixesStart).add 1 0)).add 2 0
  | .backwards => (e.addTo d (skip e.fixesEnd)).add 1 0

/-- Whether the automata of a regex are small enough in both directions. -/
def fits (e : Expr) : Bool :=
  !(e.footprint .forwards).isTooLarge && !(e.footprint .backwards).isTooLarge

end Expr

end NamePattern.CharRegex
