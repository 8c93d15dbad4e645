import NamePattern.CharRegex.Marks
import NamePattern.CharRegex.Program

/-! Searching a text with a program. All ways through the program are followed side by side, in
order of preference, so that a search takes time proportional to the text. -/
namespace NamePattern.CharRegex

/-- A place in the text, with the characters on its two sides. -/
structure Place where
  position : Nat
  before : Option Char
  after : Option Char

def isWordChar (c : Char) : Bool := c.isAlphanum || c == '_'

/-- Whether a condition holds at a place. Word characters are told apart in ASCII. -/
def Look.holds (p : Place) : Look → Bool
  | .textStart => p.before.isNone
  | .textEnd => p.after.isNone
  | .lineStart => p.before.all (· == '\n')
  | .lineEnd => p.after.all (· == '\n')
  | .crlfLineStart =>
    p.before.all fun c => c == '\n' || (c == '\r' && p.after != some '\n')
  | .crlfLineEnd =>
    p.after.all fun c => c == '\r' || (c == '\n' && p.before != some '\r')
  | .wordBoundary => p.before.any isWordChar != p.after.any isWordChar
  | .notWordBoundary => p.before.any isWordChar == p.after.any isWordChar
  | .wordStart => !p.before.any isWordChar && p.after.any isWordChar
  | .wordEnd => p.before.any isWordChar && !p.after.any isWordChar
  | .wordStartHalf => !p.before.any isWordChar
  | .wordEndHalf => !p.after.any isWordChar

/-- Noted places by their slots, the latest first. -/
abbrev Saves := List (Nat × Nat)

/-- One way through the program, up to an instruction that consumes or accepts. -/
structure Thread where
  pc : Nat
  saves : Saves

/-- What has been reached at one place: the instructions, and the threads that wait there, the
least preferred first. -/
structure Reached where
  marks : Marks
  threads : List Thread

/-- Nothing has been reached yet. -/
def Reached.none (prog : Program) : Reached := ⟨.none prog.size, []⟩

/-- Follows threads through instructions that consume nothing, the most preferred first. The first
to reach an instruction at a place wins, and later ones end there. The number bounds the steps. -/
def followAll (prog : Program) (place : Place) : Nat → List Thread → Reached → Reached
  | 0, _, r => r
  | _, [], r => r
  | n + 1, ⟨pc, saves⟩ :: others, r =>
    if r.marks.has pc then followAll prog place n others r
    else
      let r : Reached := { r with marks := r.marks.add pc }
      match prog[pc]? with
      | none => followAll prog place n others r
      | some (.chars _) =>
        followAll prog place n others { r with threads := ⟨pc, saves⟩ :: r.threads }
      | some .accept =>
        followAll prog place n others { r with threads := ⟨pc, saves⟩ :: r.threads }
      | some (.look l) =>
        if l.holds place then followAll prog place n (⟨pc + 1, saves⟩ :: others) r
        else followAll prog place n others r
      | some (.save slot) =>
        followAll prog place n (⟨pc + 1, (slot, place.position) :: saves⟩ :: others) r
      | some (.jump target) => followAll prog place n (⟨target, saves⟩ :: others) r
      | some (.split first second) =>
        followAll prog place n (⟨first, saves⟩ :: ⟨second, saves⟩ :: others) r

/-- Follows one thread. Every instruction is followed at most once and leads to at most two others,
which bounds the steps. -/
def follow (prog : Program) (place : Place) (t : Thread) (r : Reached) : Reached :=
  followAll prog place (2 * prog.size + 2) [t] r

/-- Moves the threads, the most preferred first, over the character behind the place. A thread
that accepts is the match, and ends those it is preferred to. -/
def advance (prog : Program) (next : Place) (c : Option Char) :
    List Thread → Option Saves → Reached → Option Saves × Reached
  | [], found, r => (found, r)
  | t :: ts, found, r =>
    match prog[t.pc]? with
    | some .accept => (some t.saves, r)
    | some (.chars s) =>
      if c.any s.contains then
        advance prog next c ts found (follow prog next ⟨t.pc + 1, t.saves⟩ r)
      else advance prog next c ts found r
    | _ => advance prog next c ts found r

/-- Searches from a place on. As long as there is no match, one may start at every place, with
less preference than those that started before. -/
def searchFrom (prog : Program) (position : Nat) (before : Option Char) :
    List Char → Option Saves → Reached → Option Saves
  | text, found, r =>
    let here : Place := ⟨position, before, text.head?⟩
    let r := if found.isNone then follow prog here ⟨0, []⟩ r else r
    let next : Place := ⟨position + 1, text.head?, text.tail.head?⟩
    let (found, r) := advance prog next text.head? r.threads.reverse found ⟨r.marks.wipe, []⟩
    match text with
    | [] => found
    | c :: text =>
      if found.isSome && r.threads.isEmpty then found
      else searchFrom prog (position + 1) (some c) text found r

/-- The noted places of the first match of a program in a text. -/
def search (prog : Program) (text : List Char) : Option Saves :=
  searchFrom prog 0 none text none (.none prog)

/-- What a group has matched, if it took part. -/
def Saves.group (saves : Saves) (text : List Char) (i : Nat) : Option (List Char) := do
  let start ← saves.lookup (2 * i)
  let stop ← saves.lookup (2 * i + 1)
  return (text.drop start).take (stop - start)

end NamePattern.CharRegex
