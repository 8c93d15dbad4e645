import NamePattern.CharRegex
import NamePattern.Pattern.Bracket
import NamePattern.Pattern.Quantifier

/-! Name patterns as they are written. -/
namespace NamePattern

/-- What stands between angle brackets: a regex for one component. The empty text is none, and
admits every component. -/
structure Member where
  text : List Char
  regex : Option CharRegex

def Member.read (ignoreCase : Bool) (text : List Char) : Except CompileError Member :=
  if text.isEmpty then .ok ⟨text, none⟩
  else
    match CharRegex.readWhole? ignoreCase text with
    | some r => .ok ⟨text, some r⟩
    | none => .error (.componentRegex text)

/-- A set of components: `<a>`, `[<a><b>]` or, for all others, `[^<a><b>]`. Its members are those
before the first fault, if there is one. -/
structure MemberSet where
  text : List Char
  inclusion : Bool
  members : List Member
  fault : Option Fault

namespace MemberSet

/-- The members in square brackets. -/
def readMembers (ignoreCase : Bool) (whole : List Char) (s : List Char) :
    List Member × Option Fault :=
  match s with
  | [] => ([], none)
  | '<' :: s =>
    match h : Bracket.close? '<' '>' s with
    | none => ([], some (.unclosed '<' s whole))
    | some (inside, rest) =>
      match Member.read ignoreCase inside with
      | .error e => ([], some (.refused e))
      | .ok m =>
        have : rest.length < s.length := by have := Bracket.length_of_close? h; omega
        let (ms, fault) := readMembers ignoreCase whole rest
        (m :: ms, fault)
  | s => ([], some (.refused (.unexpected whole s)))
termination_by s.length
decreasing_by simp; omega

def read (ignoreCase : Bool) (text : List Char) : MemberSet :=
  let faulty (f : Fault) : MemberSet := ⟨text, true, [], some f⟩
  match text with
  | [] => faulty (.refused (.unexpected text text))
  | [_] => faulty (.refused (.unexpected text text))
  | '<' :: s =>
    match Bracket.close? '<' '>' s with
    | none => faulty (.unclosed '<' s text)
    | some (inside, []) =>
      match Member.read ignoreCase inside with
      | .error e => faulty (.refused e)
      | .ok m => ⟨text, true, [m], none⟩
    | some (_, rest) => faulty (.refused (.unexpected text rest))
  | '[' :: s =>
    if s.getLast? ≠ some ']' then faulty (.refused (.bracketMismatch text))
    else
      let (inclusion, body) := match s.dropLast with
        | '^' :: body => (false, body)
        | body => (true, body)
      let (members, fault) := readMembers ignoreCase text body
      ⟨text, inclusion, members, fault⟩
  | c :: _ => faulty (.refused (.unexpected text [c]))

end MemberSet

/-- What a pattern says, item by item, up to its end or to its first fault. Every item holds its
own text. -/
inductive Pattern where
  | done
  | fault (fault : Fault)
  /-- A group without a quantifier, with the pattern inside it. -/
  | group (text : List Char) (inner rest : Pattern)
  | repeatGroup (text atom : List Char) (inner : Pattern) (bounds : Except CompileError Bounds)
      (rest : Pattern)
  /-- A set of components with its quantifier, which may be empty. -/
  | repeatSet (text : List Char) (atom : MemberSet) (bounds : Except CompileError Bounds)
      (rest : Pattern)

namespace Pattern

/-- Cuts the quantifier off the front of a text. There is none if a brace is not closed. -/
def cutQuantifier? : List Char → Option (List Char × List Char)
  | '+' :: s => some (['+'], s)
  | '?' :: s => some (['?'], s)
  | '*' :: s => some (['*'], s)
  | '{' :: s =>
    match s.dropWhile (· != '}') with
    | [] => none
    | brace :: rest => some ('{' :: s.takeWhile (· != '}') ++ [brace], rest)
  | s => some ([], s)

theorem append_of_cutQuantifier? {s q rest : List Char} (h : cutQuantifier? s = some (q, rest)) :
    q ++ rest = s := by
  unfold cutQuantifier? at h
  split at h
  · obtain ⟨rfl, rfl⟩ := Prod.mk.inj (Option.some.inj h); rfl
  · obtain ⟨rfl, rfl⟩ := Prod.mk.inj (Option.some.inj h); rfl
  · obtain ⟨rfl, rfl⟩ := Prod.mk.inj (Option.some.inj h); rfl
  · next s =>
    split at h
    · simp at h
    · next hd =>
      obtain ⟨rfl, rfl⟩ := Prod.mk.inj (Option.some.inj h)
      have := List.takeWhile_append_dropWhile (p := (· != '}')) (l := s)
      rw [hd] at this
      simpa using this
  · obtain ⟨rfl, rfl⟩ := Prod.mk.inj (Option.some.inj h); rfl

/-- Reads the items of a pattern. Messages quote `whole`, the pattern they belong to. -/
def readItems (ignoreCase : Bool) (whole s : List Char) : Pattern :=
  match s with
  | [] => .done
  | c :: s =>
    match Bracket.closing? c with
    | none => .fault (.refused (.unexpected whole [c]))
    | some closing =>
      match h : Bracket.close? c closing s with
      | none => .fault (.unclosed c s whole)
      | some (inside, rest) =>
        match hq : cutQuantifier? rest with
        | none => .fault (.refused (.missingRightBrace whole))
        | some (q, rest) =>
          have : inside.length + rest.length < s.length := by
            have := Bracket.length_of_close? h
            rw [← append_of_cutQuantifier? hq] at this
            simp at this
            omega
          let atom := c :: inside ++ [closing]
          let text := atom ++ q
          if c = '(' then
            let inner := readItems ignoreCase inside inside
            if q.isEmpty then .group text inner (readItems ignoreCase whole rest)
            else .repeatGroup text atom inner (Bounds.read text q) (readItems ignoreCase whole rest)
          else
            .repeatSet text (.read ignoreCase atom) (Bounds.read text q)
              (readItems ignoreCase whole rest)
termination_by s.length
decreasing_by all_goals simp; omega

/-- Reads a pattern: sets and groups, each with a quantifier. -/
def read (ignoreCase : Bool) (text : List Char) : Pattern := readItems ignoreCase text text

/-- What stands between the parentheses of a group. -/
def inside? : List Char → Option (List Char)
  | '(' :: s => if s.getLast? = some ')' then some s.dropLast else none
  | _ => none

/-- The pattern inside a group. -/
def readGroup (ignoreCase : Bool) (text : List Char) : Pattern :=
  match inside? text with
  | some inside => read ignoreCase inside
  | none => .fault (.refused (.bracketMismatch text))

end Pattern

end NamePattern
