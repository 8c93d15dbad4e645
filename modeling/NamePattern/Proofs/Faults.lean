import NamePattern.Proofs.Built
import NamePattern.Proofs.Grammar

/-! The first fault in a text. A text of the grammar can only have too many brackets. -/
namespace NamePattern

open NamePattern.Bracket (Balanced Countable)

namespace Fault

def of? {α : Type} : Except CompileError α → Option Fault
  | .error e => some (.refused e)
  | .ok _ => none

theorem of?_eq_none {α : Type} {x : Except CompileError α} : of? x = none ↔ ∃ v, x = .ok v := by
  cases x <;> simp [of?]

theorem of?_eq_some {α : Type} {x : Except CompileError α} {f : Fault} :
    of? x = some f ↔ ∃ e, x = .error e ∧ f = .refused e := by
  cases x <;> simp [of?, eq_comm]

end Fault

namespace Pattern

/-- The first fault in a pattern. Items count from left to right, and the bounds of an item after what
they repeat. -/
def fault? : Pattern → Option Fault
  | .done => none
  | .fault f => some f
  | .group _ inner rest => inner.fault?.or rest.fault?
  | .repeatGroup _ _ inner bounds rest => (inner.fault?.or (Fault.of? bounds)).or rest.fault?
  | .repeatSet _ atom bounds rest => (atom.fault.or (Fault.of? bounds)).or rest.fault?

theorem sound_iff_fault? {p : Pattern} : p.Sound ↔ p.fault? = none := by
  induction p with
  | done => simp [Sound, fault?]
  | fault f => simp [Sound, fault?]
  | group text inner rest hinner hrest =>
    rw [Sound, fault?, Option.or_eq_none_iff, hinner, hrest]
  | repeatGroup text atom inner bounds rest hinner hrest =>
    rw [Sound, fault?, Option.or_eq_none_iff, Option.or_eq_none_iff, hinner, hrest,
      Fault.of?_eq_none, and_assoc]
  | repeatSet text atom bounds rest hrest =>
    rw [Sound, fault?, Option.or_eq_none_iff, Option.or_eq_none_iff, hrest, Fault.of?_eq_none,
      and_assoc]

/-- The fault of what a quantifier stands behind: a group, or else a set. -/
def atomFault? (ignoreCase : Bool) (atom : List Char) : Option Fault :=
  if atom.head? = some '(' then (readGroup ignoreCase atom).fault?
  else (MemberSet.read ignoreCase atom).fault

theorem atomFault?_group (ignoreCase : Bool) (inside : List Char) :
    atomFault? ignoreCase ('(' :: inside ++ [')']) = (read ignoreCase inside).fault? := by
  have hhead : ('(' :: inside ++ [')']).head? = some '(' := rfl
  rw [atomFault?, if_pos hhead, readGroup_enclosed]

theorem atomFault?_set {c : Char} (hc : c ≠ '(') (ignoreCase : Bool) (s : List Char) :
    atomFault? ignoreCase (c :: s) = (MemberSet.read ignoreCase (c :: s)).fault := by
  have hhead : (c :: s).head? ≠ some '(' := fun h => hc (Option.some.inj h)
  rw [atomFault?, if_neg hhead]

/-- The first item of a text and the items behind it. A group without a quantifier is like one with an
empty quantifier. -/
theorem fault?_readItems {c closing : Char} {s inside rest rest' q : List Char}
    (hc : Bracket.closing? c = some closing) (hcut : Bracket.close? c closing s = some (inside, rest))
    (hq : cutQuantifier? rest = some (q, rest')) (ignoreCase : Bool) (whole : List Char) :
    (readItems ignoreCase whole (c :: s)).fault? =
      ((atomFault? ignoreCase (c :: inside ++ [closing])).or
        (Fault.of? (Bounds.read (c :: inside ++ [closing] ++ q) q))).or
          (readItems ignoreCase whole rest').fault? := by
  rw [readItems_item hc hcut hq]
  by_cases hgroup : c = '('
  · rw [hgroup] at hc ⊢
    have hclosing : closing = ')' := (Option.some.inj hc).symm
    rw [if_pos rfl, hclosing, atomFault?_group]
    cases q with
    | nil =>
      have honce (pattern : List Char) : Fault.of? (Bounds.read pattern []) = none := rfl
      rw [honce, Option.or_none]
      rfl
    | cons d q => rfl
  · rw [if_neg hgroup, List.cons_append, atomFault?_set hgroup]
    rfl

end Pattern

namespace Call

/-- The first fault in the text of a call. -/
def fault? (ignoreCase : Bool) : Call → Option Fault
  | component text => Fault.of? (Member.read ignoreCase text)
  | componentSet text => (MemberSet.read ignoreCase text).fault
  | backref text => (Pattern.readGroup ignoreCase text).fault?
  | repeatAt text indicator =>
    match Text.splitAtByte? indicator text with
    | none => some (.refused (.unexpected text text))
    | some (atom, quantifier) =>
      (Pattern.atomFault? ignoreCase atom).or (Fault.of? (Bounds.read text quantifier))
  | patternList text => (Pattern.read ignoreCase text).fault?

end Call

section

variable {ignoreCase : Bool} {o c : Char} {whole inside regex : List Char} {f : Fault}

/-- An item with too many brackets is not read. -/
theorem Pattern.readItems_of_not_countable (ignoreCase : Bool)
    (hc : Bracket.closing? o = some c) (hbalanced : Balanced o c inside)
    (h : ¬ Countable o inside) (whole rest : List Char) :
    readItems ignoreCase whole (o :: (inside ++ c :: rest)) = .fault (.overflow whole) := by
  have hne := Bracket.ne_of_closing? hc
  rw [readItems_cons, hc]
  simp only [Bracket.close?_of_not_countable hne hbalanced h,
    Bracket.unclosed_of_balanced hne hbalanced h]

end

end NamePattern
