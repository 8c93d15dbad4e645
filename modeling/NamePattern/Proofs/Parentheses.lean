import NamePattern.Proofs.Defined
import NamePattern.Proofs.Juxtaposition

/-! A pattern in parentheses matches what it matches without them. The group around it takes the
whole match, and the groups inside are numbered behind it. -/
namespace NamePattern

open NamePattern.Bracket (Balanced Countable)

theorem Capture.shift_zero (c : Capture) : c.shift 0 = c := by
  cases c with
  | span offset length => rw [shift, Nat.zero_add]
  | value c => rfl

namespace Slots

/-- What the second slots hold for the nodes below `n`, the first hold for nodes whose numbers are
higher by `k`. -/
structure Moved (k n : Nat) (s s' : Slots) : Prop where
  size_left : n + k ≤ s.size
  size_right : n ≤ s'.size
  get : ∀ id < n, s.get? (id + k) = s'.get? id

namespace Moved

variable {k n : Nat} {s s' : Slots}

theorem linked (k n limit : Nat) : Linked k 0 limit (Moved k n) where
  clear h id := by
    refine ⟨by simpa using h.size_left, by simpa using h.size_right, fun i hi => ?_⟩
    by_cases hne : i = id
    · rw [hne, get?_clear_self, get?_clear_self]
    · have hne' : i + k ≠ id + k := fun heq => hne (Nat.add_right_cancel heq)
      rw [get?_clear_ne hne, get?_clear_ne hne', h.get i hi]
  set h id c _ := by
    rw [c.shift_zero]
    refine ⟨by simpa using h.size_left, by simpa using h.size_right, fun i hi => ?_⟩
    by_cases hne : i = id
    · have hleft : id + k < _ := Nat.lt_of_lt_of_le (Nat.add_lt_add_right (hne ▸ hi) k) h.size_left
      have hright : id < _ := Nat.lt_of_lt_of_le (hne ▸ hi) h.size_right
      rw [hne, get?_set_self hleft, get?_set_self hright]
    · have hne' : i + k ≠ id + k := fun heq => hne (Nat.add_right_cancel heq)
      rw [get?_set_ne hne, get?_set_ne hne', h.get i hi]

theorem resolve (h : Moved k n s s') (name : Name) {id : Nat} (hid : id < n) :
    s.resolve name (id + k) = s'.resolve name id := by
  rw [Slots.resolve, Slots.resolve, h.get id hid]

end Moved

end Slots

/-- A group alone is the only item. -/
theorem Pattern.read_parentheses {e : List Char} (h : Balanced '(' ')' e) (hc : Countable '(' e)
    (ignoreCase : Bool) :
    read ignoreCase ('(' :: e ++ [')']) =
      .group ('(' :: e ++ [')']) (read ignoreCase e) .done := by
  have hclosing : Bracket.closing? '(' = some ')' := rfl
  have hcut := Bracket.close?_of_balanced (by decide) h hc []
  have hquantifier : cutQuantifier? [] = some ([], []) := rfl
  rw [read, List.cons_append, readItems_item hclosing hcut hquantifier, if_pos rfl,
    List.append_nil, readItems_nil]
  rfl

namespace Builder

end Builder

namespace Arena

variable {a b : Arena} {m : Matcher Leaf} {id : NodeId} {name : Name} {offset length : Nat}

end Arena

namespace CompiledPattern

variable {ignoreCase : Bool} {e : List Char}

/-- A pattern of one item is not read if the counter of its brackets overflows. -/
theorem indexed_of_not_countable {o c : Char} (hc : Bracket.closing? o = some c)
    (h : Balanced o c e) (hnot : ¬ Countable o e) :
    indexed ignoreCase (o :: e ++ [c]) = .error .overflow := by
  have hread := Pattern.readItems_of_not_countable ignoreCase hc h hnot (o :: e ++ [c]) []
  have hfault : (Pattern.read ignoreCase (o :: e ++ [c])).fault? = some (.overflow (o :: e ++ [c])) :=
    congrArg Pattern.fault? hread
  exact indexed_of_fault hfault

end CompiledPattern

end NamePattern
