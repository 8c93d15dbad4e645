/-! Marks on numbers. All marks can be wiped at once, without a look at each. -/
namespace NamePattern.CharRegex

/-- A number is marked if its stamp is the current one. Wiping moves on to a stamp that has not
been used before. -/
structure Marks where
  stamps : Array Nat
  current : Nat
  le_current : ∀ s ∈ stamps, s ≤ current

namespace Marks

/-- No marks on the numbers below `n`. -/
def none (n : Nat) : Marks where
  stamps := Array.replicate n 0
  current := 1
  le_current s h := by simp_all

def has (m : Marks) (i : Nat) : Bool := m.stamps[i]? == some m.current

/-- Marks a number, if it is in range. -/
def add (m : Marks) (i : Nat) : Marks where
  stamps := m.stamps.setIfInBounds i m.current
  current := m.current
  le_current s h := by
    rcases Array.mem_or_eq_of_mem_setIfInBounds h with h | rfl
    · exact m.le_current s h
    · exact Nat.le_refl _

def wipe (m : Marks) : Marks where
  stamps := m.stamps
  current := m.current + 1
  le_current s h := Nat.le_succ_of_le (m.le_current s h)

@[simp] theorem has_none (n i : Nat) : (none n).has i = false := by
  simp only [has, none, Array.getElem?_replicate]
  split <;> rfl

@[simp] theorem has_wipe (m : Marks) (i : Nat) : m.wipe.has i = false := by
  simp only [has, wipe, beq_eq_false_iff_ne]
  intro h
  have := m.le_current _ (Array.mem_of_getElem? h)
  omega

theorem has_add (m : Marks) (i j : Nat) :
    (m.add i).has j = (m.has j || (i == j && i < m.stamps.size)) := by
  simp only [has, add, Array.getElem?_setIfInBounds]
  by_cases h : i = j
  · subst h
    by_cases hi : i < m.stamps.size <;> simp [hi]
  · simp [h]

end Marks

end NamePattern.CharRegex
