/-! Functions on numbers that compute no value twice. -/
namespace NamePattern

/-- Values of a function in rows, each value and each row computed when it is first asked for. -/
structure Memo (α : Type) where
  rows : Array (Thunk (Array (Thunk α)))

namespace Memo

/-- How many values a row holds. -/
def width : Nat := 64

/-- The row of the values from `start` on. -/
def row {α : Type} (f : Nat → α) (start : Nat) : Array (Thunk α) :=
  Array.ofFn fun i : Fin width => Thunk.mk fun _ => f (start + i)

/-- The values of a function on the numbers below `n` at least. -/
def ofFn {α : Type} (n : Nat) (f : Nat → α) : Memo α :=
  ⟨Array.ofFn fun r : Fin (n / width + 1) => Thunk.mk fun _ => row f (width * r)⟩

/-- The value at a number, if it is in range. -/
def get? {α : Type} (m : Memo α) (i : Nat) : Option α :=
  match m.rows[i / width]? with
  | some row =>
    match row.get[i % width]? with
    | some value => some value.get
    | none => none
  | none => none

theorem get?_ofFn {α : Type} {n i : Nat} (f : Nat → α) (h : i < n) :
    (ofFn n f).get? i = some (f i) := by
  have hr : i / width < n / width + 1 := Nat.lt_succ_of_le (Nat.div_le_div_right (Nat.le_of_lt h))
  have hc : i % width < width := Nat.mod_lt i (by decide)
  have hi : width * (i / width) + i % width = i := Nat.div_add_mod i width
  simp [get?, ofFn, row, hr, hc, Thunk.get, hi]

/-- A value beyond the range may be there, but no other value than that of the function is. -/
theorem get?_ofFn_or {α : Type} (n i : Nat) (f : Nat → α) :
    (ofFn n f).get? i = some (f i) ∨ (ofFn n f).get? i = none := by
  have hi : width * (i / width) + i % width = i := Nat.div_add_mod i width
  have hc : i % width < width := Nat.mod_lt i (by decide)
  by_cases hr : i / width < n / width + 1
  · left
    simp [get?, ofFn, row, hr, hc, Thunk.get, hi]
  · right
    simp [get?, ofFn, hr]

end Memo

end NamePattern
