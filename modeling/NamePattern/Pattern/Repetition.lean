import NamePattern.Pattern.Slots

/-! Repeated matching of one node, with the repetitions in progress on a stack. -/
namespace NamePattern.Repetition

/-- One repetition in progress: how many were made before it, the components it may take, and how
many lengths are left to try. The next is `untried - 1`, and the last is zero. -/
structure Frame where
  made : Nat
  offset : Nat
  length : Nat
  untried : Nat

/-- Bounds the steps that trying one length can cost a repetition of a given rank. -/
def weight : Nat → Nat
  | 0 => 1
  | n + 1 => (n + 1) * weight n + 2

/-- Bounds the steps that a stack can still cost. A repetition ranks by the repetitions missing
to `min` and the components that are left: each one ranks below the one that it follows. -/
def cost (min : Nat) : List Frame → Nat
  | [] => 0
  | f :: below => f.untried * weight (min - f.made + f.length) + 1 + cost min below

/-- The stack on which the next repetition has `length` components left after `made` others, or
nothing if these are enough. -/
def enter (bounds : Bounds) (single : Bool) (made : Nat) (stack : List Frame)
    (offset length : Nat) : Option (List Frame) :=
  if length = 0 then
    if bounds.min ≤ made then none else some stack
  else if made < bounds.max then
    some (⟨made, offset, length, if single then 2 else length + 1⟩ :: stack)
  else some stack

theorem weight_pos (n : Nat) : 0 < weight n := by
  cases n <;> simp [weight]

theorem weight_mono {m n : Nat} (h : m ≤ n) : weight m ≤ weight n := by
  induction n with
  | zero =>
    obtain rfl := Nat.le_zero.mp h
    exact Nat.le_refl _
  | succ n ih =>
    rcases Nat.lt_or_eq_of_le h with h | rfl
    · have h1 := ih (by omega)
      have h2 : weight n ≤ (n + 1) * weight n := Nat.le_mul_of_pos_left _ (by omega)
      simp only [weight]
      omega
    · exact Nat.le_refl _

/-- A repetition that follows another costs less than trying one length of the other. -/
theorem cost_enter {bounds : Bounds} {single : Bool} {made offset length t : Nat}
    {below stack : List Frame} (ht : made < bounds.min ∨ 0 < t)
    (h : enter bounds single (made + 1) (⟨made, offset, length, t⟩ :: below) (offset + t)
      (length - t) = some stack) :
    cost bounds.min stack < cost bounds.min (⟨made, offset, length, t + 1⟩ :: below) := by
  have hw := weight_pos (bounds.min - made + length)
  have keep : cost bounds.min (⟨made, offset, length, t⟩ :: below) <
      cost bounds.min (⟨made, offset, length, t + 1⟩ :: below) := by
    simp only [cost, Nat.add_mul]
    omega
  unfold enter at h
  split at h
  · split at h
    · simp at h
    · exact Option.some.inj h ▸ keep
  · next hl =>
    split at h
    · obtain rfl := Option.some.inj h
      obtain ⟨n, hn⟩ : ∃ n, bounds.min - made + length = n + 1 :=
        ⟨bounds.min - made + length - 1, by omega⟩
      have hr : bounds.min - (made + 1) + (length - t) ≤ n := by omega
      have hm := weight_mono hr
      have hu : (if single then 2 else length - t + 1) ≤ n + 1 := by split <;> omega
      have := Nat.mul_le_mul hu hm
      simp only [cost, hn, Nat.add_mul t 1, weight] at this ⊢
      omega
    · exact Option.some.inj h ▸ keep

/-- Works on the uppermost repetition of the stack. A repetition may take nothing only while `min`
is not reached. One whose lengths are used up is given up, and the one below it goes on. -/
def loop (attempt : Nat → Nat → Attempt) (bounds : Bounds) (single : Bool) :
    List Frame → Attempt
  | [], s => (false, s)
  | ⟨_, _, _, 0⟩ :: below, s => loop attempt bounds single below s
  | ⟨made, offset, length, t + 1⟩ :: below, s =>
    if _ht : made < bounds.min ∨ 0 < t then
      match attempt offset t s with
      | (true, s) =>
        match _h : enter bounds single (made + 1) (⟨made, offset, length, t⟩ :: below) (offset + t)
            (length - t) with
        | none => (true, s)
        | some stack => loop attempt bounds single stack s
      | (false, s) => loop attempt bounds single (⟨made, offset, length, t⟩ :: below) s
    else loop attempt bounds single below s
termination_by stack => cost bounds.min stack
decreasing_by
  · simp [cost]
  · exact cost_enter _ht _h
  · have := weight_pos (bounds.min - made + length)
    simp only [cost, Nat.succ_mul]
    omega
  · simp [cost]

/-- Matches a run of repetitions that takes exactly `length` components, trying longer ones first.
`single` tells that one repetition takes exactly one component. -/
def run (attempt : Nat → Nat → Attempt) (bounds : Bounds) (single : Bool)
    (offset length : Nat) : Attempt :=
  if bounds.min = 0 ∧ length = 0 then .succeed
  else
    match enter bounds single 0 [] offset length with
    | none => .succeed
    | some stack => loop attempt bounds single stack

end NamePattern.Repetition
