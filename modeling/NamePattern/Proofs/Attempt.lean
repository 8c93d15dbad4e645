import NamePattern.Pattern.Slots

/-! When attempts succeed, which of several made it, and which slots they write. -/
namespace NamePattern

namespace Slots

/-- The number of nodes that slots are there for. -/
def size (s : Slots) : Nat := s.captures.size

@[simp] theorem size_set (s : Slots) (id : NodeId) (c : Capture) : (s.set id c).size = s.size := by
  simp [size, set]

@[simp] theorem size_clear (s : Slots) (id : NodeId) : (s.clear id).size = s.size := by
  simp [size, clear]

@[simp] theorem size_empty (n : Nat) : (empty n).size = n := by
  simp [size, empty]

theorem get?_set_self {s : Slots} {id : NodeId} (h : id < s.size) (c : Capture) :
    (s.set id c).get? id = some c := by
  unfold size at h
  simp [get?, set, h]

theorem get?_set_ne {s : Slots} {id other : NodeId} (h : other ≠ id) (c : Capture) :
    (s.set id c).get? other = s.get? other := by
  simp [get?, set, Array.getElem?_setIfInBounds_ne h.symm]

theorem get?_clear_ne {s : Slots} {id other : NodeId} (h : other ≠ id) :
    (s.clear id).get? other = s.get? other := by
  simp [get?, clear, Array.getElem?_setIfInBounds_ne h.symm]

end Slots

namespace Attempt

/-- An attempt succeeds in one case exactly, whatever the slots hold. -/
def Decides (f : Attempt) (p : Prop) : Prop := ∀ s, (f s).1 = true ↔ p

/-- An attempt writes no slots but those of some nodes, and adds and removes none. -/
structure Writes (f : Attempt) (ids : List NodeId) : Prop where
  size : ∀ s, (f s).2.size = s.size
  keeps : ∀ s, ∀ id ∉ ids, (f s).2.get? id = s.get? id

variable {α : Type} {f g : Attempt} {p q : Prop} {ids others : List NodeId} {s s' : Slots}

theorem andThen_eq_true (h : f.andThen g s = (true, s')) :
    ∃ t, f s = (true, t) ∧ g t = (true, s') := by
  unfold andThen at h
  split at h
  · next t ht => exact ⟨t, ht, h⟩
  · simp at h

theorem orElse_eq_true (h : f.orElse g s = (true, s')) :
    f s = (true, s') ∨ ∃ t, f s = (false, t) ∧ g t = (true, s') := by
  unfold orElse at h
  split at h
  · next t ht => exact .inl (ht.trans h)
  · next t ht => exact .inr ⟨t, ht, h⟩

@[simp] theorem fail_orElse : fail.orElse f = f := rfl

@[simp] theorem orElse_fail : f.orElse fail = f := by
  funext s
  simp only [orElse, fail]
  rcases f s with ⟨_ | _, t⟩ <;> rfl

theorem orElse_assoc {h : Attempt} : (f.orElse g).orElse h = f.orElse (g.orElse h) := by
  funext s
  simp only [orElse]
  rcases f s with ⟨_ | _, t⟩ <;> rfl

theorem andThen_orElse_of_true {h : Attempt} (hf : f s = (true, s')) :
    (f.andThen g).orElse h s = g.orElse h s' := by
  simp only [andThen, orElse, hf]

theorem andThen_orElse_of_false {h : Attempt} (hf : f s = (false, s')) :
    (f.andThen g).orElse h s = h s' := by
  simp only [andThen, orElse, hf]

/-- The longest length that succeeds is the last one tried. -/
theorem longestFirst_eq_true {attempt : Nat → Attempt} {n : Nat}
    (h : longestFirst attempt n s = (true, s')) :
    ∃ t ≤ n, (∃ s₁, attempt t s₁ = (true, s')) ∧
      ∀ u, t < u → u ≤ n → ∃ s₂, (attempt u s₂).1 = false := by
  induction n generalizing s with
  | zero => exact ⟨0, Nat.le_refl 0, ⟨s, h⟩, fun u hu hle => by omega⟩
  | succ n ih =>
    rcases orElse_eq_true h with h | ⟨t, hf, h⟩
    · exact ⟨n + 1, Nat.le_refl _, ⟨s, h⟩, fun u hu hle => by omega⟩
    · obtain ⟨k, hk, hs, hu⟩ := ih h
      refine ⟨k, by omega, hs, fun u hlt hle => ?_⟩
      rcases Nat.lt_or_eq_of_le hle with hlt' | rfl
      · exact hu u hlt (by omega)
      · exact ⟨s, by rw [hf]⟩

theorem any_eq_true {attempt : α → Attempt} {as : List α} (h : any attempt as s = (true, s')) :
    ∃ front a back, as = front ++ a :: back ∧ (∃ s₁, attempt a s₁ = (true, s')) ∧
      ∀ b ∈ front, ∃ s₂, (attempt b s₂).1 = false := by
  induction as generalizing s with
  | nil => simp [any, fail] at h
  | cons a as ih =>
    rcases orElse_eq_true h with h | ⟨t, hf, h⟩
    · exact ⟨[], a, as, rfl, ⟨s, h⟩, by simp⟩
    · obtain ⟨front, b, back, rfl, hs, hu⟩ := ih h
      refine ⟨a :: front, b, back, rfl, hs, ?_⟩
      rintro c hc
      rcases List.mem_cons.mp hc with rfl | hc
      · exact ⟨s, by rw [hf]⟩
      · exact hu c hc

namespace Decides

theorem congr (h : f.Decides p) (hpq : p ↔ q) : f.Decides q := fun s => (h s).trans hpq

protected theorem fail : fail.Decides False := by
  intro s
  simp [Attempt.fail]

protected theorem andThen (hf : f.Decides p) (hg : g.Decides q) :
    (f.andThen g).Decides (p ∧ q) := by
  intro s
  rw [← hf s]
  unfold Attempt.andThen
  split
  · next t ht => simp [ht, hg t]
  · next t ht => simp [ht]

protected theorem orElse (hf : f.Decides p) (hg : g.Decides q) : (f.orElse g).Decides (p ∨ q) := by
  intro s
  rw [← hf s]
  unfold Attempt.orElse
  split
  · next t ht => simp [ht]
  · next t ht => simp [ht, hg t]

protected theorem longestFirst {attempt : Nat → Attempt} {p : Nat → Prop}
    (h : ∀ t, (attempt t).Decides (p t)) (n : Nat) :
    (longestFirst attempt n).Decides (∃ t ≤ n, p t) := by
  induction n with
  | zero => exact (h 0).congr (by simp)
  | succ n ih =>
    refine ((h (n + 1)).orElse ih).congr ⟨?_, ?_⟩
    · rintro (hp | ⟨t, ht, hp⟩)
      · exact ⟨n + 1, Nat.le_refl _, hp⟩
      · exact ⟨t, by omega, hp⟩
    · rintro ⟨t, ht, hp⟩
      rcases Nat.lt_or_eq_of_le ht with ht | rfl
      · exact .inr ⟨t, by omega, hp⟩
      · exact .inl hp

protected theorem any {attempt : α → Attempt} {p : α → Prop}
    (h : ∀ a, (attempt a).Decides (p a)) (as : List α) :
    (any attempt as).Decides (∃ a ∈ as, p a) := by
  induction as with
  | nil => exact Decides.fail.congr (by simp)
  | cons a as ih => exact ((h a).orElse ih).congr (by simp)

theorem not_of_eq_false (h : f.Decides p) (hs : (f s).1 = false) : ¬p := by
  intro hp
  rw [(h s).mpr hp] at hs
  simp at hs

theorem of_eq_true (h : f.Decides p) (hs : f s = (true, s')) : p :=
  (h s).mp (by rw [hs])

end Decides

namespace Writes

theorem mono (h : f.Writes ids) (hsub : ids ⊆ others) : f.Writes others :=
  ⟨h.size, fun s id hid => h.keeps s id fun hmem => hid (hsub hmem)⟩

protected theorem fail : fail.Writes ids := ⟨fun _ => rfl, fun _ _ _ => rfl⟩

protected theorem andThen (hf : f.Writes ids) (hg : g.Writes ids) : (f.andThen g).Writes ids := by
  refine ⟨fun s => ?_, fun s id hid => ?_⟩
  · have hs := hf.size s
    unfold Attempt.andThen
    split <;> next t ht => simp only [ht] at hs; simp [hg.size, hs]
  · have hs := hf.keeps s id hid
    unfold Attempt.andThen
    split <;> next t ht => simp only [ht] at hs; simp [hg.keeps t id hid, hs]

protected theorem orElse (hf : f.Writes ids) (hg : g.Writes ids) : (f.orElse g).Writes ids := by
  refine ⟨fun s => ?_, fun s id hid => ?_⟩
  · have hs := hf.size s
    unfold Attempt.orElse
    split <;> next t ht => simp only [ht] at hs; simp [hg.size, hs]
  · have hs := hf.keeps s id hid
    unfold Attempt.orElse
    split <;> next t ht => simp only [ht] at hs; simp [hg.keeps t id hid, hs]

protected theorem longestFirst {attempt : Nat → Attempt} (h : ∀ t, (attempt t).Writes ids)
    (n : Nat) : (longestFirst attempt n).Writes ids := by
  induction n with
  | zero => exact h 0
  | succ n ih => exact (h (n + 1)).orElse ih

protected theorem any {attempt : α → Attempt} {as : List α}
    (h : ∀ a ∈ as, (attempt a).Writes ids) : (any attempt as).Writes ids := by
  induction as with
  | nil => exact Writes.fail
  | cons a as ih =>
    exact (h a (by simp)).orElse (ih fun b hb => h b (by simp [hb]))

end Writes

end Attempt

end NamePattern
