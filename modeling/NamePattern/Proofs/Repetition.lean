import NamePattern.Pattern.Repetition
import NamePattern.Proofs.Attempt
import NamePattern.Proofs.Language

/-! The stack of repetitions in progress does what a plain recursion does, and the recursion
finds a cut of the run into repetitions if there is one. -/
namespace NamePattern

namespace Repetition

/-- Repetition as a plain recursion: `made` repetitions have been made, and the next one may take
any of the `length` components that are left, the longest run first. -/
def recur (attempt : Nat → Nat → Attempt) (bounds : Bounds) (made offset length : Nat) : Attempt :=
  if _hl : length = 0 then fun s => (decide (bounds.min ≤ made), s)
  else if made < bounds.max then
    Attempt.longestFirst (fun t =>
      if _ht : made < bounds.min ∨ 0 < t then
        (attempt offset t).andThen (recur attempt bounds (made + 1) (offset + t) (length - t))
      else .fail) length
  else .fail
termination_by bounds.min - made + length

variable (attempt : Nat → Nat → Attempt) (bounds : Bounds)

/-- One repetition of `t` components, and those that follow it. -/
def next (made offset length t : Nat) : Attempt :=
  if made < bounds.min ∨ 0 < t then
    (attempt offset t).andThen (recur attempt bounds (made + 1) (offset + t) (length - t))
  else .fail

/-- What a repetition in progress still tries. -/
def Frame.resume (f : Frame) : Attempt :=
  match f.untried with
  | 0 => .fail
  | t + 1 => .longestFirst (next attempt bounds f.made f.offset f.length) t

theorem recur_zero (made offset : Nat) :
    recur attempt bounds made offset 0 = fun s => (decide (bounds.min ≤ made), s) := by
  rw [recur, dif_pos rfl]

theorem recur_of_lt {made length : Nat} (offset : Nat) (hl : length ≠ 0) (hm : made < bounds.max) :
    recur attempt bounds made offset length =
      .longestFirst (next attempt bounds made offset length) length := by
  rw [recur, dif_neg hl, if_pos hm]
  rfl

theorem recur_of_ge {made length : Nat} (offset : Nat) (hl : length ≠ 0) (hm : bounds.max ≤ made) :
    recur attempt bounds made offset length = .fail := by
  rw [recur, dif_neg hl, if_neg (by omega)]

variable {attempt bounds} {single : Bool}

theorem longestFirst_eq_of_fail {f : Nat → Attempt} (h : ∀ t, 1 < t → f t = .fail) (n : Nat) :
    Attempt.longestFirst f (n + 1) = Attempt.longestFirst f 1 := by
  induction n with
  | zero => rfl
  | succ n ih =>
    rw [Attempt.longestFirst, h (n + 2) (by omega), ih]
    rfl

/-- A repetition that is entered does what the recursion does from there on. -/
theorem resume_entered (hsingle : single = true → ∀ offset t, t ≠ 1 → attempt offset t = .fail)
    {made offset length : Nat} (hl : length ≠ 0) (hm : made < bounds.max) :
    Frame.resume attempt bounds ⟨made, offset, length, if single then 2 else length + 1⟩ =
      recur attempt bounds made offset length := by
  rw [recur_of_lt attempt bounds offset hl hm]
  cases single with
  | false => rfl
  | true =>
    obtain ⟨n, rfl⟩ := Nat.exists_eq_succ_of_ne_zero hl
    refine (longestFirst_eq_of_fail (fun t ht => ?_) n).symm
    unfold next
    rw [hsingle rfl offset t (by omega)]
    exact ite_self _

theorem any_resume_succ (made offset length t : Nat) (below : List Frame) :
    Attempt.any (Frame.resume attempt bounds) (⟨made, offset, length, t + 1⟩ :: below) =
      (next attempt bounds made offset length t).orElse
        (Attempt.any (Frame.resume attempt bounds) (⟨made, offset, length, t⟩ :: below)) := by
  cases t with
  | zero => rfl
  | succ t => exact Attempt.orElse_assoc

theorem any_enter (hsingle : single = true → ∀ offset t, t ≠ 1 → attempt offset t = .fail)
    (made offset length : Nat) (stack : List Frame) (s : Slots) :
    (recur attempt bounds made offset length).orElse
        (Attempt.any (Frame.resume attempt bounds) stack) s =
      match enter bounds single made stack offset length with
      | none => (true, s)
      | some stack => Attempt.any (Frame.resume attempt bounds) stack s := by
  by_cases hl : length = 0
  · rw [hl, recur_zero, enter, if_pos rfl]
    by_cases hm : bounds.min ≤ made <;> simp [Attempt.orElse, hm]
  · rw [enter, if_neg hl]
    by_cases hm : made < bounds.max
    · rw [if_pos hm, ← resume_entered hsingle hl hm]
      rfl
    · rw [if_neg hm, recur_of_ge attempt bounds offset hl (by omega)]
      rfl

/-- The loop resumes the repetitions in progress from the uppermost one on, until one succeeds. -/
theorem loop_eq_any (hsingle : single = true → ∀ offset t, t ≠ 1 → attempt offset t = .fail)
    (stack : List Frame) (s : Slots) :
    loop attempt bounds single stack s = Attempt.any (Frame.resume attempt bounds) stack s := by
  fun_induction loop attempt bounds single stack s with
  | case1 s => rfl
  | case2 _ _ _ below s ih => rw [ih]; rfl
  | case3 made offset length t below s ht s' hs henter =>
    rw [any_resume_succ, next, if_pos ht, Attempt.andThen_orElse_of_true hs, any_enter hsingle,
      henter]
  | case4 made offset length t below s ht s' hs stack henter ih =>
    rw [any_resume_succ, next, if_pos ht, Attempt.andThen_orElse_of_true hs, any_enter hsingle,
      henter, ih]
  | case5 made offset length t below s ht s' hs ih =>
    rw [any_resume_succ, next, if_pos ht, Attempt.andThen_orElse_of_false hs, ih]
  | case6 made offset length t below s ht ih =>
    obtain rfl : t = 0 := by omega
    rw [any_resume_succ, next, if_neg ht, ih]
    rfl

/-- A run of repetitions is the recursion from its start. -/
theorem run_eq_recur (hsingle : single = true → ∀ offset t, t ≠ 1 → attempt offset t = .fail)
    (offset length : Nat) :
    run attempt bounds single offset length = recur attempt bounds 0 offset length := by
  funext s
  unfold run
  split
  · next h =>
    rw [h.2, recur_zero, h.1]
    rfl
  · next h =>
    have hs : (recur attempt bounds 0 offset length).orElse .fail s = _ :=
      any_enter hsingle 0 offset length [] s
    rw [Attempt.orElse_fail] at hs
    rw [hs]
    split <;> next he => simp only [he, Attempt.succeed, loop_eq_any hsingle]

end Repetition

namespace Bounds

variable {β : Type} {bounds : Bounds} {L : List β → Prop} {made : Nat} {w : List β}

/-- A run is cut into the repetitions that are still to be made after `made` others. -/
def Completes (bounds : Bounds) (L : List β → Prop) (made : Nat) (w : List β) : Prop :=
  ∃ parts : List (List β), parts.flatten = w ∧ bounds.min ≤ made + parts.length ∧
    made + parts.length ≤ bounds.max ∧ (∀ u ∈ parts, L u) ∧ parts.getLast? ≠ some []

theorem completes_nil : bounds.Completes L made [] ↔ bounds.min ≤ made ∧ made ≤ bounds.max := by
  constructor
  · rintro ⟨parts, hw, hmin, hmax, -, hlast⟩
    cases hp : parts.getLast? with
    | none =>
      obtain rfl := List.getLast?_eq_none_iff.mp hp
      exact ⟨hmin, hmax⟩
    | some u =>
      have hu : u = [] := List.flatten_eq_nil_iff.mp hw u (List.mem_of_getLast? hp)
      exact absurd (hu ▸ hp) hlast
  · rintro ⟨hmin, hmax⟩
    exact ⟨[], rfl, by simpa using hmin, by simpa using hmax, by simp, by simp⟩

/-- A part may be empty only while `min` is not reached: beyond that, empty parts are left out. -/
theorem completes_step (hw : w ≠ []) :
    bounds.Completes L made w ↔ made < bounds.max ∧ ∃ u v, w = u ++ v ∧
      (made < bounds.min ∨ u ≠ []) ∧ L u ∧ bounds.Completes L (made + 1) v := by
  constructor
  · rintro ⟨parts, rfl, hmin, hmax, hL, hlast⟩
    induction parts with
    | nil => simp at hw
    | cons u parts ih =>
      have hlast' : parts.getLast? ≠ some [] := by
        intro h
        simp [List.getLast?_cons, h] at hlast
      simp only [List.length_cons] at hmin hmax
      by_cases hu : made < bounds.min ∨ u ≠ []
      · exact ⟨by omega, u, parts.flatten, by simp, hu, hL u (by simp), parts, rfl, by omega,
          by omega, fun v hv => hL v (by simp [hv]), hlast'⟩
      · obtain ⟨hmade, rfl⟩ : ¬made < bounds.min ∧ u = [] := by simpa using hu
        simpa using ih (by simpa using hw) (by omega) (by omega)
          (fun v hv => hL v (by simp [hv])) hlast'
  · rintro ⟨hmade, u, v, rfl, hu, hLu, parts, rfl, hmin, hmax, hL, hlast⟩
    refine ⟨u :: parts, by simp, by simp; omega, by simp; omega, by simpa using ⟨hLu, hL⟩, ?_⟩
    cases parts with
    | nil => simpa using hw
    | cons p ps => simpa using hlast

theorem repeats_iff_completes : bounds.Repeats L w ↔ bounds.Completes L 0 w := by
  by_cases hw : w = []
  · subst hw
    simp [Repeats, completes_nil]
  · simp [Repeats, Completes, hw]

end Bounds

namespace Repetition

variable {attempt : Nat → Nat → Attempt} {bounds : Bounds} {L : List Nat → Prop}

/-- If the repeated attempt decides a language, then so does the repetition. -/
theorem recur_decides (h : ∀ o t, (attempt o t).Decides (L (List.range' o t))) {made : Nat}
    (hmade : made ≤ bounds.max) (offset length : Nat) :
    (recur attempt bounds made offset length).Decides
      (bounds.Completes L made (List.range' offset length)) := by
  -- A part that takes nothing is one of the first `min`, so the sum gets smaller in any case.
  induction hn : bounds.min - made + length using Nat.strongRecOn generalizing made offset length with
  | ind n ih =>
    by_cases hl : length = 0
    · subst hl
      intro s
      rw [recur_zero, List.range'_zero, Bounds.completes_nil]
      simp [hmade]
    have hw : List.range' offset length ≠ [] := by simpa using hl
    by_cases hmax : made < bounds.max
    · have hnext : ∀ t, (next attempt bounds made offset length t).Decides
          ((made < bounds.min ∨ 0 < t) ∧ L (List.range' offset t) ∧
            bounds.Completes L (made + 1) (List.range' (offset + t) (length - t))) := by
        intro t
        by_cases ht : made < bounds.min ∨ 0 < t
        · rw [next, if_pos ht]
          have hrest : (recur attempt bounds (made + 1) (offset + t) (length - t)).Decides
              (bounds.Completes L (made + 1) (List.range' (offset + t) (length - t))) :=
            ih _ (by omega) (by omega) _ _ rfl
          exact ((h offset t).andThen hrest).congr (by simp [ht])
        · rw [next, if_neg ht]
          exact Attempt.Decides.fail.congr (by simp [ht])
      rw [recur_of_lt attempt bounds offset hl hmax]
      refine (Attempt.Decides.longestFirst hnext length).congr ?_
      rw [Bounds.completes_step hw, exists_range'_eq_append]
      simp [hmax, Nat.pos_iff_ne_zero]
    · rw [recur_of_ge attempt bounds offset hl (by omega)]
      refine Attempt.Decides.fail.congr ?_
      rw [Bounds.completes_step hw]
      simp [hmax]

end Repetition

end NamePattern
