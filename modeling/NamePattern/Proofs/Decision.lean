import NamePattern.Pattern.Search
import NamePattern.Proofs.Repetition

/-! Matching decides the language of a pattern. -/
namespace NamePattern

/-- A leaf matches the component at a position. -/
def Answers.Hit (leaf : Answers) (i : Nat) : Prop := (leaf.get i).isSome = true

theorem Answers.run_decides (leaf : Answers) (offset length : Nat) :
    (leaf.run offset length).Decides (length = 1 ∧ leaf.Hit offset) := by
  intro s
  unfold Answers.run Answers.Hit
  by_cases hl : length = 1
  · cases leaf.get offset <;> simp [hl]
  · simp [hl]

theorem exists_range'_eq_singleton {offset length : Nat} {p : Nat → Prop} :
    (∃ i, List.range' offset length = [i] ∧ p i) ↔ length = 1 ∧ p offset := by
  constructor
  · rintro ⟨i, h, hp⟩
    obtain ⟨rfl, rfl⟩ : offset = i ∧ length = 1 := by
      have hl := congrArg List.length h
      simp only [List.length_range', List.length_singleton] at hl
      subst hl
      simpa using h
    exact ⟨rfl, hp⟩
  · rintro ⟨rfl, hp⟩
    exact ⟨offset, by simp, hp⟩

namespace Matcher

theorem run_set_of_ne {id : NodeId} {members : List Answers} {inclusion : Bool}
    {offset length : Nat} (h : length ≠ 1) :
    (set id members inclusion).run offset length = .fail := by
  funext s
  simp [run, h, Attempt.fail]

theorem run_set_one (id : NodeId) (members : List Answers) (inclusion : Bool) (offset : Nat)
    (s : Slots) :
    (set id members inclusion).run offset 1 s =
      (((Attempt.any (fun leaf : Answers => leaf.run offset 1) members s).1 == inclusion),
        (Attempt.any (fun leaf : Answers => leaf.run offset 1) members s).2) := by
  simp [run]

theorem run_group (id : NodeId) (inner : Matcher Answers) (offset length : Nat) (s : Slots) :
    (group id inner).run offset length s =
      match inner.run offset length (s.clear id) with
      | (true, s) => (true, s.set id (.span offset length))
      | (false, s) => (false, s) :=
  congrFun (run.eq_3 offset length id inner) s

theorem run_eq_fail_of_isSet {m : Matcher Answers} (hm : m.isSet = true) (offset t : Nat)
    (ht : t ≠ 1) : m.run offset t = .fail := by
  cases m with
  | set => exact run_set_of_ne ht
  | _ => simp [isSet] at hm

theorem run_repeated (id : NodeId) (inner : Matcher Answers) (bounds : Bounds)
    (offset length : Nat) :
    (repeated id inner bounds).run offset length =
      Repetition.recur inner.run bounds 0 offset length := by
  rw [run, Repetition.run_eq_recur run_eq_fail_of_isSet]

mutual

/-- A pattern matches a run exactly if the run is in its language. -/
theorem run_decides : ∀ (m : Matcher Answers) (offset length : Nat),
    (m.run offset length).Decides (m.Language Answers.Hit (List.range' offset length))
  | component _ leaf, offset, length => by
    rw [run, Language, exists_range'_eq_singleton]
    exact leaf.run_decides offset length
  | set _ members inclusion, offset, length => by
    rw [Language, exists_range'_eq_singleton]
    intro s
    by_cases hl : length = 1
    · subst hl
      have hany := Attempt.Decides.any (fun leaf => leaf.run_decides offset 1) members s
      rw [run_set_one, beq_iff_eq, Bool.eq_iff_iff, hany]
      simp
    · rw [run_set_of_ne hl]
      simp [hl, Attempt.fail]
  | group id inner, offset, length => by
    rw [Language]
    intro s
    rw [← run_decides inner offset length (s.clear id), run_group]
    split <;> next h => simp [h]
  | repeated _ inner bounds, offset, length => by
    rw [run_repeated, Language, Bounds.repeats_iff_completes]
    exact Repetition.recur_decides (run_decides inner) (Nat.zero_le _) offset length
  | list _ items, offset, length => by
    rw [run, Language]
    exact runItems_decides items offset length

theorem runItems_decides : ∀ (items : List (Matcher Answers)) (offset length : Nat),
    (runItems items offset length).Decides
      (ItemsLanguage Answers.Hit items (List.range' offset length))
  | [], offset, length => by
    intro s
    simp [runItems, ItemsLanguage]
  | item :: items, offset, length => by
    rw [runItems, ItemsLanguage, exists_range'_eq_append]
    exact .longestFirst (fun t =>
      (run_decides item offset t).andThen (runItems_decides items (offset + t) (length - t))) length

end

end Matcher

end NamePattern
