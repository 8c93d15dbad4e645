import NamePattern.Proofs.Frame
import NamePattern.Proofs.Windows

/-! A successful match settles on the greatest cuts, and the slots keep what it left in them last. -/
namespace NamePattern

namespace Repetition

variable {attempt : Nat → Nat → Attempt} {bounds : Bounds} {L : List Nat → Prop}
  {made offset length : Nat} {ts : List Nat}

theorem completes_of_parse
    (h : Parse (fun o t => L (List.range' o t)) bounds made offset length ts) :
    bounds.Completes L made (List.range' offset length) := by
  induction ts generalizing made offset length with
  | nil =>
    by_cases hl : length = 0
    · subst hl
      exact Bounds.completes_nil.mpr (parse_zero.mp h).2
    · exact absurd h (not_parse_nil hl)
  | cons t ts ih =>
    obtain ⟨hmade, ht, hpos, hfit, hrest⟩ := parse_cons.mp h
    have hl : length ≠ 0 := by
      rintro rfl
      exact absurd (parse_zero.mp h).1 (by simp)
    rw [Bounds.completes_step (by simpa using hl), exists_range'_eq_append]
    refine ⟨hmade, t, ht, ?_, hfit, ih hrest⟩
    rcases hpos with ⟨hmin, -⟩ | hpos
    · exact .inl hmin
    · exact .inr (by simpa using Nat.ne_of_gt hpos)

/-- Repetitions that succeed have made the last one on the last segment of the greatest cut. -/
theorem recur_eq_true (h : ∀ o t, (attempt o t).Decides (L (List.range' o t))) {s s' : Slots}
    (hl : length ≠ 0) (hs : recur attempt bounds made offset length s = (true, s')) :
    ∃ ts w, Greatest (Parse (fun o t => L (List.range' o t)) bounds made offset length) ts ∧
      (segments offset ts).getLast? = some w ∧ ∃ s₁, attempt w.1 w.2 s₁ = (true, s') := by
  induction hn : bounds.min - made + length using Nat.strongRecOn
    generalizing made offset length s with
  | ind n ih =>
    have hmax : made < bounds.max := by
      refine Nat.lt_of_not_le fun hle => ?_
      rw [recur_of_ge attempt bounds offset hl hle] at hs
      simp [Attempt.fail] at hs
    rw [recur_of_lt attempt bounds offset hl hmax] at hs
    obtain ⟨t, ht, ⟨s₁, hnext⟩, hlonger⟩ := Attempt.longestFirst_eq_true hs
    -- No cut begins with a longer segment, as the attempt to make it has failed.
    have hhead : ∀ u us, Parse (fun o t => L (List.range' o t)) bounds made offset length (u :: us) →
        u ≤ t := by
      intro u us hus
      obtain ⟨-, hu, hpos, hfit, hrest⟩ := parse_cons.mp hus
      refine Nat.le_of_not_lt fun hlt => ?_
      obtain ⟨s₂, hfail⟩ := hlonger u hlt hu
      rw [next, if_pos (hpos.imp_left And.left)] at hfail
      exact ((h offset u).andThen (recur_decides h hmax _ _)).not_of_eq_false hfail
        ⟨hfit, completes_of_parse hrest⟩
    have hpos : made < bounds.min ∨ 0 < t := by
      refine Decidable.byContradiction fun hpos => ?_
      rw [next, if_neg hpos] at hnext
      simp [Attempt.fail] at hnext
    rw [next, if_pos hpos] at hnext
    obtain ⟨s₂, hattempt, hrest⟩ := Attempt.andThen_eq_true hnext
    have hfit := (h offset t).of_eq_true hattempt
    by_cases hend : length - t = 0
    · obtain rfl : t = length := by omega
      rw [Nat.sub_self, recur_zero] at hrest
      obtain ⟨hmin, rfl⟩ : bounds.min ≤ made + 1 ∧ s₂ = s' := by simpa using hrest
      refine ⟨[t], (offset, t), .cons (parse_cons.mpr ?_) (not_parse_nil hl) hhead ?_, rfl, s₁,
        hattempt⟩
      · rw [Nat.sub_self, parse_zero]
        exact ⟨hmax, ht, .inr (by omega), hfit, rfl, hmin, hmax⟩
      · intro us hus
        obtain ⟨-, -, -, -, hus⟩ := parse_cons.mp hus
        rw [Nat.sub_self, parse_zero] at hus
        exact .inl hus.1
    · obtain ⟨ts, w, hts, hw, hlast⟩ := ih _ (by omega) hend hrest rfl
      have hne : ts ≠ [] := by
        rintro rfl
        exact not_parse_nil hend hts.1
      refine ⟨t :: ts, w, .cons (parse_cons.mpr ?_) (not_parse_nil hl) hhead ?_, ?_, hlast⟩
      · exact ⟨hmax, ht, hpos.imp_left fun hmin => ⟨hmin, hne⟩, hfit, hts.1⟩
      · exact fun us hus => hts.2 us (parse_cons.mp hus).2.2.2.2
      · rw [segments, List.getLast?_cons, hw]
        rfl

end Repetition

namespace Matcher

/-- Slots hold in the groups of a tree what a successful match of a run has left there. -/
def Settled (name : Name) (m : Matcher Leaf) (offset length : Nat) (s : Slots) : Prop :=
  ∃ s₁ s₂, (m.answering name).run offset length s₁ = (true, s₂) ∧ s₂.size = s.size ∧
    ∀ id ∈ m.captures, s.get? id = s₂.get? id

/-- The leaves of a tree answer to the positions of a run. -/
def Hits (name : Name) (m : Matcher Leaf) (offset length : Nat) : Prop :=
  (m.answering name).Language Answers.Hit (List.range' offset length)

variable {name : Name} {offset length : Nat} {s : Slots}

theorem hits_iff_fits (m : Matcher Leaf) (h : offset + length ≤ name.length) :
    m.Hits name offset length ↔ m.Fits name offset length :=
  m.language_ofLeaf name h

theorem itemsLanguage_of_split {items : List (Matcher Leaf)} {ts : List Nat}
    (h : Split (Hits name) items offset length ts) :
    ItemsLanguage Answers.Hit (mapItems (.ofLeaf name.components.toArray) items)
      (List.range' offset length) := by
  induction items generalizing offset length ts with
  | nil =>
    obtain ⟨-, rfl⟩ := split_nil.mp h
    rfl
  | cons item items ih =>
    cases ts with
    | nil => exact absurd h not_split_nil
    | cons t ts =>
      obtain ⟨ht, hfit, hrest⟩ := split_cons.mp h
      rw [mapItems, ItemsLanguage, exists_range'_eq_append]
      exact ⟨t, ht, hfit, ih hrest⟩

/-- Items that succeed have made their last matches on the segments of the greatest cut. The items
behind one do not write its groups. -/
theorem runItems_eq_true {items : List (Matcher Leaf)} {s₁ s₂ : Slots}
    (hnodup : (itemCaptures items).Nodup)
    (hrun : runItems (mapItems (.ofLeaf name.components.toArray) items) offset length s₁ =
      (true, s₂)) :
    ∃ ts, Greatest (Split (Hits name) items offset length) ts ∧
      ∀ p ∈ items.zip (segments offset ts), p.1.Settled name p.2.1 p.2.2 s₂ := by
  induction items generalizing offset length s₁ with
  | nil =>
    obtain ⟨rfl, rfl⟩ : length = 0 ∧ s₁ = s₂ := by simpa [mapItems, runItems] using hrun
    refine ⟨[], ⟨split_nil.mpr ⟨rfl, rfl⟩, fun us hus => ?_⟩, by simp⟩
    exact .inl (split_nil.mp hus).1
  | cons item items ih =>
    rw [itemCaptures] at hnodup
    obtain ⟨-, hitems, hdisjoint⟩ := List.nodup_append.mp hnodup
    rw [mapItems, runItems] at hrun
    obtain ⟨t, ht, ⟨s₃, hboth⟩, hlonger⟩ := Attempt.longestFirst_eq_true hrun
    obtain ⟨s₄, hitem, hrest⟩ := Attempt.andThen_eq_true hboth
    obtain ⟨ts, hts, hsettled⟩ := ih hitems hrest
    have hfit : item.Hits name offset t := (run_decides _ offset t).of_eq_true hitem
    refine ⟨t :: ts, .cons (split_cons.mpr ⟨ht, hfit, hts.1⟩) not_split_nil ?_ ?_, ?_⟩
    · intro u us hus
      obtain ⟨hu, hfit, hrest⟩ := split_cons.mp hus
      refine Nat.le_of_not_lt fun hlt => ?_
      obtain ⟨s₅, hfail⟩ := hlonger u hlt hu
      exact ((run_decides _ offset u).andThen (runItems_decides _ _ _)).not_of_eq_false hfail
        ⟨hfit, itemsLanguage_of_split hrest⟩
    · exact fun us hus => hts.2 us (split_cons.mp hus).2.2
    · intro p hp
      have hw := runItems_writes name items (offset + t) (length - t)
      have hsize : s₂.size = s₄.size := by simpa [hrest] using hw.size s₄
      rcases List.mem_cons.mp hp with rfl | hp
      · refine ⟨s₃, s₄, hitem, hsize.symm, fun id hid => ?_⟩
        have hkeeps := hw.keeps s₄ id fun hmem => hdisjoint id hid id hmem rfl
        simpa [hrest] using hkeeps
      · exact hsettled p hp

end Matcher

end NamePattern
