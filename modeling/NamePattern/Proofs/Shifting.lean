import NamePattern.Proofs.Frame
import NamePattern.Proofs.Renumbering

/-! Matching the same components at another place of another name, with a tree whose nodes may have
been moved. The same attempts succeed, and the captures differ only in where they stand and in where
their runs begin. -/
namespace NamePattern

namespace Capture

/-- A capture whose run begins `d` components later. -/
def shift (d : Nat) : Capture → Capture
  | span offset length => .span (d + offset) length
  | value c => .value c

/-- A capture takes none of the components behind the first `limit`. -/
def Within (limit : Nat) : Capture → Prop
  | span offset length => offset + length ≤ limit
  | value _ => True

end Capture

namespace Slots

/-- Slots hold the same captures for the nodes below `n`, except that the runs in the first begin
`d` components later. Those in the second lie within the first `limit` components. -/
structure Shifted (d limit n : Nat) (s s' : Slots) : Prop where
  size_left : n ≤ s.size
  size_right : n ≤ s'.size
  get : ∀ id < n, s.get? id = (s'.get? id).map (.shift d)
  within : ∀ id < n, ∀ c, s'.get? id = some c → c.Within limit

variable {d limit n : Nat} {s s' : Slots}

@[simp] theorem get?_clear_self (s : Slots) (id : NodeId) : (s.clear id).get? id = none := by
  unfold get? clear
  by_cases h : id < s.captures.size <;> simp [h]

@[simp] theorem get?_empty (n : Nat) (id : NodeId) : (empty n).get? id = none := by
  unfold get? empty
  by_cases h : id < n <;> simp [h]

theorem get?_of_size_le {id : NodeId} (h : s.size ≤ id) : s.get? id = none := by
  have hnone : s.captures[id]? = none := Array.getElem?_eq_none h
  rw [get?, hnone]
  rfl

namespace Shifted

theorem empty {k k' : Nat} (hk : n ≤ k) (hk' : n ≤ k') :
    Shifted d limit n (.empty k) (.empty k') where
  size_left := by simpa using hk
  size_right := by simpa using hk'
  get id _ := by simp
  within id _ c hc := by simp at hc

theorem clear (h : Shifted d limit n s s') (id : NodeId) :
    Shifted d limit n (s.clear id) (s'.clear id) where
  size_left := by simpa using h.size_left
  size_right := by simpa using h.size_right
  get i hi := by
    by_cases hne : i = id
    · rw [hne, get?_clear_self, get?_clear_self]
      rfl
    · rw [get?_clear_ne hne, get?_clear_ne hne, h.get i hi]
  within i hi c hc := by
    by_cases hne : i = id
    · rw [hne, get?_clear_self] at hc
      simp at hc
    · rw [get?_clear_ne hne] at hc
      exact h.within i hi c hc

theorem set (h : Shifted d limit n s s') (id : NodeId) {c : Capture} (hc : c.Within limit) :
    Shifted d limit n (s.set id (c.shift d)) (s'.set id c) where
  size_left := by simpa using h.size_left
  size_right := by simpa using h.size_right
  get i hi := by
    by_cases hne : i = id
    · have hlt : id < n := hne ▸ hi
      rw [hne, get?_set_self (Nat.lt_of_lt_of_le hlt h.size_left),
        get?_set_self (Nat.lt_of_lt_of_le hlt h.size_right)]
      rfl
    · rw [get?_set_ne hne, get?_set_ne hne, h.get i hi]
  within i hi c' hc' := by
    by_cases hne : i = id
    · have hlt : id < n := hne ▸ hi
      rw [hne, get?_set_self (Nat.lt_of_lt_of_le hlt h.size_right)] at hc'
      exact Option.some.inj hc' ▸ hc
    · rw [get?_set_ne hne] at hc'
      exact h.within i hi c' hc'

end Shifted

/-- A relation that goes on to hold when both slots are written alike: the first for a node whose
number is higher by `k`, with a run that begins `d` components later, and the second with a run
within the first `limit` components. -/
structure Linked (k d limit : Nat) (R : Slots → Slots → Prop) : Prop where
  clear : ∀ {s s'}, R s s' → ∀ id : Nat, R (s.clear (id + k)) (s'.clear id)
  set : ∀ {s s'}, R s s' → ∀ (id : Nat) {c : Capture}, c.Within limit →
    R (s.set (id + k) (c.shift d)) (s'.set id c)

theorem Shifted.linked (d limit n : Nat) : Linked 0 d limit (Shifted d limit n) :=
  ⟨Shifted.clear, Shifted.set⟩

theorem Linked.fill {k : Nat} {R : Slots → Slots → Prop} (hR : Linked k d limit R) (h : R s s')
    (values : List (NodeId × Component)) :
    R (s.fill (values.map fun v => (v.1 + k, v.2))) (s'.fill values) := by
  unfold Slots.fill
  induction values generalizing s s' with
  | nil => exact h
  | cons v values ih => exact ih (hR.set h v.1 (c := .value v.2) trivial)

end Slots

namespace Attempt

/-- Two attempts succeed together, and related slots stay related. -/
def Tracks (R : Slots → Slots → Prop) (f g : Attempt) : Prop :=
  ∀ s s', R s s' → (f s).1 = (g s').1 ∧ R (f s).2 (g s').2

namespace Tracks

variable {α β γ : Type} {R : Slots → Slots → Prop} {f f' g g' : Attempt}

protected theorem fail : Tracks R .fail .fail := fun _ _ h => ⟨rfl, h⟩

theorem results (hf : Tracks R f f') {s s' : Slots} (h : R s s') :
    ∃ b t t', f s = (b, t) ∧ f' s' = (b, t') ∧ R t t' := by
  obtain ⟨hb, ht⟩ := hf s s' h
  exact ⟨(f' s').1, (f s).2, (f' s').2, by rw [← hb], rfl, ht⟩

protected theorem andThen (hf : Tracks R f f') (hg : Tracks R g g') :
    Tracks R (f.andThen g) (f'.andThen g') := by
  intro s s' h
  obtain ⟨b, t, t', hs, hs', ht⟩ := hf.results h
  simp only [Attempt.andThen, hs, hs']
  cases b with
  | true => exact hg t t' ht
  | false => exact ⟨rfl, ht⟩

protected theorem orElse (hf : Tracks R f f') (hg : Tracks R g g') :
    Tracks R (f.orElse g) (f'.orElse g') := by
  intro s s' h
  obtain ⟨b, t, t', hs, hs', ht⟩ := hf.results h
  simp only [Attempt.orElse, hs, hs']
  cases b with
  | true => exact ⟨rfl, ht⟩
  | false => exact hg t t' ht

protected theorem longestFirst {attempt attempt' : Nat → Attempt} {n : Nat}
    (h : ∀ t ≤ n, Tracks R (attempt t) (attempt' t)) :
    Tracks R (longestFirst attempt n) (longestFirst attempt' n) := by
  induction n with
  | zero => exact h 0 (Nat.le_refl 0)
  | succ n ih =>
    exact (h (n + 1) (Nat.le_refl _)).orElse (ih fun t ht => h t (Nat.le_succ_of_le ht))

protected theorem any {attempt : β → Attempt} {attempt' : γ → Attempt} {p : α → β} {q : α → γ}
    {as : List α} (h : ∀ a ∈ as, Tracks R (attempt (p a)) (attempt' (q a))) :
    Tracks R (any attempt (as.map p)) (any attempt' (as.map q)) := by
  induction as with
  | nil => exact .fail
  | cons a as ih =>
    exact (h a (List.mem_cons_self ..)).orElse (ih fun b hb => h b (List.mem_cons_of_mem _ hb))

end Tracks

end Attempt

/-- Repetitions of attempts that track each other do so, as long as they stay within a limit. -/
theorem Repetition.recur_tracks {R : Slots → Slots → Prop} {attempt attempt' : Nat → Nat → Attempt}
    {d limit : Nat}
    (h : ∀ o t, o + t ≤ limit → Attempt.Tracks R (attempt (d + o) t) (attempt' o t))
    (bounds : Bounds) (made : Nat) {offset length : Nat} (hle : offset + length ≤ limit) :
    Attempt.Tracks R (recur attempt bounds made (d + offset) length)
      (recur attempt' bounds made offset length) := by
  induction hn : bounds.min - made + length using Nat.strongRecOn
    generalizing made offset length with
  | ind n ih =>
    by_cases hl : length = 0
    · rw [hl, recur_zero, recur_zero]
      exact fun s s' hR => ⟨rfl, hR⟩
    by_cases hmax : made < bounds.max
    · rw [recur_of_lt attempt bounds _ hl hmax, recur_of_lt attempt' bounds _ hl hmax]
      refine .longestFirst fun t ht => ?_
      unfold next
      by_cases hshort : made < bounds.min ∨ 0 < t
      · rw [if_pos hshort, if_pos hshort, Nat.add_assoc]
        have hrest : Attempt.Tracks R
            (recur attempt bounds (made + 1) (d + (offset + t)) (length - t))
            (recur attempt' bounds (made + 1) (offset + t) (length - t)) :=
          ih _ (by omega) (made + 1) (by omega) rfl
        exact (h offset t (by omega)).andThen hrest
      · rw [if_neg hshort, if_neg hshort]
        exact .fail
    · rw [recur_of_ge attempt bounds _ hl (by omega), recur_of_ge attempt' bounds _ hl (by omega)]
      exact .fail

/-- A leaf that has been moved gives the same answers, for its own groups. -/
theorem Leaf.answer_shift (k : Nat) (leaf : Leaf) (c : Component) :
    (leaf.shift k).answer c = (leaf.answer c).map fun values =>
      values.map fun v => (v.1 + k, v.2) := by
  have hregex : (leaf.shift k).regex = leaf.regex := rfl
  have hgroups : (leaf.shift k).groups = leaf.groups.map (· + k) := rfl
  unfold answer
  rw [hregex, hgroups]
  cases leaf.regex with
  | none => rfl
  | some regex =>
    simp only [Option.map_map, Function.comp_def, List.zip_map_left, List.map_map, Prod.map]
    rfl

namespace Matcher

variable {k d limit n : Nat} {R : Slots → Slots → Prop} {name name' : Name}

/-- A leaf answers the same where the components are the same. -/
theorem ofLeaf_shift_tracks (hR : Slots.Linked k d limit R)
    (h : ∀ i < limit, name.get? (d + i) = name'.get? i) (leaf : Leaf) {offset length : Nat}
    (hle : offset + length ≤ limit) :
    Attempt.Tracks R
      ((Answers.ofLeaf name.components.toArray (leaf.shift k)).run (d + offset) length)
      ((Answers.ofLeaf name'.components.toArray leaf).run offset length) := by
  intro s s' hs
  by_cases hl : length = 1
  · have hsame : name.components[d + offset]? = name'.components[offset]? := h offset (by omega)
    have hget : (Answers.ofLeaf name.components.toArray (leaf.shift k)).get (d + offset) =
        ((Answers.ofLeaf name'.components.toArray leaf).get offset).map fun values =>
          values.map fun v => (v.1 + k, v.2) := by
      rw [Answers.get_ofLeaf, Answers.get_ofLeaf, List.getElem?_toArray, List.getElem?_toArray,
        hsame]
      cases name'.components[offset]? with
      | none => rfl
      | some c => exact leaf.answer_shift k c
    unfold Answers.run
    rw [hget, if_neg (not_not_intro hl), if_neg (not_not_intro hl)]
    cases (Answers.ofLeaf name'.components.toArray leaf).get offset with
    | none => exact ⟨rfl, hs⟩
    | some values => exact ⟨rfl, hR.fill hs values⟩
  · unfold Answers.run
    rw [if_pos hl, if_pos hl]
    exact ⟨rfl, hs⟩

mutual

/-- Where the components are the same, a tree that has been moved matches the same runs, and its
groups capture the same. -/
theorem run_shift_tracks (hR : Slots.Linked k d limit R)
    (h : ∀ i < limit, name.get? (d + i) = name'.get? i) :
    ∀ (m : Matcher Leaf) (offset length : Nat), offset + length ≤ limit →
      Attempt.Tracks R (((m.shift k).answering name).run (d + offset) length)
        ((m.answering name').run offset length)
  | component _ leaf, offset, length, hle => by
    rw [shift, answering, answering, map, map, run, run]
    exact ofLeaf_shift_tracks hR h leaf hle
  | set _ members inclusion, offset, length, hle => by
    rw [shift, answering, answering, map, map, List.map_map]
    by_cases hl : length = 1
    · rw [hl] at hle ⊢
      have hany : Attempt.Tracks R
          (Attempt.any (fun leaf : Answers => leaf.run (d + offset) 1)
            (members.map (Answers.ofLeaf name.components.toArray ∘ Leaf.shift k)))
          (Attempt.any (fun leaf : Answers => leaf.run offset 1)
            (members.map (.ofLeaf name'.components.toArray))) :=
        .any fun leaf _ => ofLeaf_shift_tracks hR h leaf hle
      intro s s' hs
      obtain ⟨hfound, hs'⟩ := hany s s' hs
      rw [run_set_one, run_set_one, hfound]
      exact ⟨rfl, hs'⟩
    · rw [run_set_of_ne hl, run_set_of_ne hl]
      exact .fail
  | group id inner, offset, length, hle => by
    intro s s' hs
    have hspan : (Capture.span offset length).Within limit := hle
    obtain ⟨b, t, t', hrun, hrun', ht⟩ :=
      (run_shift_tracks hR h inner offset length hle).results (hR.clear hs id)
    rw [shift, answering, answering, map, map, run_group, run_group, hrun, hrun']
    cases b with
    | true => exact ⟨rfl, hR.set ht id hspan⟩
    | false => exact ⟨rfl, ht⟩
  | repeated _ inner bounds, offset, length, hle => by
    rw [shift, answering, answering, map, map, run_repeated, run_repeated]
    exact Repetition.recur_tracks (run_shift_tracks hR h inner) bounds 0 hle
  | list _ items, offset, length, hle => by
    rw [shift, answering, answering, map, map, run, run]
    exact runItems_shift_tracks hR h items offset length hle

theorem runItems_shift_tracks (hR : Slots.Linked k d limit R)
    (h : ∀ i < limit, name.get? (d + i) = name'.get? i) :
    ∀ (items : List (Matcher Leaf)) (offset length : Nat), offset + length ≤ limit →
      Attempt.Tracks R
        (runItems (mapItems (.ofLeaf name.components.toArray) (shiftItems k items)) (d + offset)
          length)
        (runItems (mapItems (.ofLeaf name'.components.toArray) items) offset length)
  | [], offset, length, _ => by
    rw [shiftItems, mapItems, mapItems, runItems, runItems]
    exact fun s s' hs => ⟨rfl, hs⟩
  | item :: items, offset, length, hle => by
    rw [shiftItems, mapItems, mapItems, runItems, runItems]
    refine .longestFirst fun t ht => ?_
    have hrest := runItems_shift_tracks hR h items (offset + t) (length - t) (by omega)
    rw [← Nat.add_assoc] at hrest
    exact (run_shift_tracks hR h item offset t (by omega)).andThen hrest

end

/-- Where the components are the same, a tree matches the same runs and captures the same. -/
theorem run_tracks (h : ∀ i < limit, name.get? (d + i) = name'.get? i) (m : Matcher Leaf)
    (offset length : Nat) (hle : offset + length ≤ limit) :
    Attempt.Tracks (Slots.Shifted d limit n) ((m.answering name).run (d + offset) length)
      ((m.answering name').run offset length) := by
  have htracks := run_shift_tracks (Slots.Shifted.linked d limit n) h m offset length hle
  rw [shift_zero] at htracks
  exact htracks

end Matcher

end NamePattern
