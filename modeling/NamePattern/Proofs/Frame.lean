import NamePattern.Proofs.Growth
import NamePattern.Proofs.Decision

/-! Matching a tree writes the slots of its own groups and no others. -/
namespace NamePattern

namespace Slots

/-- Slots after the values of a leaf have been filled in. -/
def fill (s : Slots) (values : List (NodeId × Component)) : Slots :=
  values.foldl (fun slots (id, c) => slots.set id (.value c)) s

@[simp] theorem size_fill (values : List (NodeId × Component)) (s : Slots) :
    (s.fill values).size = s.size := by
  unfold fill
  induction values generalizing s with
  | nil => rfl
  | cons v values ih => rw [List.foldl_cons, ih, size_set]

theorem get?_fill_of_notMem {values : List (NodeId × Component)} {id : NodeId}
    (h : id ∉ values.map Prod.fst) (s : Slots) : (s.fill values).get? id = s.get? id := by
  unfold fill
  induction values generalizing s with
  | nil => rfl
  | cons v values ih =>
    obtain ⟨hv, hvs⟩ : id ≠ v.1 ∧ id ∉ values.map Prod.fst := by simpa using h
    rw [List.foldl_cons, ih hvs, get?_set_ne hv]

theorem get?_fill_of_mem {values : List (NodeId × Component)} {id : NodeId} {c : Component}
    {s : Slots} (hnodup : (values.map Prod.fst).Nodup) (h : (id, c) ∈ values) (hid : id < s.size) :
    (s.fill values).get? id = some (.value c) := by
  induction values generalizing s with
  | nil => simp at h
  | cons v values ih =>
    obtain ⟨hv, hvs⟩ := List.nodup_cons.mp hnodup
    have hfill : s.fill (v :: values) = (s.set v.1 (.value v.2)).fill values := rfl
    rw [hfill]
    rcases List.mem_cons.mp h with rfl | h
    · rw [get?_fill_of_notMem hv, get?_set_self hid]
    · exact ih hvs h (by simpa using hid)

end Slots

theorem Leaf.fst_mem_of_answer {leaf : Leaf} {c : Component} {values : List (NodeId × Component)}
    (h : leaf.answer c = some values) : values.map Prod.fst ⊆ leaf.groups := by
  unfold answer at h
  split at h
  · cases h
    simp
  · obtain ⟨texts, -, rfl⟩ := Option.map_eq_some_iff.mp h
    intro id hid
    obtain ⟨v, hv, rfl⟩ := List.mem_map.mp hid
    obtain ⟨p, hp, rfl⟩ := List.mem_map.mp hv
    exact (List.of_mem_zip hp).1

theorem Answers.run_writes {leaf : Answers} {ids : List NodeId}
    (h : ∀ i values, leaf.get i = some values → values.map Prod.fst ⊆ ids) (offset length : Nat) :
    (leaf.run offset length).Writes ids := by
  refine ⟨fun s => ?_, fun s id hid => ?_⟩
  · unfold run
    split
    · rfl
    · cases leaf.get offset with
      | none => rfl
      | some values => exact s.size_fill values
  · unfold run
    split
    · rfl
    · cases hv : leaf.get offset with
      | none => rfl
      | some values => exact s.get?_fill_of_notMem fun hmem => hid (h offset values hv hmem)

theorem Repetition.recur_writes {attempt : Nat → Nat → Attempt} {ids : List NodeId}
    (h : ∀ o t, (attempt o t).Writes ids) (bounds : Bounds) (made offset length : Nat) :
    (recur attempt bounds made offset length).Writes ids := by
  induction hn : bounds.min - made + length using Nat.strongRecOn generalizing made offset length with
  | ind n ih =>
    by_cases hl : length = 0
    · subst hl
      rw [recur_zero]
      exact ⟨fun _ => rfl, fun _ _ _ => rfl⟩
    by_cases hmax : made < bounds.max
    · rw [recur_of_lt attempt bounds offset hl hmax]
      refine Attempt.Writes.longestFirst (fun t => ?_) length
      unfold next
      split
      · exact (h offset t).andThen (ih _ (by omega) _ _ _ rfl)
      · exact .fail
    · rw [recur_of_ge attempt bounds offset hl (by omega)]
      exact .fail

namespace Matcher

/-- The tree with the answers of its leaves to the components of a name. -/
abbrev answering (m : Matcher Leaf) (name : Name) : Matcher Answers :=
  m.map (.ofLeaf name.components.toArray)

theorem ofLeaf_writes (name : Name) (leaf : Leaf) (offset length : Nat) :
    ((Answers.ofLeaf name.components.toArray leaf).run offset length).Writes leaf.groups := by
  refine Answers.run_writes (fun i values h => ?_) offset length
  rw [Answers.get_ofLeaf] at h
  obtain ⟨c, -, hc⟩ := Option.bind_eq_some_iff.mp h
  exact leaf.fst_mem_of_answer hc

mutual

theorem run_writes (name : Name) : ∀ (m : Matcher Leaf) (offset length : Nat),
    ((m.answering name).run offset length).Writes m.captures
  | component _ leaf, offset, length => by
    rw [answering, map, run, captures]
    exact ofLeaf_writes name leaf offset length
  | set id members inclusion, offset, length => by
    rw [answering, map]
    by_cases hl : length = 1
    · subst hl
      have hany : (Attempt.any (fun leaf : Answers => leaf.run offset 1)
          (members.map (.ofLeaf name.components.toArray))).Writes
          (set id members inclusion).captures := by
        refine .any fun answers h => ?_
        obtain ⟨leaf, hleaf, rfl⟩ := List.mem_map.mp h
        refine (ofLeaf_writes name leaf offset 1).mono fun i hi => ?_
        rw [captures]
        exact List.mem_flatMap.mpr ⟨leaf, hleaf, hi⟩
      refine ⟨fun s => ?_, fun s i hi => ?_⟩
      · rw [run_set_one]
        exact hany.size s
      · rw [run_set_one]
        exact hany.keeps s i hi
    · rw [run_set_of_ne hl]
      exact .fail
  | group id inner, offset, length => by
    have h := run_writes name inner offset length
    refine ⟨fun s => ?_, fun s i hi => ?_⟩
    · have hs := h.size (s.clear id)
      rw [answering, map, run_group]
      split <;> next t ht => rw [ht] at hs; simpa using hs
    · obtain ⟨hne, hi⟩ : i ≠ id ∧ i ∉ inner.captures := by simpa [captures] using hi
      have hs := h.keeps (s.clear id) i hi
      rw [Slots.get?_clear_ne hne] at hs
      rw [answering, map, run_group]
      split <;> next t ht => rw [ht] at hs; simpa [Slots.get?_set_ne hne] using hs
  | repeated _ inner bounds, offset, length => by
    rw [answering, map, run_repeated, captures]
    exact Repetition.recur_writes (run_writes name inner) bounds 0 offset length
  | list _ items, offset, length => by
    rw [answering, map, run, captures]
    exact runItems_writes name items offset length

theorem runItems_writes (name : Name) : ∀ (items : List (Matcher Leaf)) (offset length : Nat),
    (runItems (mapItems (.ofLeaf name.components.toArray) items) offset length).Writes
      (itemCaptures items)
  | [], offset, length => by
    rw [mapItems, runItems]
    exact ⟨fun _ => rfl, fun _ _ _ => rfl⟩
  | item :: items, offset, length => by
    rw [mapItems, runItems, itemCaptures]
    refine .longestFirst (fun t => ?_) length
    exact ((run_writes name item offset t).mono (List.subset_append_left ..)).andThen
      ((runItems_writes name items (offset + t) (length - t)).mono (List.subset_append_right ..))

end

end Matcher

end NamePattern
