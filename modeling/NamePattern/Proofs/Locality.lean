import Mathlib
import NamePattern.Proofs.Matching
import NamePattern.Proofs.Shifting
import NamePattern.Proofs.SubNames

/-! A match depends on the components of its window, and on no others of the name. -/
namespace NamePattern

/-- A run of a sub-name is a run of the name, as far as it lies within the sub-name. -/
theorem Name.subName_subName (name : Name) {start count offset length : Nat}
    (h : offset + length ≤ count) :
    (name.subName start count).subName offset length = name.subName (start + offset) length := by
  have hle : length ≤ count - offset := by omega
  rw [subName_of_subName, Nat.min_eq_left hle]

theorem Name.get?_subName (name : Name) {start count i : Nat} (h : i < count) :
    (name.subName start count).get? i = name.get? (start + i) := by
  rw [get?_subName_eq, if_pos h]

theorem Name.length_subName {name : Name} {start count : Nat} (h : start + count ≤ name.length) :
    (name.subName start count).length = count := by
  unfold length at h
  simp only [subName, length, List.length_take, List.length_drop]
  omega

/-- Captures that differ in where their runs begin are the same components of a name and of its
sub-name. -/
theorem Slots.Shifted.resolve {d limit n : Nat} {s s' : Slots} (h : Shifted d limit n s s')
    (name : Name) {id : NodeId} (hid : id < n) :
    s.resolve name id = s'.resolve (name.subName d limit) id := by
  unfold Slots.resolve
  rw [h.get id hid]
  cases hc : s'.get? id with
  | none => rfl
  | some c =>
    cases c with
    | value c => rfl
    | span offset length =>
      have hle : offset + length ≤ limit := h.within id hid _ hc
      exact congrArg Name.components (name.subName_subName hle).symm

namespace Arena

variable {a : Arena} {name : Name} {offset length : Nat}

/-- An attempt to match a node runs its tree, or it fails at once. -/
theorem isMatchAt_cases (a : Arena) (id : NodeId) (name : Name) (offset length : Nat) :
    (∃ text m, a.nodes[id]? = some ⟨text, .matcher m⟩ ∧
        a.isMatchAt id name offset length = (m.answering name).run offset length) ∨
      a.isMatchAt id name offset length = .fail := by
  unfold isMatchAt
  split
  · split
    · next text m hnode => exact .inl ⟨text, m, hnode, rfl⟩
    · exact .inr rfl
  · exact .inr rfl

/-- An attempt to match a node keeps the number of slots. -/
theorem size_isMatchAt (a : Arena) (id : NodeId) (name : Name) (offset length : Nat) (s : Slots) :
    (a.isMatchAt id name offset length s).2.size = s.size := by
  obtain ⟨_, m, -, hrun⟩ | hfail := a.isMatchAt_cases id name offset length
  · rw [hrun]
    exact (m.run_writes name offset length).size s
  · rw [hfail]
    rfl

/-- A node matches a window of a name just as it matches the name of the components in it. -/
theorem isMatchAt_tracks (a : Arena) (id : NodeId) (n : Nat)
    (h : offset + length ≤ name.length) :
    Attempt.Tracks (Slots.Shifted offset length n) (a.isMatchAt id name offset length)
      (a.isMatchAt id (name.subName offset length) 0 length) := by
  have hzero : 0 + length ≤ length := Nat.le_of_eq (Nat.zero_add length)
  have hwhole : 0 + length ≤ (name.subName offset length).length := by
    rw [Name.length_subName h]
    exact hzero
  unfold isMatchAt
  rw [if_pos h, if_pos hwhole]
  split
  · next m _ =>
    have hsame : ∀ i < length, name.get? (offset + i) = (name.subName offset length).get? i :=
      fun i hi => (name.get?_subName hi).symm
    exact m.run_tracks hsame 0 length hzero
  · exact .fail

/-- A match, with all that it captures, is that of the name made of the window's components. -/
theorem matchAt_subName (a : Arena) (id : NodeId) (name : Name) {offset length : Nat}
    (h : offset + length ≤ name.length) :
    a.matchAt id name offset length = a.matchAt id (name.subName offset length) 0 length := by
  have hstart : Slots.Shifted offset length a.size (.empty a.size) (.empty a.size) :=
    .empty (Nat.le_refl _) (Nat.le_refl _)
  obtain ⟨b, s, s', hs, hs', hshifted⟩ := (isMatchAt_tracks a id a.size h).results hstart
  have hsize : s.size = a.size := by
    simpa [hs] using size_isMatchAt a id name offset length (.empty a.size)
  have hsize' : s'.size = a.size := by
    simpa [hs'] using size_isMatchAt a id (name.subName offset length) 0 length (.empty a.size)
  have hresult : ((name.subName offset length).subName 0 length).components =
      (name.subName offset length).components := by
    rw [Name.subName_subName name (Nat.le_of_eq (Nat.zero_add length)), Nat.add_zero]
  have hgroups : a.registry.refs.map (s.resolve name) =
      a.registry.refs.map (s'.resolve (name.subName offset length)) := by
    refine List.map_congr_left fun i _ => ?_
    by_cases hi : i < a.size
    · exact hshifted.resolve name hi
    · have hle : a.size ≤ i := Nat.le_of_not_lt hi
      have hnone : s.get? i = none := Slots.get?_of_size_le (hsize ▸ hle)
      have hnone' : s'.get? i = none := Slots.get?_of_size_le (hsize' ▸ hle)
      rw [Slots.resolve, Slots.resolve, hnone, hnone']
  unfold matchAt
  rw [hs, hs']
  cases b with
  | true => simp only [hresult, hgroups]
  | false => rfl

/-- The group of `(<>*)<>` first takes both components of the window and then leaves one of them. -/
theorem matchAt_subName_middle :
    let name : Name := ⟨[⟨[97]⟩, ⟨[98]⟩, ⟨[99]⟩, ⟨[100]⟩]⟩
    ∃ m b, (Call.patternList ['(', '<', '>', '*', ')', '<', '>']).build (.empty false) = .ok m b ∧
      1 + 2 ≤ name.length ∧
      b.matchAt m.id name 1 2 = b.matchAt m.id (name.subName 1 2) 0 2 ∧
      b.matchAt m.id (name.subName 1 2) 0 2 = some ⟨[⟨[98]⟩, ⟨[99]⟩], [[⟨[98]⟩]], false⟩ := by
  let star : Matcher Leaf :=
    .repeated 3 (.set 2 [⟨1, none, []⟩] true) ⟨0, Bounds.unbounded, by decide⟩
  let last : Matcher Leaf := .repeated 7 (.set 6 [⟨5, none, []⟩] true) ⟨1, 1, by decide⟩
  refine ⟨.list 8 [.group 0 (.list 4 [star]), last], _, by cbv, by decide, ?_, by cbv⟩
  exact matchAt_subName _ _ _ (by decide)

end Arena

end NamePattern
