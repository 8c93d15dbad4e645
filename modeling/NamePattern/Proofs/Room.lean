import Mathlib.Data.List.SplitBy
import NamePattern.CharRegex.Footprint

/-! Bounds on the room that the automaton of a set of characters takes. -/
namespace NamePattern.CharRegex

theorem Footprint.bytes_add (f : Footprint) (states links : Nat) :
    (f.add states links).bytes = f.bytes + 32 * states + links := by
  unfold bytes add
  dsimp only
  omega

namespace Sharing

/-- A state that is made takes its room, and one that is shared takes none. -/
theorem bytes_state_le (count : Nat) (ns : List Nat) (links : Nat) (s : Sharing) :
    (state count ns links s).2.footprint.bytes ≤ s.footprint.bytes + 32 + links := by
  have hmake (i : Nat) :
      (make i ns links s).2.footprint.bytes = s.footprint.bytes + 32 + links := by
    unfold make
    rw [Footprint.bytes_add]
  unfold state
  dsimp only
  split
  · split
    · dsimp only
      omega
    · exact Nat.le_of_eq (hmake _)
  · exact Nat.le_of_eq (hmake _)

theorem bytes_foldl_le {target n : Nat}
    (h : ∀ encodings s, (first target n encodings s).2.footprint.bytes ≤
      s.footprint.bytes + 72 * n * encodings.length)
    (groups : List (List ByteRuns)) (links : List Nat) (s : Sharing) :
    (groups.foldl (fun (x : List Nat × Sharing) group =>
        let (lo, hi) := (group.head?.bind List.head?).getD (0, 0)
        let (next, s) := first target n (group.map List.tail) x.2
        (x.1 ++ [lo, hi, next], s)) (links, s)).2.footprint.bytes ≤
      s.footprint.bytes + 72 * n * groups.flatten.length := by
  induction groups generalizing links s with
  | nil => exact Nat.le_refl _
  | cons group groups ih =>
    have hgroup := h (group.map List.tail) s
    rw [List.length_map] at hgroup
    rw [List.foldl_cons, List.flatten_cons, List.length_append, Nat.mul_add]
    refine Nat.le_trans (ih _ _) ?_
    dsimp only
    omega

theorem length_le_flatten {α : Type} {ls : List (List α)} (h : [] ∉ ls) :
    ls.length ≤ ls.flatten.length := by
  induction ls with
  | nil => exact Nat.le_refl _
  | cons l ls ih =>
    obtain ⟨hl, hls⟩ : ¬[] = l ∧ [] ∉ ls := by simpa using h
    have hpos := List.length_pos_iff.mpr fun he => hl he.symm
    have hle := ih hls
    rw [List.length_cons, List.flatten_cons, List.length_append]
    omega

/-- The states that read encodings from their first bytes on are at most one for each byte. -/
theorem bytes_first_le (target n : Nat) (encodings : List ByteRuns) (s : Sharing) :
    (first target n encodings s).2.footprint.bytes ≤
      s.footprint.bytes + 72 * n * encodings.length := by
  induction n generalizing encodings s with
  | zero => simp [first]
  | succ n ih =>
    unfold first
    split
    · exact Nat.le_add_right _ _
    · next hne =>
      have hpos : 0 < encodings.length := by
        refine List.length_pos_iff.mpr fun hnil => hne ?_
        rw [hnil]
        rfl
      have hgroups : (encodings.splitBy fun a b => a.head? == b.head?).length ≤ encodings.length := by
        have hle := length_le_flatten (List.nil_notMem_splitBy (fun a b : ByteRuns =>
          a.head? == b.head?) encodings)
        rwa [List.flatten_splitBy] at hle
      have hfold := bytes_foldl_le ih (encodings.splitBy fun a b => a.head? == b.head?) [] s
      rw [List.flatten_splitBy] at hfold
      refine Nat.le_trans (bytes_state_le _ _ _ _) ?_
      rw [Nat.mul_succ, Nat.add_mul]
      refine Nat.le_trans (Nat.add_le_add_right (Nat.add_le_add_right hfold 32) _) ?_
      omega

theorem bytes_last_le (s : Sharing) (encoding : ByteRuns) (target : Nat) :
    (s.last encoding target).footprint.bytes ≤ s.footprint.bytes + 32 * encoding.length := by
  unfold last
  induction encoding generalizing s target with
  | nil => exact Nat.le_refl _
  | cons r encoding ih =>
    have hstate := bytes_state_le 1000 [target, r.1, r.2] 0 s
    have hrest := ih (state 1000 [target, r.1, r.2] 0 s).2 (state 1000 [target, r.1, r.2] 0 s).1
    rw [List.foldl_cons, List.length_cons]
    refine Nat.le_trans hrest ?_
    omega

end Sharing

theorem CharSet.bytes_addTo_forwards_le (set : CharSet) (f : Footprint) :
    (set.addTo .forwards f).bytes ≤
      f.bytes + 64 + 8 * set.runs.length + 288 * (ByteRuns.ofSet set).length := by
  unfold addTo
  split
  · omega
  · split
    · rw [Footprint.bytes_add]
      omega
    · have hfirst := Sharing.bytes_first_le f.states 4 (ByteRuns.ofSet set) ⟨f.add 1 0, ∅⟩
      rw [Footprint.bytes_add] at hfirst
      dsimp only
      omega

theorem CharSet.bytes_addTo_backwards_le (set : CharSet) (f : Footprint) :
    (set.addTo .backwards f).bytes ≤
      f.bytes + 64 + 8 * set.runs.length + 4 * (ByteRuns.ofSet set).length +
        32 * (ByteRuns.ofSet set).flatten.length := by
  have hfold (target : Nat) (encodings : List ByteRuns) (s : Sharing) :
      (encodings.foldl (fun s encoding => s.last encoding target) s).footprint.bytes ≤
        s.footprint.bytes + 32 * encodings.flatten.length := by
    induction encodings generalizing s with
    | nil => exact Nat.le_refl _
    | cons encoding encodings ih =>
      have hlast := s.bytes_last_le encoding target
      have hrest := ih (s.last encoding target)
      rw [List.foldl_cons, List.flatten_cons, List.length_append]
      omega
  unfold addTo
  split
  · omega
  · split
    · rw [Footprint.bytes_add]
      omega
    · have hle := hfold (f.states + 1) (ByteRuns.ofSet set) ⟨f.add 2 0, ∅⟩
      rw [Footprint.bytes_add] at hle
      dsimp only
      rw [Footprint.bytes_add]
      omega

end NamePattern.CharRegex
