import Mathlib
import NamePattern.Name

/-! Sub-names and beginnings of names. Positions and counts may be words of 64 bits: sums that would
wrap around stop at the greatest word, and the answers are those in unbounded numbers. -/
namespace NamePattern

/-- The sum of two words, or the greatest word if the sum wraps around. -/
def Word.addSaturating (a b : UInt64) : UInt64 := if a + b < a then .ofNat (2 ^ 64 - 1) else a + b

theorem Word.toNat_addSaturating (a b : UInt64) :
    (addSaturating a b).toNat = min (a.toNat + b.toNat) (2 ^ 64 - 1) := by
  have ha : a.toNat < 2 ^ 64 := a.toNat_lt
  have hb : b.toNat < 2 ^ 64 := b.toNat_lt
  have hsum : (a + b).toNat = (a.toNat + b.toNat) % 2 ^ 64 := UInt64.toNat_add a b
  unfold addSaturating
  split
  · next hwraps =>
    have hlt : (a + b).toNat < a.toNat := UInt64.lt_iff_toNat_lt.mp hwraps
    have hgreatest : (UInt64.ofNat (2 ^ 64 - 1)).toNat = 2 ^ 64 - 1 := rfl
    omega
  · next hfits =>
    have hle : a.toNat ≤ (a + b).toNat := UInt64.le_iff_toNat_le.mp (UInt64.not_lt.mp hfits)
    omega

namespace Name

variable {n p : Name}

/-- The number of components as a word. -/
def wordLength (n : Name) : UInt64 := .ofNat n.length

theorem toNat_wordLength (h : n.length < 2 ^ 64) : n.wordLength.toNat = n.length :=
  UInt64.toNat_ofNat_of_lt' h

/-- The components from position `start` on, at most `count` of them, computed in words. There is no
answer if the two positions that result do not bound a slice. -/
def wordSubName? (n : Name) (start count : UInt64) : Option Name :=
  let first := min start n.wordLength
  let last := min (Word.addSaturating first count) n.wordLength
  n.slice? first.toNat last.toNat

/-- A position behind the end counts as the end, and so does the end of what is asked for. -/
theorem subName_clamped (n : Name) (start count : Nat) :
    n.subName (min start n.length) (min (min start n.length + count) n.length - min start n.length) =
      n.subName start count := by
  obtain ⟨cs⟩ := n
  have hdrop : cs.drop (min start cs.length) = cs.drop start := by
    rw [List.drop_eq_drop_iff]
    omega
  have htake : (cs.drop start).take (min (min start cs.length + count) cs.length - min start cs.length) =
      (cs.drop start).take count := by
    rw [List.take_eq_take_iff, List.length_drop]
    omega
  simp only [subName, length, hdrop, htake]

/-- The word that a sum stops at is not below the length of any name. -/
theorem wordSubName?_eq (h : n.length < 2 ^ 64) (start count : UInt64) :
    n.wordSubName? start count = some (n.subName start.toNat count.toNat) := by
  have hfirst : (min start n.wordLength).toNat = min start.toNat n.length := by
    rw [UInt64.toNat_min, toNat_wordLength h]
  have hlast : (min (Word.addSaturating (min start n.wordLength) count) n.wordLength).toNat =
      min (min start.toNat n.length + count.toNat) n.length := by
    rw [UInt64.toNat_min, Word.toNat_addSaturating, hfirst, toNat_wordLength h]
    omega
  have hbounds : min start.toNat n.length ≤ min (min start.toNat n.length + count.toNat) n.length ∧
      min (min start.toNat n.length + count.toNat) n.length ≤ n.length := by
    omega
  unfold wordSubName? slice?
  dsimp only
  rw [hfirst, hlast, if_pos hbounds, subName_clamped]

theorem get?_subName_eq (n : Name) (start count i : Nat) :
    (n.subName start count).get? i = if i < count then n.get? (start + i) else none := by
  simp only [subName, get?, List.getElem?_take, List.getElem?_drop]

/-- A sub-name of a sub-name ends where the first of the two counts runs out. -/
theorem subName_of_subName (n : Name) (start count offset limit : Nat) :
    (n.subName start count).subName offset limit =
      n.subName (start + offset) (min limit (count - offset)) := by
  simp only [subName, List.drop_take, List.drop_drop, List.take_take]

theorem length_subName_le (n : Name) (start count : Nat) :
    (n.subName start count).length ≤ n.length := by
  simp only [subName, length, List.length_take, List.length_drop]
  omega

theorem append_eq (m n : Name) : m ++ n = ⟨m.components ++ n.components⟩ := rfl

theorem take_append_subName {k count : Nat} (h : n.length ≤ k + count) :
    n.take k ++ n.subName k count = n := by
  have hwhole : (n.components.drop k).take count = n.components.drop k := by
    apply List.take_of_length_le
    rw [List.length_drop]
    exact Nat.sub_le_iff_le_add'.mpr h
  rw [append_eq, take, subName, subName, List.drop_zero, hwhole, List.take_append_drop]

theorem isPrefixOf_iff : p.isPrefixOf n = true ↔ p.components <+: n.components :=
  List.isPrefixOf_iff_prefix

theorem isPrefixOf_iff_take : p.isPrefixOf n = true ↔ n.take p.length = p := by
  rw [isPrefixOf_iff, List.prefix_iff_eq_take]
  constructor
  · intro h
    exact congrArg Name.mk h.symm
  · intro h
    exact (congrArg components h).symm

theorem isPrefixOf_iff_append : p.isPrefixOf n = true ↔ ∃ q, n = p ++ q := by
  rw [isPrefixOf_iff]
  constructor
  · rintro ⟨cs, hcs⟩
    exact ⟨⟨cs⟩, congrArg Name.mk hcs.symm⟩
  · rintro ⟨q, rfl⟩
    exact ⟨q.components, rfl⟩

/-- Sub-names that are computed in words are those in unbounded numbers: the components from a
position on, at most so many of them. A sub-name of a sub-name is a sub-name, and the first
components with all that follow them are the name. A name is a prefix of another one if it is what
the other one begins with, and then some components follow. -/
theorem subName_in_words (n : Name) (h : n.length < 2 ^ 64) :
    (∀ start count, n.wordSubName? start count = some (n.subName start.toNat count.toNat)) ∧
    (∀ start count i, (n.subName start count).get? i =
      if i < count then n.get? (start + i) else none) ∧
    (∀ start count offset limit, (do (← n.wordSubName? start count).wordSubName? offset limit) =
      some (n.subName (start.toNat + offset.toNat) (min limit.toNat (count.toNat - offset.toNat)))) ∧
    (∀ k, (do return (← n.wordSubName? 0 k) ++ (← n.wordSubName? k (.ofNat (2 ^ 64 - 1)))) = some n) ∧
    ∀ p : Name, (p.isPrefixOf n = true ↔ n.take p.length = p) ∧
      (p.isPrefixOf n = true ↔ ∃ q, n = p ++ q) := by
  refine ⟨wordSubName?_eq h, n.get?_subName_eq, fun start count offset limit => ?_, fun k => ?_,
    fun p => ⟨isPrefixOf_iff_take, isPrefixOf_iff_append⟩⟩
  · have hlength : (n.subName start.toNat count.toNat).length < 2 ^ 64 :=
      Nat.lt_of_le_of_lt (n.length_subName_le _ _) h
    rw [wordSubName?_eq h, ← subName_of_subName]
    exact wordSubName?_eq hlength offset limit
  · have hrest : n.length ≤ k.toNat + (UInt64.ofNat (2 ^ 64 - 1)).toNat := by
      have hgreatest : (UInt64.ofNat (2 ^ 64 - 1)).toNat = 2 ^ 64 - 1 := rfl
      omega
    rw [wordSubName?_eq h, wordSubName?_eq h]
    exact congrArg some (take_append_subName hrest)

/-- The last position and the greatest count have no sum among the words. -/
theorem subName_in_words_wrapped :
    let n : Name := ⟨[⟨[97]⟩, ⟨[98]⟩, ⟨[99]⟩]⟩
    n.length < 2 ^ 64 ∧ n.wordSubName? 2 (.ofNat (2 ^ 64 - 1)) = some ⟨[⟨[99]⟩]⟩ ∧
      (do (← n.wordSubName? 1 (.ofNat (2 ^ 64 - 1))).wordSubName? 1 (.ofNat (2 ^ 64 - 1))) =
        some ⟨[⟨[99]⟩]⟩ ∧
      (do (← n.wordSubName? 0 1).wordSubName? 2 1) = some empty := by
  intro n
  have h : n.length < 2 ^ 64 := by decide
  obtain ⟨hword, -, hnested, -⟩ := subName_in_words n h
  exact ⟨h, hword 2 _, hnested 1 _ 1 _, hnested 0 1 2 1⟩

end Name

end NamePattern
