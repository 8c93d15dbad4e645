import NamePattern.Proofs.Built
import NamePattern.Proofs.Decision

/-! Matching a node of an arena with a run of components decides the language of its tree. -/
namespace NamePattern

theorem map_getElem?_range' {β : Type} (l : List β) {offset length : Nat}
    (h : offset + length ≤ l.length) :
    (List.range' offset length).map (fun i => l[i]?) = ((l.drop offset).take length).map some := by
  refine List.ext_getElem (by simp; omega) fun i hi hi' => ?_
  have hi : i < length := by simpa using hi
  simp [List.getElem?_eq_getElem (show offset + i < l.length by omega)]

namespace Answers

theorem hit_ofLeaf (components : Array Component) (leaf : Leaf) (i : Nat) :
    (ofLeaf components leaf).Hit i ↔ ∃ c, components[i]? = some c ∧ leaf.Accepts c := by
  unfold Hit
  rw [get_ofLeaf]
  cases components[i]? with
  | none => simp
  | some c => simp [leaf.isSome_answer]

end Answers

namespace Matcher

/-- Matching positions of a name is matching the components that stand there. -/
theorem language_ofLeaf (m : Matcher Leaf) (name : Name) {offset length : Nat}
    (h : offset + length ≤ name.length) :
    (m.map (.ofLeaf name.components.toArray)).Language Answers.Hit (List.range' offset length) ↔
      m.Language Leaf.Accepts (name.subName offset length).components := by
  let accepts (leaf : Leaf) (c : Option Component) : Prop := ∃ c', c = some c' ∧ leaf.Accepts c'
  have hleaf : (fun leaf i => (Answers.ofLeaf name.components.toArray leaf).Hit i) =
      fun leaf i => accepts leaf name.components[i]? := by
    funext leaf i
    rw [Answers.hit_ofLeaf, List.getElem?_toArray]
  have hrun := map_getElem?_range' name.components h
  rw [language_map, hleaf, ← language_run_map accepts, hrun, language_run_map]
  simp [accepts, Name.subName]

end Matcher

namespace Arena

variable {a : Arena} {m : Matcher Leaf} {name : Name} {offset length : Nat}

theorem isMatchAt_of_stored {id : NodeId} {text : List Char}
    (h : a.nodes[id]? = some ⟨text, .matcher m⟩) (hlen : offset + length ≤ name.length) :
    a.isMatchAt id name offset length =
      (m.map (.ofLeaf name.components.toArray)).run offset length := by
  unfold isMatchAt
  rw [if_pos hlen, h]

theorem Holds.isMatchAt_decides (h : a.Holds m) (hlen : offset + length ≤ name.length) :
    (a.isMatchAt m.id name offset length).Decides
      (m.Language Leaf.Accepts (name.subName offset length).components) := by
  obtain ⟨text, hn⟩ := h.stored m m.self_mem_subtrees
  rw [isMatchAt_of_stored hn hlen]
  exact ((m.map _).run_decides offset length).congr (m.language_ofLeaf name hlen)

theorem matchAt_isSome (a : Arena) (id : NodeId) (name : Name) (offset length : Nat) :
    (a.matchAt id name offset length).isSome =
      (a.isMatchAt id name offset length (.empty a.size)).1 := by
  unfold matchAt
  split <;> next h => simp [h]

/-- What a match captures is resolved from the slots that it leaves. -/
theorem matchAt_eq_some {id : NodeId} {c : Captures}
    (h : a.matchAt id name offset length = some c) :
    offset + length ≤ name.length ∧
      ∃ s, a.isMatchAt id name offset length (.empty a.size) = (true, s) ∧
        c = ⟨(name.subName offset length).components, a.registry.refs.map (s.resolve name), false⟩ := by
  unfold matchAt at h
  split at h
  · next s hs =>
    cases h
    refine ⟨Decidable.byContradiction fun hle => ?_, s, hs, rfl⟩
    rw [isMatchAt, if_neg hle] at hs
    cases hs
  · cases h

/-- In an arena that any calls lead to, every node of a tree that was returned matches the runs of
its language and no others, whatever the slots hold. -/
theorem Built.matching_decides {roots : List (Matcher Leaf)} {root t : Matcher Leaf}
    (h : a.Built roots) (hroot : root ∈ roots) (ht : t ∈ root.subtrees)
    (hlen : offset + length ≤ name.length) :
    (∀ slots, (a.isMatchAt t.id name offset length slots).1 = true ↔
        t.Language Leaf.Accepts (name.subName offset length).components) ∧
      ((a.matchAt t.id name offset length).isSome = true ↔
        t.Language Leaf.Accepts (name.subName offset length).components) ∧
      ∀ slots slots', (a.isMatchAt t.id name offset length slots).1 =
        (a.isMatchAt t.id name offset length slots').1 := by
  have hd := ((h.holds root hroot).part ht).isMatchAt_decides hlen
  refine ⟨hd, ?_, fun slots slots' => ?_⟩
  · rw [matchAt_isSome]
    exact hd _
  · rw [Bool.eq_iff_iff, hd slots, hd slots']

/-- Two components are two repetitions of `<>`. -/
theorem Built.matching_decides_star :
    ∃ m b, (Call.repeatAt ['<', '>', '*'] 2).build (.empty false) = .ok m b ∧
      (b.matchAt m.id ⟨[⟨[97]⟩, ⟨[98]⟩]⟩ 0 2).isSome = true := by
  let m : Matcher Leaf := .repeated 2 (.set 1 [⟨0, none, []⟩] true) ⟨0, Bounds.unbounded, by decide⟩
  obtain ⟨b, hb⟩ : ∃ b, (Call.repeatAt ['<', '>', '*'] 2).build (.empty false) = .ok m b :=
    ⟨_, rfl⟩
  refine ⟨m, b, hb, ?_⟩
  refine ((Built.success _ (.empty false) hb).matching_decides (List.mem_singleton_self m)
    m.self_mem_subtrees (by decide)).2.1.mpr (.inr ⟨by decide, [[⟨[97]⟩], [⟨[98]⟩]], by decide,
      by decide, by decide, ?_, by decide⟩)
  simp [Matcher.Language, Leaf.Accepts]

end Arena

end NamePattern
