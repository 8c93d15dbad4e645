import NamePattern.Pattern.Arena

/-! What builders add to an arena, and what they keep of it. -/
namespace NamePattern

/-- A leaf has one node for each group of its regex. -/
def Leaf.Numbered (leaf : Leaf) : Prop :=
  leaf.groups.length = leaf.regex.elim 0 CharRegex.groups

namespace Matcher

mutual

/-- A pattern and the patterns that it is made of. The members of a set are patterns too. -/
def subtrees : Matcher Leaf → List (Matcher Leaf)
  | component id leaf => [component id leaf]
  | set id members inclusion =>
    set id members inclusion :: members.map fun leaf => component leaf.id leaf
  | group id inner => group id inner :: subtrees inner
  | repeated id inner bounds => repeated id inner bounds :: subtrees inner
  | list id items => list id items :: itemSubtrees items

def itemSubtrees : List (Matcher Leaf) → List (Matcher Leaf)
  | [] => []
  | item :: items => subtrees item ++ itemSubtrees items

end

mutual

/-- The nodes of a pattern that capture, in the order in which they are numbered: a group comes
before the groups that it contains. -/
def captures : Matcher Leaf → List NodeId
  | component _ leaf => leaf.groups
  | set _ members _ => members.flatMap Leaf.groups
  | group id inner => id :: captures inner
  | repeated _ inner _ => captures inner
  | list _ items => itemCaptures items

def itemCaptures : List (Matcher Leaf) → List NodeId
  | [] => []
  | item :: items => captures item ++ itemCaptures items

end

theorem self_mem_subtrees (m : Matcher Leaf) : m ∈ m.subtrees := by
  cases m <;> simp [subtrees]

end Matcher

namespace Arena

/-- An arena keeps the nodes and the registered groups of another one, and may have more. -/
structure Extends (a b : Arena) : Prop where
  size_le : a.size ≤ b.size
  node : ∀ i < a.size, b.nodes[i]? = a.nodes[i]?
  registry : a.registry.refs <+: b.registry.refs
  ignoreCase : b.ignoreCase = a.ignoreCase

/-- An arena has come to hold some trees, all of them on new nodes, and to number some new nodes
as groups. -/
structure Grows (a : Arena) (trees : List (Matcher Leaf)) (ids : List NodeId) (b : Arena) : Prop
    extends a.Extends b where
  stored : ∀ t ∈ trees, a.size ≤ t.id ∧ ∃ text, b.nodes[t.id]? = some ⟨text, .matcher t⟩
  registered : b.registry.refs = a.registry.refs ++ ids
  increasing : ids.Pairwise (· < ·)
  fresh : ∀ id ∈ ids, a.size ≤ id ∧ id < b.size
  numbered : ∀ id leaf, .component id leaf ∈ trees → leaf.Numbered

variable {a b c : Arena} {trees others : List (Matcher Leaf)} {ids ids' : List NodeId}

namespace Extends

protected theorem refl (a : Arena) : a.Extends a :=
  ⟨Nat.le_refl _, fun _ _ => rfl, List.prefix_rfl, rfl⟩

protected theorem trans (hab : a.Extends b) (hbc : b.Extends c) : a.Extends c where
  size_le := Nat.le_trans hab.size_le hbc.size_le
  node i hi := (hbc.node i (Nat.lt_of_lt_of_le hi hab.size_le)).trans (hab.node i hi)
  registry := hab.registry.trans hbc.registry
  ignoreCase := hbc.ignoreCase.trans hab.ignoreCase

/-- Nodes that are there stay what they are. -/
theorem node_of_some (h : a.Extends b) {i : NodeId} {n : Node} (hn : a.nodes[i]? = some n) :
    b.nodes[i]? = some n := by
  obtain ⟨hi, -⟩ := Array.getElem?_eq_some_iff.mp hn
  rw [h.node i hi, hn]

end Extends

namespace Grows

protected theorem refl (a : Arena) : a.Grows [] [] a :=
  ⟨.refl a, by simp, by simp, .nil, by simp, by simp⟩

theorem trans (hab : a.Grows trees ids b) (hbc : b.Grows others ids' c) :
    a.Grows (trees ++ others) (ids ++ ids') c where
  toExtends := hab.toExtends.trans hbc.toExtends
  stored t ht := by
    rcases List.mem_append.mp ht with ht | ht
    · obtain ⟨hle, text, hn⟩ := hab.stored t ht
      exact ⟨hle, text, hbc.node_of_some hn⟩
    · obtain ⟨hle, hn⟩ := hbc.stored t ht
      exact ⟨Nat.le_trans hab.size_le hle, hn⟩
  registered := by rw [hbc.registered, hab.registered, List.append_assoc]
  increasing := by
    refine List.pairwise_append.mpr ⟨hab.increasing, hbc.increasing, fun i hi j hj => ?_⟩
    exact Nat.lt_of_lt_of_le (hab.fresh i hi).2 (hbc.fresh j hj).1
  fresh id hid := by
    rcases List.mem_append.mp hid with hid | hid
    · exact ⟨(hab.fresh id hid).1, Nat.lt_of_lt_of_le (hab.fresh id hid).2 hbc.size_le⟩
    · exact ⟨Nat.le_trans hab.size_le (hbc.fresh id hid).1, (hbc.fresh id hid).2⟩
  numbered id leaf hleaf := by
    rcases List.mem_append.mp hleaf with hleaf | hleaf
    · exact hab.numbered id leaf hleaf
    · exact hbc.numbered id leaf hleaf

/-- Where no group was registered before, all groups are among the new nodes. -/
theorem refs_lt (h : a.Grows trees ids b) (hnone : a.registry.refs = []) :
    ∀ id ∈ b.registry.refs, id < b.size := by
  intro id hid
  rw [h.registered, hnone, List.nil_append] at hid
  exact (h.fresh id hid).2

end Grows

end Arena

namespace Builder

variable {α β : Type} {x : Builder α} {f : α → Builder β} {a b : Arena}

@[simp] theorem get_apply : (get : Builder Arena) a = .ok a a := rfl

@[simp] theorem pure_apply (v : α) : (pure v : Builder α) a = .ok v a := rfl

@[simp] theorem throw_apply (e : CompileError) : (throw e : Builder α) a = .error e a := rfl

theorem bind_of_ok {v : α} (h : x a = .ok v b) : (x >>= f) a = f v b := by
  simp [bind, EStateM.bind, h]

theorem bind_of_error {e : CompileError} (h : x a = .error e b) : (x >>= f) a = .error e b := by
  simp [bind, EStateM.bind, h]

theorem bind_eq_ok {w : β} : (x >>= f) a = .ok w b ↔ ∃ v c, x a = .ok v c ∧ f v c = .ok w b := by
  cases h : x a with
  | ok v c =>
    rw [bind_of_ok h]
    exact ⟨fun hf => ⟨v, c, rfl, hf⟩, fun ⟨_, _, hv, hf⟩ => by cases hv; exact hf⟩
  | error e c => simp [bind_of_error h]

theorem bind_eq_error {e : CompileError} :
    (x >>= f) a = .error e b ↔ x a = .error e b ∨ ∃ v c, x a = .ok v c ∧ f v c = .error e b := by
  cases h : x a with
  | ok v c =>
    rw [bind_of_ok h]
    constructor
    · exact fun hf => .inr ⟨v, c, rfl, hf⟩
    · rintro (hv | ⟨_, _, hv, hf⟩)
      · simp at hv
      · cases hv
        exact hf
  | error e c => simp [bind_of_error h]

end Builder

end NamePattern
