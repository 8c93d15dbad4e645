import Mathlib
import NamePattern.Proofs.Capturing
import NamePattern.Proofs.Forest
import NamePattern.Proofs.Spelling

/-! Groups are numbered by where they open in the text of their pattern. -/
namespace NamePattern

namespace Arena

/-- How a call that makes a tree from a text changes the nodes and the groups of an arena. -/
structure Numbers (a : Arena) (text : List Char) (m : Matcher Leaf) (b : Arena) : Prop where
  /-- All new nodes are those of the tree. -/
  tree : ∀ i, Relation.ReflTransGen b.Child m.id i ↔ a.size ≤ i ∧ i < b.size
  /-- The groups of the tree are numbered behind the others. -/
  registered : b.registry.refs = a.registry.refs ++ m.captures
  once : m.captures.Nodup
  captured : ∀ i, i ∈ m.captures ↔ Relation.ReflTransGen b.Child m.id i ∧
    ∃ n, b.nodes[i]? = some n ∧ (n.content.kind = .group ∨ n.content.kind = .pseudo)
  /-- A leaf has a node for each group of its regex, and what these match goes to the nodes in their
  order. -/
  leaves : ∀ id leaf, .component id leaf ∈ m.subtrees → leaf.Numbered ∧
    ∀ c values, leaf.answer c = some values → values.map Prod.fst = leaf.groups
  /-- The text is made of those of the parts, which stand at their places. -/
  spelled : b.textOf m.id = text ∧ b.Spells m
  placed : (m.places b.textOf 0).map Prod.fst = m.subtrees ∧
    ∀ t p, (t, p) ∈ m.places b.textOf 0 → b.textOf t.id <+: text.drop p
  /-- Groups are numbered in the order in which they open. -/
  opened : (m.openings b.textOf).map Opening.node = m.captures
  ordered : (m.openings b.textOf).Pairwise Opening.Before

variable {a b : Arena} {m : Matcher Leaf} {i : NodeId}

/-- The groups of a tree are those of its nodes that are groups or groups of a component regex. -/
theorem mem_captures_iff (h : (Piece.tree m).Stored b) :
    i ∈ m.captures ↔ Relation.ReflTransGen b.Child m.id i ∧
      ∃ n, b.nodes[i]? = some n ∧ (n.content.kind = .group ∨ n.content.kind = .pseudo) := by
  rw [← h.mem_allocated_iff]
  obtain ⟨hparts, hpseudos⟩ := h
  constructor
  · intro hi
    refine ⟨m.captures_sublist.subset hi, ?_⟩
    obtain ⟨inner, hgroup⟩ | ⟨id, leaf, hleaf, hg⟩ := Matcher.mem_captures hi
    · obtain ⟨text, hnode⟩ := hparts _ hgroup
      exact ⟨_, hnode, .inl rfl⟩
    · exact ⟨_, hpseudos id leaf hleaf i hg, .inr rfl⟩
  · rintro ⟨hi, n, hnode, hkind⟩
    obtain ⟨t, ht, hid⟩ | ⟨id, leaf, hleaf, hg⟩ := m.mem_allocated.mp hi
    · obtain ⟨text, hstored⟩ := hparts t ht
      rw [← hid, hstored] at hnode
      cases hnode
      have hcaptures := (m.subtrees_subset t ht).2.subset
      cases t with
      | group id inner =>
        rw [← hid]
        exact hcaptures (List.mem_cons_self ..)
      | _ => cases hkind <;> contradiction
    · have hcaptures := (m.subtrees_subset _ hleaf).2.subset
      exact hcaptures hg

end Arena

/-- A call that succeeds numbers the groups of its tree in the order in which they open in its text,
behind those that were there, and all nodes that it allocates are those of its tree. -/
theorem Call.build_numbers {a b : Arena} {m : Matcher Leaf} (c : Call)
    (h : c.build a = .ok m b) : a.Numbers c.text m b := by
  have hrow : a.Row [.tree m] b := c.build_lays.ok h
  have hgrows : a.Grows m.subtrees m.captures b := (c.build_adds.ok h).2
  have hstored : (Piece.tree m).Stored b := hrow.stored _ (List.mem_singleton_self _)
  obtain ⟨hwhole, hspells⟩ := c.build_spells h
  have hstands : b.textOf m.id <+: c.text.drop 0 := hwhole.textOf ▸ List.prefix_rfl
  have hparts : ∀ t ∈ m.subtrees, t.Spelled b.textOf ∧ t.Counted := fun t ht =>
    ⟨hspells t ht, fun id leaf heq => hgrows.numbered id leaf (heq ▸ ht)⟩
  exact {
    tree := fun i => by
      rw [← hstored.mem_allocated_iff, ← hrow.mem_iff]
      simp [Piece.allocated]
    registered := hgrows.registered
    once := hgrows.increasing.imp Nat.ne_of_lt
    captured := fun i => Arena.mem_captures_iff hstored
    leaves := fun id leaf hleaf =>
      have hnum := hgrows.numbered id leaf hleaf
      ⟨hnum, fun _ _ hanswer => hnum.groups_of_answer hanswer⟩
    spelled := ⟨hwhole.textOf, hspells⟩
    placed := ⟨m.map_fst_places 0, m.prefix_of_mem_places hspells 0 hstands⟩
    opened := m.map_node_openings
    ordered := (m.places_spread hparts 0).ordered }

/-- Of nested groups the outer one comes first, and all of them before one that follows them. -/
theorem Call.build_numbers_nested :
    ∃ m b, (Call.patternList "((<(a)>)*)<(b)>".toList).build (.empty false) = .ok m b ∧
      (Arena.empty false).Numbers "((<(a)>)*)<(b)>".toList m b ∧
      m.openings b.textOf = [⟨0, 0, 0⟩, ⟨1, 1, 0⟩, ⟨2, 3, 0⟩, ⟨9, 11, 0⟩] := by
  obtain ⟨m, b, hbuild, hopenings⟩ : ∃ m b,
      (Call.patternList "((<(a)>)*)<(b)>".toList).build (.empty false) = .ok m b ∧
      m.openings b.textOf = [⟨0, 0, 0⟩, ⟨1, 1, 0⟩, ⟨2, 3, 0⟩, ⟨9, 11, 0⟩] :=
    ⟨_, _, by cbv, by cbv⟩
  exact ⟨m, b, hbuild, Call.build_numbers _ hbuild, hopenings⟩

end NamePattern
