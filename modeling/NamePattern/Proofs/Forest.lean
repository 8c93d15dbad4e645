import Mathlib.Data.List.Nodup
import Mathlib.Data.List.Pairwise
import Mathlib.Data.List.Perm.Basic
import Mathlib.Logic.Relation
import NamePattern.Proofs.Allocation
import NamePattern.Proofs.Failure

/-! The nodes of an arena refer to each other as the nodes of a forest do, and the registry refers
to groups that are finished. -/
namespace NamePattern

namespace Matcher

/-- The nodes that the root of a tree refers to. -/
def children : Matcher Leaf → List NodeId
  | component _ leaf => leaf.groups
  | set _ members _ => members.map Leaf.id
  | group _ inner => [inner.id]
  | repeated _ inner _ => [inner.id]
  | list _ items => items.map Matcher.id

/-- The references of all nodes of a tree. -/
def links (m : Matcher Leaf) : List NodeId := m.subtrees.flatMap children

mutual

/-- Every node of a tree is referred to once by the others, except for the root, which is not. -/
theorem links_perm : ∀ m : Matcher Leaf, (m.id :: m.links).Perm m.allocated
  | component id leaf => by
    simp only [links, subtrees, allocated, children, Matcher.id, List.flatMap_singleton]
    exact (List.perm_append_singleton id _).symm
  | set id members inclusion => by
    have hleaves : (members.map Leaf.id ++ members.flatMap Leaf.groups).Perm
        (members.flatMap fun leaf => leaf.groups ++ [leaf.id]) := by
      rw [List.map_eq_flatMap]
      refine List.perm_append_comm.trans ?_
      exact List.flatMap_append_perm members Leaf.groups fun leaf => [leaf.id]
    simp only [links, subtrees, allocated, children, Matcher.id, List.flatMap_cons,
      List.flatMap_map]
    exact (hleaves.cons id).trans (List.perm_append_singleton id _).symm
  | group id inner => (links_perm inner).cons id
  | repeated id inner _ =>
    ((links_perm inner).cons id).trans (List.perm_append_singleton id _).symm
  | list id items =>
    ((itemLinks_perm items).cons id).trans (List.perm_append_singleton id _).symm

theorem itemLinks_perm : ∀ items : List (Matcher Leaf),
    (items.map Matcher.id ++ (itemSubtrees items).flatMap children).Perm (itemAllocated items)
  | [] => .nil
  | item :: items => by
    have hitem := links_perm item
    have hitems := itemLinks_perm items
    rw [links] at hitem
    rw [List.perm_iff_count] at hitem hitems ⊢
    intro i
    have h := hitem i
    have h' := hitems i
    simp only [itemSubtrees, itemAllocated, List.map_cons, List.cons_append, List.count_cons,
      List.count_append, List.flatMap_append] at h h' ⊢
    omega

end

/-- The nodes that the root refers to are those of the parts, and those of the groups of a leaf. -/
theorem mem_children {m : Matcher Leaf} {i : NodeId} (h : i ∈ m.children) :
    (∃ t ∈ m.subtrees, t.id = i ∧ t.subtrees.length < m.subtrees.length) ∨
      ∃ id leaf, m = component id leaf ∧ i ∈ leaf.groups := by
  cases m with
  | component id leaf => exact .inr ⟨id, leaf, rfl, h⟩
  | set id members inclusion =>
    obtain ⟨leaf, hleaf, hid⟩ := List.mem_map.mp h
    have hmem := List.mem_map_of_mem (f := fun leaf : Leaf => component leaf.id leaf) hleaf
    refine .inl ⟨component leaf.id leaf, ?_, hid, ?_⟩
    · rw [subtrees]
      exact List.mem_cons_of_mem _ hmem
    · have hpos := List.length_pos_of_mem hmem
      simpa [subtrees] using hpos
  | group id inner =>
    refine .inl ⟨inner, ?_, (List.mem_singleton.mp h).symm, ?_⟩
    · rw [subtrees]
      exact List.mem_cons_of_mem _ inner.self_mem_subtrees
    · rw [subtrees]
      exact Nat.lt_succ_self _
  | repeated id inner bounds =>
    refine .inl ⟨inner, ?_, (List.mem_singleton.mp h).symm, ?_⟩
    · rw [subtrees]
      exact List.mem_cons_of_mem _ inner.self_mem_subtrees
    · rw [subtrees]
      exact Nat.lt_succ_self _
  | list id items =>
    obtain ⟨item, hitem, hid⟩ := List.mem_map.mp h
    have hparts : item.subtrees.Sublist (itemSubtrees items) := by
      rw [itemSubtrees_eq]
      exact List.sublist_flatten_of_mem (List.mem_map_of_mem hitem)
    refine .inl ⟨item, ?_, hid, ?_⟩
    · rw [subtrees]
      exact List.mem_cons_of_mem _ (hparts.subset item.self_mem_subtrees)
    · rw [subtrees]
      exact Nat.lt_succ_of_le hparts.length_le

mutual

/-- What captures is a group or belongs to a leaf. -/
theorem mem_captures : ∀ {m : Matcher Leaf} {i : NodeId}, i ∈ m.captures →
    (∃ inner, group i inner ∈ m.subtrees) ∨
      ∃ id leaf, component id leaf ∈ m.subtrees ∧ i ∈ leaf.groups
  | component id leaf, i, h => .inr ⟨id, leaf, List.mem_singleton_self _, h⟩
  | set id members inclusion, i, h => by
    obtain ⟨leaf, hleaf, hi⟩ := List.mem_flatMap.mp h
    refine .inr ⟨leaf.id, leaf, ?_, hi⟩
    rw [subtrees]
    exact List.mem_cons_of_mem _
      (List.mem_map_of_mem (f := fun leaf : Leaf => component leaf.id leaf) hleaf)
  | group id inner, i, h => by
    rw [subtrees]
    obtain h | h := List.mem_cons.mp h
    · exact .inl ⟨inner, h ▸ List.mem_cons_self ..⟩
    · obtain ⟨inner', ht⟩ | ⟨id', leaf, ht, hi⟩ := mem_captures h
      · exact .inl ⟨inner', List.mem_cons_of_mem _ ht⟩
      · exact .inr ⟨id', leaf, List.mem_cons_of_mem _ ht, hi⟩
  | repeated id inner bounds, i, h => by
    rw [subtrees]
    obtain ⟨inner', ht⟩ | ⟨id', leaf, ht, hi⟩ := mem_captures (m := inner) h
    · exact .inl ⟨inner', List.mem_cons_of_mem _ ht⟩
    · exact .inr ⟨id', leaf, List.mem_cons_of_mem _ ht, hi⟩
  | list id items, i, h => by
    rw [subtrees]
    have hitems : i ∈ itemCaptures items := h
    obtain ⟨inner', ht⟩ | ⟨id', leaf, ht, hi⟩ := mem_itemCaptures hitems
    · exact .inl ⟨inner', List.mem_cons_of_mem _ ht⟩
    · exact .inr ⟨id', leaf, List.mem_cons_of_mem _ ht, hi⟩

theorem mem_itemCaptures : ∀ {items : List (Matcher Leaf)} {i : NodeId}, i ∈ itemCaptures items →
    (∃ inner, group i inner ∈ itemSubtrees items) ∨
      ∃ id leaf, component id leaf ∈ itemSubtrees items ∧ i ∈ leaf.groups
  | item :: items, i, h => by
    rw [itemSubtrees]
    obtain h | h := List.mem_append.mp h
    · obtain ⟨inner', ht⟩ | ⟨id', leaf, ht, hi⟩ := mem_captures h
      · exact .inl ⟨inner', List.mem_append_left _ ht⟩
      · exact .inr ⟨id', leaf, List.mem_append_left _ ht, hi⟩
    · obtain ⟨inner', ht⟩ | ⟨id', leaf, ht, hi⟩ := mem_itemCaptures h
      · exact .inl ⟨inner', List.mem_append_right _ ht⟩
      · exact .inr ⟨id', leaf, List.mem_append_right _ ht, hi⟩

end

end Matcher

/-- The nodes that a node refers to. -/
def Content.children : Content → List NodeId
  | reserved => []
  | pseudo => []
  | matcher m => m.children

/-- Of lists without common members, only one has a given member. -/
theorem eq_of_mem_of_nodup_flatMap {α β : Type} {l : List α} {f : α → List β} {x y : α} {z : β}
    (h : (l.flatMap f).Nodup) (hx : x ∈ l) (hy : y ∈ l) (hzx : z ∈ f x) (hzy : z ∈ f y) :
    x = y := by
  by_contra hne
  have hsymm : Std.Symm (Function.onFun List.Disjoint f) :=
    ⟨fun _ _ hdisjoint => List.disjoint_symm hdisjoint⟩
  exact (List.nodup_flatMap.mp h).2.forall hx hy hne hzx hzy

namespace Arena

/-- A node refers to another one. -/
def Child (a : Arena) (i j : NodeId) : Prop := ∃ n, a.nodes[i]? = some n ∧ j ∈ n.content.children

theorem child_of_stored {a : Arena} {t : Matcher Leaf} {j : NodeId} (hj : j ∈ t.children)
    (h : ∃ text, a.nodes[t.id]? = some ⟨text, .matcher t⟩) : a.Child t.id j := by
  obtain ⟨text, hnode⟩ := h
  exact ⟨_, hnode, hj⟩

mutual

/-- References lead from the root of a tree to all its parts. -/
theorem reaches_part {a : Arena} : ∀ {m : Matcher Leaf},
    (∀ t ∈ m.subtrees, ∃ text, a.nodes[t.id]? = some ⟨text, .matcher t⟩) →
    ∀ t ∈ m.subtrees, Relation.ReflTransGen a.Child m.id t.id
  | .component id leaf, _, t, ht => by
    rw [List.mem_singleton.mp ht]
  | .set id members inclusion, h, t, ht => by
    have hroot := h _ (Matcher.self_mem_subtrees _)
    rw [Matcher.subtrees] at ht
    obtain ht | ht := List.mem_cons.mp ht
    · rw [ht]
    · obtain ⟨leaf, hleaf, ht⟩ := List.mem_map.mp ht
      rw [← ht]
      exact .single (child_of_stored (List.mem_map_of_mem hleaf) hroot)
  | .group id inner, h, t, ht => by
    have hroot := h _ (Matcher.self_mem_subtrees _)
    rw [Matcher.subtrees] at h ht
    obtain ht | ht := List.mem_cons.mp ht
    · rw [ht]
    · have hinner := reaches_part (m := inner) (List.forall_mem_cons.mp h).2 t ht
      exact .head (child_of_stored (List.mem_singleton_self _) hroot) hinner
  | .repeated id inner bounds, h, t, ht => by
    have hroot := h _ (Matcher.self_mem_subtrees _)
    rw [Matcher.subtrees] at h ht
    obtain ht | ht := List.mem_cons.mp ht
    · rw [ht]
    · have hinner := reaches_part (m := inner) (List.forall_mem_cons.mp h).2 t ht
      exact .head (child_of_stored (List.mem_singleton_self _) hroot) hinner
  | .list id items, h, t, ht => by
    have hroot := h _ (Matcher.self_mem_subtrees _)
    rw [Matcher.subtrees] at h ht
    obtain ht | ht := List.mem_cons.mp ht
    · rw [ht]
    · obtain ⟨item, hitem, hpath⟩ := reaches_itemPart (List.forall_mem_cons.mp h).2 t ht
      exact .head (child_of_stored (List.mem_map_of_mem hitem) hroot) hpath

theorem reaches_itemPart {a : Arena} : ∀ {items : List (Matcher Leaf)},
    (∀ t ∈ Matcher.itemSubtrees items, ∃ text, a.nodes[t.id]? = some ⟨text, .matcher t⟩) →
    ∀ t ∈ Matcher.itemSubtrees items, ∃ item ∈ items, Relation.ReflTransGen a.Child item.id t.id
  | item :: items, h, t, ht => by
    rw [Matcher.itemSubtrees] at h ht
    obtain ⟨hitem, hitems⟩ := List.forall_mem_append.mp h
    obtain ht | ht := List.mem_append.mp ht
    · exact ⟨item, List.mem_cons_self .., reaches_part hitem t ht⟩
    · obtain ⟨other, hother, hpath⟩ := reaches_itemPart hitems t ht
      exact ⟨other, List.mem_cons_of_mem _ hother, hpath⟩

end

end Arena

/-- The nodes of a tree are those that references lead to from its root. -/
theorem Piece.Stored.mem_allocated_iff {a : Arena} {m : Matcher Leaf} (h : (tree m).Stored a)
    {i : NodeId} : i ∈ m.allocated ↔ Relation.ReflTransGen a.Child m.id i := by
  obtain ⟨hparts, hpseudos⟩ := h
  constructor
  · intro hi
    obtain ⟨t, ht, hid⟩ | ⟨id, leaf, hleaf, hg⟩ := m.mem_allocated.mp hi
    · rw [← hid]
      exact Arena.reaches_part hparts t ht
    · exact .tail (Arena.reaches_part hparts _ hleaf) (Arena.child_of_stored hg (hparts _ hleaf))
  · intro hpath
    induction hpath with
    | refl => exact m.mem_allocated.mpr (.inl ⟨m, m.self_mem_subtrees, rfl⟩)
    | tail _ hchild ih =>
      obtain ⟨n, hnode, hj⟩ := hchild
      obtain ⟨t, ht, hid⟩ | ⟨id, leaf, hleaf, hg⟩ := m.mem_allocated.mp ih
      · obtain ⟨text, hstored⟩ := hparts t ht
        rw [← hid, hstored] at hnode
        cases hnode
        obtain ⟨u, hu, hid, -⟩ | ⟨id, leaf, ht', hg⟩ := Matcher.mem_children hj
        · exact m.mem_allocated.mpr (.inl ⟨u, (m.subtrees_subset t ht).1 hu, hid⟩)
        · exact m.mem_allocated.mpr (.inr ⟨id, leaf, ht' ▸ ht, hg⟩)
      · rw [hpseudos id leaf hleaf _ hg] at hnode
        cases hnode
        cases hj

namespace Arena

/-- How the nodes of an arena refer to each other, and what is registered. -/
structure WellFormed (a : Arena) : Prop where
  /-- What a node matches is stored with its parts, all of them under their own numbers. -/
  stored : ∀ (i : NodeId) text m, a.nodes[i]? = some ⟨text, .matcher m⟩ →
    m.id = i ∧ (Piece.tree m).Stored a
  child_lt : ∀ i j, a.Child i j → j < a.size
  children_nodup : ∀ (i : NodeId) (n : Node), a.nodes[i]? = some n → n.content.children.Nodup
  parent_unique : ∀ i i' j, a.Child i j → a.Child i' j → i = i'
  acyclic : ∀ i, ¬ Relation.TransGen a.Child i i
  registered : ∀ i ∈ a.registry.refs, a.nodes[i]? = some ⟨[], .pseudo⟩ ∨
    ∃ text inner, a.nodes[i]? = some ⟨text, .matcher (.group i inner)⟩
  increasing : a.registry.refs.Pairwise (· < ·)
  /-- Nothing refers to the node of a group that was not finished. -/
  reserved : ∀ (i : NodeId) text, a.nodes[i]? = some ⟨text, .reserved⟩ →
    i ∉ a.registry.refs ∧ ∀ j, ¬ a.Child j i

/-- The size of the tree that a node stores. -/
def rank (a : Arena) (i : NodeId) : Nat :=
  match a.nodes[i]? with
  | some ⟨_, .matcher m⟩ => m.subtrees.length
  | _ => 0

theorem rank_of_stored {a : Arena} {i : NodeId} {text : List Char} {m : Matcher Leaf}
    (h : a.nodes[i]? = some ⟨text, .matcher m⟩) : a.rank i = m.subtrees.length := by
  rw [rank, h]

variable {a : Arena} {ps : List Piece} {m t : Matcher Leaf} {ignoreCase : Bool} {i j : NodeId}

namespace Row

variable (h : (Arena.empty ignoreCase).Row ps a)

include h

theorem nodup : (ps.flatMap Piece.allocated).Nodup := by
  rw [h.cover]
  exact List.nodup_range'

theorem piece_unique {p q : Piece} (hp : p ∈ ps) (hq : q ∈ ps) (hi : i ∈ p.allocated)
    (hi' : i ∈ q.allocated) : p = q :=
  eq_of_mem_of_nodup_flatMap h.nodup hp hq hi hi'

/-- What a node stores is a part of a piece. -/
theorem part_of_stored {text : List Char} (hnode : a.nodes[i]? = some ⟨text, .matcher t⟩) :
    t.id = i ∧ ∃ m, .tree m ∈ ps ∧ t ∈ m.subtrees := by
  obtain ⟨hlt, -⟩ := Array.getElem?_eq_some_iff.mp hnode
  obtain ⟨p, hp, hi⟩ := h.mem_iff.mpr ⟨Nat.zero_le i, hlt⟩
  have hstored := h.stored p hp
  cases p with
  | reserved id =>
    obtain ⟨text', hnode'⟩ := hstored
    rw [← List.mem_singleton.mp hi, hnode] at hnode'
    cases hnode'
  | tree m =>
    obtain ⟨u, hu, hid⟩ | ⟨id, leaf, hleaf, hg⟩ := m.mem_allocated.mp hi
    · obtain ⟨text', hnode'⟩ := hstored.1 u hu
      rw [hid, hnode] at hnode'
      cases hnode'
      exact ⟨hid, m, hp, hu⟩
    · rw [hstored.2 id leaf hleaf i hg] at hnode
      cases hnode

theorem exists_of_child (hchild : a.Child i j) :
    ∃ m t text, .tree m ∈ ps ∧ t ∈ m.subtrees ∧ t.id = i ∧ j ∈ t.children ∧
      a.nodes[i]? = some ⟨text, .matcher t⟩ := by
  obtain ⟨⟨text, content⟩, hnode, hj⟩ := hchild
  cases content with
  | reserved => cases hj
  | pseudo => cases hj
  | matcher t =>
    obtain ⟨hid, m, hm, ht⟩ := h.part_of_stored hnode
    exact ⟨m, t, text, hm, ht, hid, hj, hnode⟩

/-- A node that another one refers to stores a smaller tree, or it only captures. -/
theorem child_cases (hchild : a.Child i j) : a.rank j < a.rank i ∧
    (a.nodes[j]? = some ⟨[], .pseudo⟩ ∨ ∃ text u, a.nodes[j]? = some ⟨text, .matcher u⟩) := by
  obtain ⟨m, t, text, hm, ht, -, hj, hnode⟩ := h.exists_of_child hchild
  obtain ⟨hparts, hpseudos⟩ := h.stored _ hm
  rw [rank_of_stored hnode]
  obtain ⟨u, hu, hid, hlt⟩ | ⟨id, leaf, hleaf, hg⟩ := Matcher.mem_children hj
  · obtain ⟨text', hnode'⟩ := hparts u ((m.subtrees_subset t ht).1 hu)
    rw [hid] at hnode'
    rw [rank_of_stored hnode']
    exact ⟨hlt, .inr ⟨text', u, hnode'⟩⟩
  · have hpseudo := hpseudos id leaf (hleaf ▸ ht) j hg
    have hzero : a.rank j = 0 := by rw [rank, hpseudo]
    rw [hzero]
    exact ⟨List.length_pos_of_mem t.self_mem_subtrees, .inl hpseudo⟩

theorem links_nodup (hm : .tree m ∈ ps) : (m.id :: m.links).Nodup :=
  m.links_perm.nodup_iff.mpr ((List.nodup_flatMap.mp h.nodup).1 _ hm)

theorem children_nodup (hm : .tree m ∈ ps) (ht : t ∈ m.subtrees) : t.children.Nodup :=
  (List.nodup_flatMap.mp (h.links_nodup hm).of_cons).1 t ht

theorem parent_unique {i' : NodeId} (hchild : a.Child i j) (hchild' : a.Child i' j) : i = i' := by
  obtain ⟨m, t, -, hm, ht, hid, hj, -⟩ := h.exists_of_child hchild
  obtain ⟨m', t', -, hm', ht', hid', hj', -⟩ := h.exists_of_child hchild'
  have hmem {m t : Matcher Leaf} (ht : t ∈ m.subtrees) (hj : j ∈ t.children) : j ∈ m.allocated :=
    m.links_perm.subset (List.mem_cons_of_mem _ (List.mem_flatMap.mpr ⟨t, ht, hj⟩))
  have hpiece : Piece.tree m = .tree m' := h.piece_unique hm hm' (hmem ht hj) (hmem ht' hj')
  cases hpiece
  have hlinks : m.links.Nodup := (h.links_nodup hm).of_cons
  rw [← hid, ← hid', eq_of_mem_of_nodup_flatMap hlinks ht ht' hj hj']

theorem refs_sublist : a.registry.refs.Sublist (ps.flatMap Piece.captures) := by
  obtain ⟨ids, hids, hsub⟩ := h.registered
  rw [hids]
  exact hsub

theorem of_registered (hi : i ∈ a.registry.refs) : a.nodes[i]? = some ⟨[], .pseudo⟩ ∨
    ∃ text inner, a.nodes[i]? = some ⟨text, .matcher (.group i inner)⟩ := by
  obtain ⟨p, hp, hi⟩ := List.mem_flatMap.mp (h.refs_sublist.subset hi)
  cases p with
  | reserved id => cases hi
  | tree m =>
    obtain ⟨hparts, hpseudos⟩ := h.stored _ hp
    obtain ⟨inner, hgroup⟩ | ⟨id, leaf, hleaf, hg⟩ := Matcher.mem_captures hi
    · obtain ⟨text, hnode⟩ := hparts _ hgroup
      exact .inr ⟨text, inner, hnode⟩
    · exact .inl (hpseudos id leaf hleaf i hg)

theorem refs_increasing : a.registry.refs.Pairwise (· < ·) := by
  have hsub : (ps.flatMap Piece.captures).Sublist (ps.flatMap Piece.allocated) :=
    List.Sublist.flatMap_right ps fun p _ => p.captures_sublist
  have hrange : (ps.flatMap Piece.allocated).Pairwise (· < ·) := by
    rw [h.cover]
    exact List.pairwise_lt_range'
  exact hrange.sublist (h.refs_sublist.trans hsub)

theorem rank_lt (hpath : Relation.TransGen a.Child i j) : a.rank j < a.rank i := by
  induction hpath with
  | single hchild => exact (h.child_cases hchild).1
  | tail _ hchild ih => exact Nat.lt_trans (h.child_cases hchild).1 ih

theorem wellFormed : a.WellFormed where
  stored i text m hnode := by
    obtain ⟨hid, m', hm', ht⟩ := h.part_of_stored hnode
    have hwhole : (Piece.tree m').Stored a := h.stored _ hm'
    exact ⟨hid, hwhole.part ht⟩
  child_lt i j hchild := by
    obtain ⟨-, hnode | ⟨text, u, hnode⟩⟩ := h.child_cases hchild
    · exact (Array.getElem?_eq_some_iff.mp hnode).1
    · exact (Array.getElem?_eq_some_iff.mp hnode).1
  children_nodup i n hnode := by
    obtain ⟨text, content⟩ := n
    cases content with
    | reserved => exact .nil
    | pseudo => exact .nil
    | matcher t =>
      obtain ⟨-, m, hm, ht⟩ := h.part_of_stored hnode
      exact h.children_nodup hm ht
  parent_unique i i' j hchild hchild' := h.parent_unique hchild hchild'
  acyclic i hpath := Nat.lt_irrefl _ (h.rank_lt hpath)
  registered i hi := h.of_registered hi
  increasing := h.refs_increasing
  reserved i text hnode := by
    refine ⟨fun hi => ?_, fun j hchild => ?_⟩
    · obtain hnode' | ⟨text', inner, hnode'⟩ := h.of_registered hi
      · rw [hnode'] at hnode
        cases hnode
      · rw [hnode'] at hnode
        cases hnode
    · obtain ⟨-, hnode' | ⟨text', u, hnode'⟩⟩ := h.child_cases hchild
      · rw [hnode'] at hnode
        cases hnode
      · rw [hnode'] at hnode
        cases hnode

end Row

theorem Built.wellFormed {ts : List (Matcher Leaf)} (h : a.Built ts) : a.WellFormed := by
  obtain ⟨ps, hps⟩ := h.row
  exact hps.wellFormed

theorem Built.run {ts : List (Matcher Leaf)} (h : a.Built ts) (cs : List Call) :
    (Call.run cs (a, ts)).1.Built (Call.run cs (a, ts)).2 := by
  induction cs generalizing a ts with
  | nil => exact h
  | cons c cs ih =>
    unfold Call.run at ih ⊢
    rw [List.foldl_cons]
    cases hc : c.build a with
    | ok m b =>
      have hstep : Call.step (a, ts) c = (b, m :: ts) := by simp only [Call.step, hc]
      rw [hstep]
      exact ih (.success c h hc)
    | error e b =>
      have hstep : Call.step (a, ts) c = (b, ts) := by simp only [Call.step, hc]
      rw [hstep]
      exact ih (.failure c h hc)

/-- Whatever calls are made of a new arena, its nodes make a forest, and its registry numbers
finished groups in the order of their nodes. -/
theorem wellFormed_run (ignoreCase : Bool) (cs : List Call) :
    (Call.run cs (.empty ignoreCase, [])).1.WellFormed :=
  ((Built.empty ignoreCase).run cs).wellFormed

end Arena

end NamePattern
