import Mathlib.Data.List.Flatten
import NamePattern.Proofs.Built

/-! Which nodes builders allocate. A builder that succeeds allocates the nodes of its tree and no
others. One that fails leaves whole trees behind, and the nodes of groups that it did not finish. -/
namespace NamePattern

namespace Matcher

mutual

/-- The nodes of a tree in the order of their allocation. A group comes before what is inside it,
and any other node behind its parts. -/
def allocated : Matcher Leaf → List NodeId
  | component id leaf => leaf.groups ++ [id]
  | set id members _ => members.flatMap (fun leaf => leaf.groups ++ [leaf.id]) ++ [id]
  | group id inner => id :: allocated inner
  | repeated id inner _ => allocated inner ++ [id]
  | list id items => itemAllocated items ++ [id]

def itemAllocated : List (Matcher Leaf) → List NodeId
  | [] => []
  | item :: items => allocated item ++ itemAllocated items

end

variable {m t : Matcher Leaf} {i : NodeId}

theorem itemSubtrees_eq (items : List (Matcher Leaf)) :
    itemSubtrees items = items.flatMap subtrees := by
  induction items with
  | nil => rfl
  | cons item items ih => rw [itemSubtrees, ih, List.flatMap_cons]

theorem itemCaptures_eq (items : List (Matcher Leaf)) :
    itemCaptures items = items.flatMap captures := by
  induction items with
  | nil => rfl
  | cons item items ih => rw [itemCaptures, ih, List.flatMap_cons]

theorem itemAllocated_eq (items : List (Matcher Leaf)) :
    itemAllocated items = items.flatMap allocated := by
  induction items with
  | nil => rfl
  | cons item items ih => rw [itemAllocated, ih, List.flatMap_cons]

mutual

/-- The nodes of a tree are those of its parts, and those of the groups of its component regexes. -/
theorem mem_allocated : ∀ (m : Matcher Leaf) {i : NodeId}, i ∈ m.allocated ↔
    (∃ t ∈ m.subtrees, t.id = i) ∨ ∃ id leaf, component id leaf ∈ m.subtrees ∧ i ∈ leaf.groups
  | component id leaf, i => by
    simp only [allocated, subtrees, List.mem_append, List.mem_singleton, exists_eq_left, Matcher.id]
    grind
  | set id members inclusion, i => by
    simp only [allocated, subtrees, List.mem_append, List.mem_flatMap, List.mem_cons, List.mem_map,
      List.not_mem_nil, or_false, exists_eq_or_imp]
    grind [Matcher.id]
  | group id inner, i => by
    simp only [allocated, subtrees, List.mem_cons, mem_allocated inner, exists_eq_or_imp,
      Matcher.id]
    grind
  | repeated id inner bounds, i => by
    simp only [allocated, subtrees, List.mem_append, List.mem_cons, List.not_mem_nil, or_false,
      mem_allocated inner, exists_eq_or_imp, Matcher.id]
    grind
  | list id items, i => by
    simp only [allocated, subtrees, List.mem_append, List.mem_cons, List.not_mem_nil, or_false,
      mem_itemAllocated items, exists_eq_or_imp, Matcher.id]
    grind

theorem mem_itemAllocated : ∀ (items : List (Matcher Leaf)) {i : NodeId}, i ∈ itemAllocated items ↔
    (∃ t ∈ itemSubtrees items, t.id = i) ∨
      ∃ id leaf, component id leaf ∈ itemSubtrees items ∧ i ∈ leaf.groups
  | [], i => by simp [itemAllocated, itemSubtrees]
  | item :: items, i => by
    simp only [itemAllocated, itemSubtrees, List.mem_append, mem_allocated item,
      mem_itemAllocated items]
    grind

end

mutual

/-- Groups are numbered in the order of their allocation. -/
theorem captures_sublist : ∀ m : Matcher Leaf, m.captures.Sublist m.allocated
  | component _ leaf => List.sublist_append_left ..
  | set _ members _ => by
    rw [captures, allocated]
    refine List.Sublist.trans ?_ (List.sublist_append_left ..)
    exact List.Sublist.flatMap_right members fun leaf _ => List.sublist_append_left ..
  | group id inner => (captures_sublist inner).cons_cons id
  | repeated _ inner _ => (captures_sublist inner).trans (List.sublist_append_left ..)
  | list _ items => (itemCaptures_sublist items).trans (List.sublist_append_left ..)

theorem itemCaptures_sublist : ∀ items : List (Matcher Leaf),
    (itemCaptures items).Sublist (itemAllocated items)
  | [] => .slnil
  | item :: items => (captures_sublist item).append (itemCaptures_sublist items)

end

end Matcher

/-- A stretch of the nodes of an arena: a tree, or the node of a group that was not finished. -/
inductive Piece where
  | tree (m : Matcher Leaf)
  | reserved (id : NodeId)

namespace Piece

def allocated : Piece → List NodeId
  | tree m => m.allocated
  | reserved id => [id]

def captures : Piece → List NodeId
  | tree m => m.captures
  | reserved _ => []

/-- An arena stores a piece: every node of a tree under its number, and as nodes that only capture
the groups of the component regexes. -/
def Stored (a : Arena) : Piece → Prop
  | tree m => (∀ t ∈ m.subtrees, ∃ text, a.nodes[t.id]? = some ⟨text, .matcher t⟩) ∧
      ∀ id leaf, .component id leaf ∈ m.subtrees → ∀ g ∈ leaf.groups,
        a.nodes[g]? = some ⟨[], .pseudo⟩
  | reserved id => ∃ text, a.nodes[id]? = some ⟨text, .reserved⟩

theorem captures_sublist (p : Piece) : p.captures.Sublist p.allocated := by
  cases p with
  | tree m => exact m.captures_sublist
  | reserved id => exact List.nil_sublist _

theorem Stored.mono {a b : Arena} {p : Piece} (h : p.Stored a)
    (hkeep : ∀ i ∈ p.allocated, ∀ n, a.nodes[i]? = some n → b.nodes[i]? = some n) : p.Stored b := by
  cases p with
  | reserved id =>
    obtain ⟨text, hnode⟩ := h
    exact ⟨text, hkeep id (List.mem_singleton_self id) _ hnode⟩
  | tree m =>
    obtain ⟨hparts, hpseudos⟩ := h
    refine ⟨fun t ht => ?_, fun id leaf hleaf g hg => ?_⟩
    · obtain ⟨text, hnode⟩ := hparts t ht
      have hmem : t.id ∈ m.allocated := m.mem_allocated.mpr (.inl ⟨t, ht, rfl⟩)
      exact ⟨text, hkeep _ hmem _ hnode⟩
    · have hmem : g ∈ m.allocated := m.mem_allocated.mpr (.inr ⟨id, leaf, hleaf, hg⟩)
      exact hkeep g hmem _ (hpseudos id leaf hleaf g hg)

/-- The parts of a stored tree are stored. -/
theorem Stored.part {a : Arena} {m t : Matcher Leaf} (h : (tree m).Stored a)
    (ht : t ∈ m.subtrees) : (tree t).Stored a := by
  obtain ⟨hparts, hpseudos⟩ := h
  have hsub : t.subtrees ⊆ m.subtrees := (m.subtrees_subset t ht).1
  exact ⟨fun u hu => hparts u (hsub hu), fun id leaf hleaf => hpseudos id leaf (hsub hleaf)⟩

end Piece

namespace Arena

/-- What has been added to an arena is a row of pieces that covers the new nodes. The groups that
have been registered are groups of the pieces, in their order. -/
structure Row (a : Arena) (pieces : List Piece) (b : Arena) : Prop extends a.Extends b where
  cover : pieces.flatMap Piece.allocated = List.range' a.size (b.size - a.size)
  stored : ∀ p ∈ pieces, p.Stored b
  registered : ∃ ids, b.registry.refs = a.registry.refs ++ ids ∧
    ids.Sublist (pieces.flatMap Piece.captures)

variable {a b c : Arena} {ps qs : List Piece} {text : List Char} {m : Matcher Leaf}

theorem Extends.fill (h : a.Extends b) {id : NodeId} (hid : a.size ≤ id) (text : List Char)
    (content : Content) : a.Extends (b.fill id text content) where
  size_le := by simpa using h.size_le
  node i hi := by
    have hne : i ≠ id := Nat.ne_of_lt (Nat.lt_of_lt_of_le hi hid)
    rw [node_fill_ne hne, h.node i hi]
  registry := h.registry
  ignoreCase := h.ignoreCase

namespace Row

protected theorem refl (a : Arena) : a.Row [] a where
  toExtends := .refl a
  cover := by simp
  stored := by simp
  registered := ⟨[], (List.append_nil _).symm, .slnil⟩

theorem mem_iff (h : a.Row ps b) {i : NodeId} :
    (∃ p ∈ ps, i ∈ p.allocated) ↔ a.size ≤ i ∧ i < b.size := by
  have hle : a.size ≤ b.size := h.size_le
  rw [← List.mem_flatMap, h.cover, List.mem_range'_1, Nat.add_sub_cancel' hle]

protected theorem trans (hab : a.Row ps b) (hbc : b.Row qs c) : a.Row (ps ++ qs) c where
  toExtends := hab.toExtends.trans hbc.toExtends
  cover := by
    have hb : b.size = a.size + (b.size - a.size) := (Nat.add_sub_cancel' hab.size_le).symm
    have hc : c.size - a.size = b.size - a.size + (c.size - b.size) := by
      have hle := hab.size_le
      have hle' := hbc.size_le
      omega
    rw [List.flatMap_append, hab.cover, hbc.cover, hc, ← List.range'_append_1, ← hb]
  stored p hp := by
    obtain hp | hp := List.mem_append.mp hp
    · exact (hab.stored p hp).mono fun i _ n hn => hbc.node_of_some hn
    · exact hbc.stored p hp
  registered := by
    obtain ⟨ids, hids, hsub⟩ := hab.registered
    obtain ⟨ids', hids', hsub'⟩ := hbc.registered
    refine ⟨ids ++ ids', by rw [hids', hids, List.append_assoc], ?_⟩
    rw [List.flatMap_append]
    exact hsub.append hsub'

/-- A node is allocated behind its parts, which make one tree with it. -/
theorem push {ms : List (Matcher Leaf)} (h : a.Row (ms.map .tree) b) (text : List Char)
    (hid : m.id = b.size) (halloc : m.allocated = Matcher.itemAllocated ms ++ [m.id])
    (hsub : m.subtrees = m :: Matcher.itemSubtrees ms)
    (hcap : m.captures = Matcher.itemCaptures ms) (hleaf : ∀ id leaf, m ≠ .component id leaf) :
    a.Row [.tree m] (b.push text (.matcher m)) where
  toExtends := h.toExtends.trans (.push b ..)
  cover := by
    have hcover : Matcher.itemAllocated ms = List.range' a.size (b.size - a.size) := by
      rw [← h.cover, Matcher.itemAllocated_eq, List.flatMap_map]
      rfl
    have hsize : b.size + 1 - a.size = b.size - a.size + 1 := Nat.succ_sub h.size_le
    rw [List.flatMap_singleton, Piece.allocated, halloc, hcover, hid, size_push, hsize,
      List.range'_concat, Nat.one_mul, Nat.add_sub_cancel' h.size_le]
  stored p hp := by
    rw [List.mem_singleton.mp hp]
    have hkept {i : NodeId} {n : Node} (hn : b.nodes[i]? = some n) :
        (b.push text (.matcher m)).nodes[i]? = some n := (Extends.push b ..).node_of_some hn
    have hpart {t : Matcher Leaf} (ht : t ∈ Matcher.itemSubtrees ms) :
        ∃ item ∈ ms, t ∈ item.subtrees ∧ (Piece.tree item).Stored b := by
      rw [Matcher.itemSubtrees_eq, List.mem_flatMap] at ht
      obtain ⟨item, hitem, ht⟩ := ht
      exact ⟨item, hitem, ht, h.stored _ (List.mem_map_of_mem hitem)⟩
    refine ⟨fun t ht => ?_, fun id leaf ht g hg => ?_⟩
    · rw [hsub] at ht
      obtain ht | ht := List.mem_cons.mp ht
      · exact ⟨text, by simp [ht, hid, Arena.push, Arena.size]⟩
      · obtain ⟨item, -, ht, hstored⟩ := hpart ht
        obtain ⟨text', hnode⟩ := hstored.1 t ht
        exact ⟨text', hkept hnode⟩
    · rw [hsub] at ht
      obtain ht | ht := List.mem_cons.mp ht
      · exact absurd ht.symm (hleaf id leaf)
      · obtain ⟨item, -, ht, hstored⟩ := hpart ht
        exact hkept (hstored.2 id leaf ht g hg)
  registered := by
    obtain ⟨ids, hids, hsub⟩ := h.registered
    refine ⟨ids, hids, ?_⟩
    rw [List.flatMap_map] at hsub
    rw [List.flatMap_singleton, Piece.captures, hcap, Matcher.itemCaptures_eq]
    exact hsub

/-- A leaf is allocated behind its groups. -/
theorem leaf (leaf : Leaf) (h : a.Grows [] leaf.groups b) (hid : leaf.id = b.size)
    (hgroups : leaf.groups = List.range' a.size (b.size - a.size))
    (hnodes : ∀ g ∈ leaf.groups, b.nodes[g]? = some ⟨[], .pseudo⟩) (text : List Char) :
    a.Row [.tree (.component leaf.id leaf)]
      (b.push text (.matcher (.component leaf.id leaf))) where
  toExtends := h.toExtends.trans (.push b ..)
  cover := by
    have hsize : b.size + 1 - a.size = b.size - a.size + 1 := Nat.succ_sub h.size_le
    rw [List.flatMap_singleton, Piece.allocated, Matcher.allocated, hgroups, hid, size_push, hsize,
      List.range'_concat, Nat.one_mul, Nat.add_sub_cancel' h.size_le]
  stored p hp := by
    rw [List.mem_singleton.mp hp]
    refine ⟨fun t ht => ?_, fun id leaf' ht g hg => ?_⟩
    · rw [Matcher.subtrees] at ht
      rw [List.mem_singleton.mp ht]
      exact ⟨text, by simp [Matcher.id, hid, Arena.push, Arena.size]⟩
    · rw [Matcher.subtrees] at ht
      obtain ⟨-, hleaf⟩ := Matcher.component.inj (List.mem_singleton.mp ht)
      rw [hleaf] at hg
      exact (Extends.push b ..).node_of_some (hnodes g hg)
  registered := ⟨leaf.groups, h.registered, by
    rw [List.flatMap_singleton]
    exact List.Sublist.refl _⟩

/-- What is inside a group covers all nodes behind that of the group. -/
theorem fill {i : Matcher Leaf}
    (h : ((a.push text .reserved).enroll a.size).Row [.tree i] b) :
    a.Row [.tree (.group a.size i)] (b.fill a.size text (.matcher (.group a.size i))) where
  toExtends :=
    (((Extends.push a ..).trans (.enroll _ _)).trans h.toExtends).fill (Nat.le_refl _) ..
  cover := by
    have hle : a.size + 1 ≤ b.size := by simpa using h.size_le
    have hsize : b.size - a.size = b.size - (a.size + 1) + 1 := by omega
    have hcover : i.allocated = List.range' (a.size + 1) (b.size - (a.size + 1)) := by
      simpa [Piece.allocated] using h.cover
    rw [List.flatMap_singleton, Piece.allocated, Matcher.allocated, hcover, size_fill, hsize,
      List.range'_succ]
  stored p hp := by
    rw [List.mem_singleton.mp hp]
    have hle : a.size + 1 ≤ b.size := by simpa using h.size_le
    have hinner : (Piece.tree i).Stored (b.fill a.size text (.matcher (.group a.size i))) := by
      refine (h.stored _ (List.mem_singleton_self _)).mono fun j hj n hn => ?_
      have hlt : a.size + 1 ≤ j := by
        simpa using (h.mem_iff.mp ⟨_, List.mem_singleton_self _, hj⟩).1
      rw [node_fill_ne (Nat.ne_of_gt hlt), hn]
    refine ⟨fun t ht => ?_, fun id leaf ht g hg => ?_⟩
    · rw [Matcher.subtrees] at ht
      obtain ht | ht := List.mem_cons.mp ht
      · rw [ht]
        exact ⟨text, node_fill_self hle ..⟩
      · exact hinner.1 t ht
    · rw [Matcher.subtrees] at ht
      obtain ht | ht := List.mem_cons.mp ht
      · cases ht
      · exact hinner.2 id leaf ht g hg
  registered := by
    obtain ⟨ids, hids, hsub⟩ := h.registered
    refine ⟨a.size :: ids, ?_, ?_⟩
    · have hrefs : b.registry.refs = a.registry.refs ++ [a.size] ++ ids := hids
      rw [List.append_assoc] at hrefs
      exact hrefs
    · have hcaptures : ids.Sublist i.captures := by simpa [Piece.captures] using hsub
      rw [List.flatMap_singleton, Piece.captures, Matcher.captures]
      exact hcaptures.cons_cons a.size

/-- A group that fails leaves its node and what is inside it, and takes back its numbers. -/
theorem give_up (h : ((a.push text .reserved).enroll a.size).Row ps b) :
    a.Row (.reserved a.size :: ps) { b with registry := b.registry.take a.registry.size } := by
  have hext := ((Extends.push a text .reserved).trans (.enroll _ a.size)).trans h.toExtends
  have hrefs : (b.registry.take a.registry.size).refs = a.registry.refs :=
    (List.prefix_iff_eq_take.mp hext.registry).symm
  have hle : a.size + 1 ≤ b.size := by simpa using h.size_le
  refine ⟨⟨hext.size_le, hext.node, ?_, hext.ignoreCase⟩, ?_, fun p hp => ?_, ?_⟩
  · exact hrefs ▸ List.prefix_rfl
  · have hsize : b.size - a.size = b.size - (a.size + 1) + 1 := by omega
    have hcover : ps.flatMap Piece.allocated =
        List.range' (a.size + 1) (b.size - (a.size + 1)) := by
      simpa using h.cover
    have hsize' : Arena.size { b with registry := b.registry.take a.registry.size } = b.size := rfl
    rw [List.flatMap_cons, hcover, hsize', hsize, List.range'_succ]
    rfl
  · obtain hp | hp := List.mem_cons.mp hp
    · rw [hp]
      have hnode : ((a.push text .reserved).enroll a.size).nodes[a.size]? =
          some ⟨text, .reserved⟩ := by
        simp [Arena.enroll, Arena.push, Arena.size]
      exact ⟨text, h.node_of_some hnode⟩
    · exact (h.stored p hp).mono fun i _ n hn => hn
  · exact ⟨[], by rw [hrefs, List.append_nil], List.nil_sublist _⟩

end Row

end Arena

namespace Builder

variable {a b : Arena} {e : CompileError}

/-- A builder that succeeds lays down the trees that it returns, and one that fails some pieces. -/
structure Lays {α : Type} (x : Builder α) (trees : α → List (Matcher Leaf)) : Prop where
  ok : ∀ {a v b}, x a = .ok v b → a.Row ((trees v).map .tree) b
  error : ∀ {a e b}, x a = .error e b → ∃ ps, a.Row ps b

/-- A builder lays down one tree. -/
abbrev LaysTree (x : Builder (Matcher Leaf)) : Prop := x.Lays fun m => [m]

theorem Lays.error_of_bind {α β : Type} {x : Builder α} {f : α → Builder β}
    {trees : α → List (Matcher Leaf)} (hx : x.Lays trees)
    (hf : ∀ {v c}, f v c = .error e b → ∃ ps, c.Row ps b) (h : (x >>= f) a = .error e b) :
    ∃ ps, a.Row ps b := by
  obtain h | ⟨v, c, hv, h⟩ := bind_eq_error.mp h
  · exact hx.error h
  · obtain ⟨ps, hps⟩ := hf h
    exact ⟨_, (hx.ok hv).trans hps⟩

theorem Lays.throw {α : Type} (e : CompileError) (trees : α → List (Matcher Leaf)) :
    Lays (throw e : Builder α) trees where
  ok h := by cases h
  error h := by
    cases h
    exact ⟨[], .refl _⟩

/-- The nodes of the groups of a component regex follow each other. -/
theorem pseudos_nodes {n : Nat} {ids : List NodeId} (h : pseudos n a = .ok ids b) :
    b.size = a.size + n ∧ ids = List.range' a.size n ∧
      ∀ g ∈ ids, b.nodes[g]? = some ⟨[], .pseudo⟩ := by
  induction n generalizing a ids with
  | zero =>
    cases h
    exact ⟨rfl, rfl, by simp⟩
  | succ n ih =>
    have hstep : pseudos (n + 1) a =
        (pseudos n >>= fun ids => pure (a.size :: ids)) ((a.push [] .pseudo).enroll a.size) := rfl
    rw [hstep] at h
    obtain ⟨ids, c, hids, h⟩ := bind_eq_ok.mp h
    cases h
    obtain ⟨hsize, hrange, hnodes⟩ := ih hids
    rw [Arena.size_enroll, Arena.size_push] at hsize hrange
    refine ⟨by omega, by rw [hrange, List.range'_succ], fun g hg => ?_⟩
    obtain hg | hg := List.mem_cons.mp hg
    · have hext := ((pseudos_adds n).ok hids).2.toExtends
      have hnode : ((a.push [] .pseudo).enroll a.size).nodes[a.size]? = some ⟨[], .pseudo⟩ := by
        simp [Arena.enroll, Arena.push, Arena.size]
      rw [hg]
      exact hext.node_of_some hnode
    · exact hnodes g hg

theorem member_lays (m : Member) : (member m).Lays fun leaf => [.component leaf.id leaf] where
  ok {a leaf b} h := by
    obtain ⟨groups, c, hgroups, h⟩ := bind_eq_ok.mp h
    cases h
    obtain ⟨hsize, hrange, hnodes⟩ := pseudos_nodes hgroups
    have hnew : c.size - a.size = m.regex.elim 0 CharRegex.groups := by omega
    have hgrows := ((pseudos_adds _).ok hgroups).2
    exact Arena.Row.leaf ⟨c.size, m.regex, groups⟩ hgrows rfl (by rw [hnew, hrange]) hnodes m.text
  error {a e b} h := by
    obtain ⟨leaf, c, hok⟩ := member_total m a
    rw [hok] at h
    cases h

theorem members_lays (ms : List Member) :
    (members ms).Lays fun leaves => leaves.map fun leaf => .component leaf.id leaf := by
  induction ms with
  | nil =>
    refine ⟨fun h => ?_, fun h => by cases h⟩
    cases h
    exact .refl _
  | cons m ms ih =>
    refine ⟨fun h => ?_, fun h => ?_⟩
    · obtain ⟨leaf, c, hm, h⟩ := bind_eq_ok.mp h
      obtain ⟨leaves, d, hms, h⟩ := bind_eq_ok.mp h
      cases h
      exact ((member_lays m).ok hm).trans (ih.ok hms)
    · refine (member_lays m).error_of_bind (fun h => ?_) h
      exact ih.error_of_bind (fun h => by cases h) h

theorem memberSet_lays (s : MemberSet) : (memberSet s).LaysTree where
  ok h := by
    obtain ⟨leaves, c, hm, h⟩ := bind_eq_ok.mp h
    cases hfault : s.fault with
    | some e => simp [hfault] at h
    | none =>
      rw [hfault] at h
      cases h
      refine ((members_lays s.members).ok hm).push s.text rfl ?_ ?_ ?_ (by simp)
      · rw [Matcher.itemAllocated_eq, List.flatMap_map]
        rfl
      · rw [Matcher.itemSubtrees_eq, List.flatMap_map]
        simp only [Matcher.subtrees]
        rw [List.map_eq_flatMap]
      · rw [Matcher.itemCaptures_eq, List.flatMap_map]
        rfl
  error h := by
    refine (members_lays s.members).error_of_bind (fun {leaves c} h => ?_) h
    cases hfault : s.fault with
    | some f =>
      rw [hfault] at h
      exact (Lays.throw f.error fun m => [m]).error h
    | none =>
      rw [hfault] at h
      cases h

theorem group_lays {inner : Builder (Matcher Leaf)} (hinner : inner.LaysTree)
    (text : List Char) : (group text inner).LaysTree where
  ok {a m b} h := by
    cases hi : inner ((a.push text .reserved).enroll a.size) with
    | ok i c =>
      rw [group_of_ok text hi] at h
      cases h
      exact (hinner.ok hi).fill
    | error e c =>
      rw [group_of_error text hi] at h
      cases h
  error {a e b} h := by
    cases hi : inner ((a.push text .reserved).enroll a.size) with
    | ok i c =>
      rw [group_of_ok text hi] at h
      cases h
    | error e' c =>
      rw [group_of_error text hi] at h
      cases h
      obtain ⟨ps, hps⟩ := hinner.error hi
      exact ⟨_, hps.give_up⟩

theorem repetition_lays {atom : Builder (Matcher Leaf)} (hatom : atom.LaysTree)
    (text : List Char) (bounds : Except CompileError Bounds) :
    (repetition text atom bounds).LaysTree where
  ok h := by
    obtain ⟨i, c, hi, h⟩ := bind_eq_ok.mp h
    cases bounds with
    | error e => cases h
    | ok bounds =>
      cases h
      have hlist (l : List NodeId) : l = l ++ [] := (List.append_nil l).symm
      refine (hatom.ok hi).push text rfl ?_ ?_ ?_ (by simp)
      · exact congrArg (· ++ [c.size]) (hlist _)
      · exact congrArg (List.cons _) (List.append_nil _).symm
      · exact hlist _
  error h := by
    refine hatom.error_of_bind (fun {i c} h => ?_) h
    cases bounds with
    | error e => exact (Lays.throw e fun m => [m]).error h
    | ok bounds => cases h

theorem list_lays {items : Builder (List (Matcher Leaf))} (hitems : items.Lays fun ms => ms)
    (text : List Char) :
    LaysTree (do let ms ← items; allocMatcher text fun id => .list id ms) where
  ok h := by
    obtain ⟨ms, c, hms, h⟩ := bind_eq_ok.mp h
    cases h
    exact (hitems.ok hms).push text rfl rfl rfl rfl (by simp)
  error h := hitems.error_of_bind (fun h => by cases h) h

theorem cons_lays {item : Builder (Matcher Leaf)} {items : Builder (List (Matcher Leaf))}
    (hitem : item.LaysTree) (hitems : items.Lays fun ms => ms) :
    Lays (do let m ← item; let ms ← items; return m :: ms) fun ms => ms where
  ok h := by
    obtain ⟨m, c, hm, h⟩ := bind_eq_ok.mp h
    obtain ⟨ms, d, hms, h⟩ := bind_eq_ok.mp h
    cases h
    exact (hitem.ok hm).trans (hitems.ok hms)
  error h := by
    refine hitem.error_of_bind (fun h => ?_) h
    exact hitems.error_of_bind (fun h => by cases h) h

theorem items_lays (p : Pattern) : (items p).Lays fun ms => ms := by
  induction p with
  | done =>
    refine ⟨fun h => ?_, fun h => by cases h⟩
    cases h
    exact .refl _
  | fault f => exact .throw f.error _
  | group text inner rest hinner hrest =>
    exact cons_lays (group_lays (list_lays hinner text.tail.dropLast) text) hrest
  | repeatGroup text atom inner bounds rest hinner hrest =>
    exact cons_lays (repetition_lays (group_lays (list_lays hinner atom.tail.dropLast) atom) text
      bounds) hrest
  | repeatSet text atom bounds rest hrest =>
    exact cons_lays (repetition_lays (memberSet_lays atom) text bounds) hrest

theorem list_pattern_lays (text : List Char) (p : Pattern) : (list text p).LaysTree :=
  list_lays (items_lays p) text

theorem component_lays (text : List Char) : (component text).LaysTree where
  ok {a m b} h := by
    cases hread : Member.read a.ignoreCase text with
    | error e =>
      rw [component_of_error hread] at h
      cases h
    | ok x =>
      rw [component_of_ok hread] at h
      obtain ⟨leaf, c, hleaf, h⟩ := bind_eq_ok.mp h
      cases h
      exact (member_lays x).ok hleaf
  error {a e b} h := by
    cases hread : Member.read a.ignoreCase text with
    | error e' =>
      rw [component_of_error hread] at h
      cases h
      exact ⟨[], .refl _⟩
    | ok x =>
      rw [component_of_ok hread] at h
      exact (member_lays x).error_of_bind (fun h => by cases h) h

/-- Of what an arena holds, most calls only look at whether case is ignored. -/
theorem lays_of_ignoreCase {y : Builder (Matcher Leaf)} (x : Bool → Builder (Matcher Leaf))
    (hy : ∀ a, y a = x a.ignoreCase a) (h : ∀ ignoreCase, (x ignoreCase).LaysTree) :
    y.LaysTree where
  ok {a _ _} hok := (h a.ignoreCase).ok ((hy a).symm.trans hok)
  error {a _ _} herror := (h a.ignoreCase).error ((hy a).symm.trans herror)

theorem componentSet_lays (text : List Char) : (componentSet text).LaysTree :=
  lays_of_ignoreCase (fun ignoreCase => memberSet (.read ignoreCase text)) (fun _ => rfl)
    fun _ => memberSet_lays _

theorem backref_lays (text : List Char) : (backref text).LaysTree :=
  lays_of_ignoreCase (fun ignoreCase =>
    group text (list text.tail.dropLast (.readGroup ignoreCase text))) (fun _ => rfl)
    fun _ => group_lays (list_pattern_lays _ _) text

theorem patternList_lays (text : List Char) : (patternList text).LaysTree :=
  lays_of_ignoreCase (fun ignoreCase => list text (.read ignoreCase text)) (fun _ => rfl)
    fun _ => list_pattern_lays text _

theorem repeatAt_lays (text : List Char) (indicator : Nat) :
    (repeatAt text indicator).LaysTree := by
  unfold repeatAt
  split
  · exact .throw _ _
  · next atom quantifier _ =>
    refine repetition_lays ?_ text (Bounds.read text quantifier)
    by_cases hgroup : atom.head? = some '('
    · rw [if_pos hgroup]
      exact backref_lays atom
    · rw [if_neg hgroup]
      exact componentSet_lays atom

end Builder

theorem Call.build_lays (c : Call) : c.build.LaysTree := by
  cases c with
  | component text => exact Builder.component_lays text
  | componentSet text => exact Builder.componentSet_lays text
  | backref text => exact Builder.backref_lays text
  | repeatAt text indicator => exact Builder.repeatAt_lays text indicator
  | patternList text => exact Builder.patternList_lays text

/-- An arena that any calls lead to is a row of trees and of unfinished groups. -/
theorem Arena.Built.row {a : Arena} {ts : List (Matcher Leaf)} (h : a.Built ts) :
    ∃ ps, (Arena.empty a.ignoreCase).Row ps a := by
  induction h with
  | empty ignoreCase => exact ⟨[], .refl _⟩
  | success c _ hc ih =>
    obtain ⟨ps, hps⟩ := ih
    have hrow := c.build_lays.ok hc
    rw [hrow.ignoreCase]
    exact ⟨_, hps.trans hrow⟩
  | failure c _ hc ih =>
    obtain ⟨ps, hps⟩ := ih
    obtain ⟨qs, hrow⟩ := c.build_lays.error hc
    rw [hrow.ignoreCase]
    exact ⟨_, hps.trans hrow⟩

end NamePattern
