import NamePattern.Proofs.Compiled

/-! Arenas that calls of builders lead to, and the trees that they hold. -/
namespace NamePattern

/-- A call of a builder. -/
inductive Call where
  | component (text : List Char)
  | componentSet (text : List Char)
  | backref (text : List Char)
  | repeatAt (text : List Char) (indicator : Nat)
  | patternList (text : List Char)

def Call.build : Call → Builder (Matcher Leaf)
  | component text => Builder.component text
  | componentSet text => Builder.componentSet text
  | backref text => Builder.backref text
  | repeatAt text indicator => Builder.repeatAt text indicator
  | patternList text => Builder.patternList text

namespace Builder

theorem component_of_ok {a : Arena} {text : List Char} {m : Member}
    (h : Member.read a.ignoreCase text = .ok m) :
    component text a = (member m >>= fun leaf => pure (.component leaf.id leaf)) a := by
  rw [component, bind_of_ok get_apply]
  simp only [h]

theorem component_of_error {a : Arena} {text : List Char} {e : CompileError}
    (h : Member.read a.ignoreCase text = .error e) : component text a = .error e a := by
  rw [component, bind_of_ok get_apply]
  simp only [h, throw_apply]

theorem component_adds (text : List Char) :
    (component text).AddsTree fun m => ∃ leaf, m = .component leaf.id leaf := by
  refine ⟨fun {a m b} h => ?_, fun {a e b} h => ?_⟩
  · cases hread : Member.read a.ignoreCase text with
    | error e =>
      rw [component_of_error hread] at h
      simp at h
    | ok m' =>
      rw [component_of_ok hread] at h
      obtain ⟨leaf, c, hm, h⟩ := bind_eq_ok.mp h
      cases h
      exact ⟨⟨leaf, rfl⟩, ((member_adds m').ok hm).2⟩
  · cases hread : Member.read a.ignoreCase text with
    | error e' =>
      rw [component_of_error hread] at h
      cases h
      exact .refl _
    | ok m' =>
      rw [component_of_ok hread] at h
      exact (member_adds m').extends_of_bind (fun h => by cases h) h

theorem componentSet_adds (text : List Char) : (componentSet text).AddsTree fun _ => True :=
  ⟨fun {a _ _} h => ⟨trivial, ((memberSet_adds (.read a.ignoreCase text)).ok h).2⟩,
    fun {a _ _} h => (memberSet_adds (.read a.ignoreCase text)).error h⟩

theorem backref_adds (text : List Char) : (backref text).AddsTree fun _ => True :=
  ⟨fun {a _ _} h => ⟨trivial, ((group_adds (list_pattern_adds text.tail.dropLast
      (.readGroup a.ignoreCase text)) text).ok h).2⟩,
    fun {a _ _} h => (group_adds (list_pattern_adds text.tail.dropLast
      (.readGroup a.ignoreCase text)) text).error h⟩

theorem patternList_adds (text : List Char) : (patternList text).AddsTree fun _ => True :=
  ⟨fun {a _ _} h => ⟨trivial, ((list_pattern_adds text (.read a.ignoreCase text)).ok h).2⟩,
    fun {a _ _} h => (list_pattern_adds text (.read a.ignoreCase text)).error h⟩

theorem repeatAt_adds (text : List Char) (indicator : Nat) :
    (repeatAt text indicator).AddsTree fun _ => True := by
  unfold repeatAt
  split
  · refine ⟨fun h => by simp at h, fun h => ?_⟩
    cases h
    exact .refl _
  · next atom quantifier _ =>
    have hatom : (if atom.head? = some '(' then backref atom else componentSet atom).AddsTree
        fun _ => True := by
      split
      · exact backref_adds atom
      · exact componentSet_adds atom
    have h := repetition_adds hatom text (Bounds.read text quantifier)
    exact ⟨fun hok => ⟨trivial, (h.ok hok).2⟩, h.error⟩

end Builder

theorem Call.build_adds (c : Call) : c.build.AddsTree fun _ => True := by
  cases c with
  | component text =>
    have h := Builder.component_adds text
    exact ⟨fun hok => ⟨trivial, (h.ok hok).2⟩, h.error⟩
  | componentSet text => exact Builder.componentSet_adds text
  | backref text => exact Builder.backref_adds text
  | repeatAt text indicator => exact Builder.repeatAt_adds text indicator
  | patternList text => exact Builder.patternList_adds text

namespace Arena

/-- The arenas that any calls lead to from an empty one, with the trees of those that succeeded. -/
inductive Built : Arena → List (Matcher Leaf) → Prop
  | empty (ignoreCase : Bool) : Built (.empty ignoreCase) []
  | success {a b : Arena} {ts : List (Matcher Leaf)} {m : Matcher Leaf} (c : Call)
      (h : Built a ts) (hc : c.build a = .ok m b) : Built b (m :: ts)
  | failure {a b : Arena} {ts : List (Matcher Leaf)} {e : CompileError} (c : Call)
      (h : Built a ts) (hc : c.build a = .error e b) : Built b ts

/-- An arena holds a tree: every node of the tree is stored under its number, and its groups are
registered, in their order, each leaf with the groups of its regex. -/
structure Holds (a : Arena) (m : Matcher Leaf) : Prop where
  stored : ∀ t ∈ m.subtrees, ∃ text, a.nodes[t.id]? = some ⟨text, .matcher t⟩
  registered : m.captures <:+: a.registry.refs
  increasing : m.captures.Pairwise (· < ·)
  inside : ∀ id ∈ m.captures, id < a.size
  numbered : ∀ id leaf, .component id leaf ∈ m.subtrees → leaf.Numbered

variable {a b : Arena} {m : Matcher Leaf} {ts : List (Matcher Leaf)}

theorem Holds.mono (h : a.Holds m) (hab : a.Extends b) : b.Holds m where
  stored t ht := by
    obtain ⟨text, hn⟩ := h.stored t ht
    exact ⟨text, hab.node_of_some hn⟩
  registered := h.registered.trans hab.registry.isInfix
  increasing := h.increasing
  inside id hid := Nat.lt_of_lt_of_le (h.inside id hid) hab.size_le
  numbered := h.numbered

theorem Grows.holds (h : a.Grows m.subtrees m.captures b) : b.Holds m where
  stored t ht := (h.stored t ht).2
  registered := h.registered ▸ (List.suffix_append ..).isInfix
  increasing := h.increasing
  inside id hid := (h.fresh id hid).2
  numbered := h.numbered

/-- Calls, whether they succeed or fail, leave the trees of earlier calls in place. -/
theorem Built.holds (h : a.Built ts) : ∀ m ∈ ts, a.Holds m := by
  induction h with
  | empty => simp
  | success c _ hc ih =>
    have hg := (c.build_adds.ok hc).2
    intro m hm
    rcases List.mem_cons.mp hm with rfl | hm
    · exact hg.holds
    · exact (ih m hm).mono hg.toExtends
  | failure c _ hc ih => exact fun m hm => (ih m hm).mono (c.build_adds.error hc)

end Arena

namespace Matcher

mutual

/-- Parts of a part are parts of the whole, and so are the groups of a part. -/
theorem subtrees_subset : ∀ (m t : Matcher Leaf), t ∈ m.subtrees →
    t.subtrees ⊆ m.subtrees ∧ t.captures <:+: m.captures
  | component id leaf, t, ht => by
    obtain rfl : t = component id leaf := by simpa [subtrees] using ht
    exact ⟨List.Subset.refl _, List.infix_rfl⟩
  | set id members inclusion, t, ht => by
    rcases List.mem_cons.mp (by simpa only [subtrees] using ht) with rfl | ht
    · exact ⟨List.Subset.refl _, List.infix_rfl⟩
    · obtain ⟨leaf, hleaf, rfl⟩ := List.mem_map.mp ht
      constructor
      · simp only [subtrees, List.cons_subset, List.nil_subset, and_true]
        exact List.mem_cons_of_mem _ ht
      · obtain ⟨front, back, rfl⟩ := List.append_of_mem hleaf
        exact ⟨front.flatMap Leaf.groups, back.flatMap Leaf.groups, by simp [captures]⟩
  | group id inner, t, ht => by
    rcases List.mem_cons.mp (by simpa only [subtrees] using ht) with rfl | ht
    · exact ⟨List.Subset.refl _, List.infix_rfl⟩
    · obtain ⟨hs, hc⟩ := subtrees_subset inner t ht
      simp only [subtrees, captures]
      exact ⟨List.Subset.trans hs (List.subset_cons_self ..), hc.trans (List.suffix_cons ..).isInfix⟩
  | repeated id inner bounds, t, ht => by
    rcases List.mem_cons.mp (by simpa only [subtrees] using ht) with rfl | ht
    · exact ⟨List.Subset.refl _, List.infix_rfl⟩
    · obtain ⟨hs, hc⟩ := subtrees_subset inner t ht
      simp only [subtrees, captures]
      exact ⟨List.Subset.trans hs (List.subset_cons_self ..), hc⟩
  | list id items, t, ht => by
    rcases List.mem_cons.mp (by simpa only [subtrees] using ht) with rfl | ht
    · exact ⟨List.Subset.refl _, List.infix_rfl⟩
    · obtain ⟨hs, hc⟩ := itemSubtrees_subset items t ht
      simp only [subtrees, captures]
      exact ⟨List.Subset.trans hs (List.subset_cons_self ..), hc⟩

theorem itemSubtrees_subset : ∀ (items : List (Matcher Leaf)) (t : Matcher Leaf),
    t ∈ itemSubtrees items → t.subtrees ⊆ itemSubtrees items ∧ t.captures <:+: itemCaptures items
  | [], t, ht => by simp [itemSubtrees] at ht
  | item :: items, t, ht => by
    simp only [itemSubtrees, itemCaptures]
    rcases List.mem_append.mp (by simpa only [itemSubtrees] using ht) with ht | ht
    · obtain ⟨hs, hc⟩ := subtrees_subset item t ht
      exact ⟨List.Subset.trans hs (List.subset_append_left ..), hc.trans (List.prefix_append ..).isInfix⟩
    · obtain ⟨hs, hc⟩ := itemSubtrees_subset items t ht
      exact ⟨List.Subset.trans hs (List.subset_append_right ..), hc.trans (List.suffix_append ..).isInfix⟩

end

end Matcher

theorem Arena.Holds.part {a : Arena} {m t : Matcher Leaf} (h : a.Holds m) (ht : t ∈ m.subtrees) :
    a.Holds t := by
  obtain ⟨hs, hc⟩ := m.subtrees_subset t ht
  exact ⟨fun u hu => h.stored u (hs hu), hc.trans h.registered, h.increasing.sublist hc.sublist,
    fun id hid => h.inside id (hc.subset hid), fun id leaf hl => h.numbered id leaf (hs hl)⟩

end NamePattern
