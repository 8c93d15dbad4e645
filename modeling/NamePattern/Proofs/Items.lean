import Mathlib.Data.List.Forall2
import NamePattern.Proofs.Grammar

/-! The nodes that patterns of the grammar are compiled into. -/
namespace NamePattern

namespace Arena

/-- A tree is stored under its number, with the part of the pattern that it was compiled from. -/
def Stores (a : Arena) (text : List Char) (m : Matcher Leaf) : Prop :=
  a.nodes[m.id]? = some ⟨text, .matcher m⟩

/-- What an arena stores is also stored in another one. -/
def Retains (a b : Arena) : Prop :=
  ∀ text m, a.Stores text m → b.Stores text m

variable {a b c : Arena}

theorem Extends.retains (h : a.Extends b) : a.Retains b := by
  intro text m hm
  exact h.node_of_some hm

/-- Filling in a group that was only reserved overwrites nothing that is stored. -/
theorem retains_fill {id : NodeId} {text : List Char}
    (h : a.nodes[id]? = some ⟨text, .reserved⟩) (pattern : List Char) (content : Content) :
    a.Retains (a.fill id pattern content) := by
  intro text' m hm
  have hne : m.id ≠ id := by
    intro heq
    unfold Stores at hm
    rw [heq, h] at hm
    simp at hm
  unfold Stores
  rw [node_fill_ne hne]
  exact hm

theorem stores_push (a : Arena) (text : List Char) {m : Matcher Leaf} (hm : m.id = a.size) :
    (a.push text (.matcher m)).Stores text m := by
  unfold Stores
  simp [hm, push, size]

end Arena

namespace Phrase

/-- The leaves of a set, in the order of its regexes. -/
def Leaves (ignoreCase : Bool) (a : Arena) (regexes : List (List Char)) (leaves : List Leaf) :
    Prop :=
  List.Forall₂ (fun regex leaf => leaf.regex = (Member.ofText ignoreCase regex).regex ∧
    a.Stores regex (.component leaf.id leaf)) regexes leaves

/-- The trees are the items of a pattern, in their order, and an arena stores them with their
texts. -/
inductive Compiled (ignoreCase : Bool) (a : Arena) : Phrase → List (Matcher Leaf) → Prop
  | done : Compiled ignoreCase a .done []
  | group {inner rest : Phrase} {ms others : List (Matcher Leaf)} {id listId : NodeId}
      (hinner : Compiled ignoreCase a inner ms) (hlist : a.Stores inner.text (.list listId ms))
      (hgroup : a.Stores ('(' :: inner.text ++ [')']) (.group id (.list listId ms)))
      (hrest : Compiled ignoreCase a rest others) :
      Compiled ignoreCase a (.group inner [] rest) (.group id (.list listId ms) :: others)
  | repeatGroup {inner rest : Phrase} {quantifier : List Char} {bounds : Bounds}
      {ms others : List (Matcher Leaf)} {id groupId listId : NodeId} (hne : quantifier ≠ [])
      (hbounds : Bounds.Written quantifier bounds.min bounds.max)
      (hinner : Compiled ignoreCase a inner ms) (hlist : a.Stores inner.text (.list listId ms))
      (hgroup : a.Stores ('(' :: inner.text ++ [')']) (.group groupId (.list listId ms)))
      (hrepeated : a.Stores ('(' :: inner.text ++ [')'] ++ quantifier)
        (.repeated id (.group groupId (.list listId ms)) bounds))
      (hrest : Compiled ignoreCase a rest others) :
      Compiled ignoreCase a (.group inner quantifier rest)
        (.repeated id (.group groupId (.list listId ms)) bounds :: others)
  | set {atom : SetPhrase} {rest : Phrase} {quantifier : List Char} {bounds : Bounds}
      {leaves : List Leaf} {others : List (Matcher Leaf)} {id setId : NodeId}
      (hbounds : Bounds.Written quantifier bounds.min bounds.max)
      (hleaves : Leaves ignoreCase a atom.regexes leaves)
      (hset : a.Stores atom.text (.set setId leaves (!atom.exclusion)))
      (hrepeated : a.Stores (atom.text ++ quantifier)
        (.repeated id (.set setId leaves (!atom.exclusion)) bounds))
      (hrest : Compiled ignoreCase a rest others) :
      Compiled ignoreCase a (.set atom quantifier rest)
        (.repeated id (.set setId leaves (!atom.exclusion)) bounds :: others)

variable {ignoreCase : Bool} {a b : Arena}

theorem Leaves.mono {regexes : List (List Char)} {leaves : List Leaf}
    (h : Leaves ignoreCase a regexes leaves) (hab : a.Retains b) :
    Leaves ignoreCase b regexes leaves := by
  refine List.Forall₂.imp (fun regex leaf hleaf => ?_) h
  exact ⟨hleaf.1, hab _ _ hleaf.2⟩

theorem Compiled.mono {p : Phrase} {ms : List (Matcher Leaf)} (h : p.Compiled ignoreCase a ms)
    (hab : a.Retains b) : p.Compiled ignoreCase b ms := by
  induction h with
  | done => exact .done
  | group _ hlist hgroup _ hinner hrest =>
    exact .group hinner (hab _ _ hlist) (hab _ _ hgroup) hrest
  | repeatGroup hne hbounds _ hlist hgroup hrepeated _ hinner hrest =>
    exact .repeatGroup hne hbounds hinner (hab _ _ hlist) (hab _ _ hgroup) (hab _ _ hrepeated) hrest
  | set hbounds hleaves hset hrepeated _ hrest =>
    exact .set hbounds (hleaves.mono hab) (hab _ _ hset) (hab _ _ hrepeated) hrest

end Phrase

namespace Builder

variable {ignoreCase : Bool} {a b : Arena} {m : Matcher Leaf} {ms : List (Matcher Leaf)}

theorem member_stores {x : Member} {leaf : Leaf} (h : member x a = .ok leaf b) :
    leaf.regex = x.regex ∧ b.Stores x.text (.component leaf.id leaf) := by
  obtain ⟨groups, c, -, h⟩ := bind_eq_ok.mp h
  cases h
  exact ⟨rfl, Arena.stores_push c x.text rfl⟩

theorem members_leaves {regexes : List (List Char)} {leaves : List Leaf}
    (h : members (regexes.map (.ofText ignoreCase)) a = .ok leaves b) :
    Phrase.Leaves ignoreCase b regexes leaves := by
  induction regexes generalizing a leaves with
  | nil =>
    cases h
    exact .nil
  | cons regex regexes ih =>
    obtain ⟨leaf, c, hleaf, h⟩ := bind_eq_ok.mp h
    obtain ⟨leaves, d, hleaves, h⟩ := bind_eq_ok.mp h
    cases h
    obtain ⟨hregex, hstored⟩ := member_stores hleaf
    have hkept := ((members_adds _).ok hleaves).2.toExtends.retains
    exact .cons ⟨hregex, hkept _ _ hstored⟩ (ih hleaves)

theorem memberSet_stores {atom : SetPhrase} (h : memberSet (atom.set ignoreCase) a = .ok m b) :
    ∃ id leaves, m = .set id leaves (!atom.exclusion) ∧
      Phrase.Leaves ignoreCase b atom.regexes leaves ∧ b.Stores atom.text m := by
  obtain ⟨leaves, c, hleaves, h⟩ := bind_eq_ok.mp h
  cases h
  have hkept := (Arena.Extends.push c atom.text
    (.matcher (.set c.size leaves (!atom.exclusion)))).retains
  exact ⟨c.size, leaves, rfl, (members_leaves hleaves).mono hkept, Arena.stores_push c _ rfl⟩

/-- What is inside a group is allocated behind it, and kept when the group is filled in. -/
theorem group_stores {inner : Builder (Matcher Leaf)} {text : List Char} {p : Matcher Leaf → Prop}
    (hinner : inner.AddsTree p) (h : group text inner a = .ok m b) :
    ∃ i c d, m = .group a.size i ∧ c.ignoreCase = a.ignoreCase ∧ inner c = .ok i d ∧ d.Retains b ∧
      b.Stores text m := by
  let c := (a.push text .reserved).enroll a.size
  cases hi : inner c with
  | error e d =>
    rw [group_of_error text hi] at h
    cases h
  | ok i d =>
    rw [group_of_ok text hi] at h
    cases h
    have hext : c.Extends d := (hinner.ok hi).2.toExtends
    have hreserved : c.nodes[a.size]? = some ⟨text, .reserved⟩ := by
      simp [c, Arena.enroll, Arena.push, Arena.size]
    have hlt : a.size < d.size := by
      have hsize : c.size = a.size + 1 := by simp [c]
      have hle := hext.size_le
      omega
    have hkept := Arena.retains_fill (hext.node_of_some hreserved) text (.matcher (.group a.size i))
    exact ⟨i, c, d, rfl, rfl, hi, hkept, Arena.node_fill_self hlt ..⟩

theorem list_stores {items : Builder (List (Matcher Leaf))} {text : List Char}
    (h : (do let ms ← items; allocMatcher text fun id => .list id ms : Builder _) a = .ok m b) :
    ∃ id ms c, m = .list id ms ∧ items a = .ok ms c ∧ c.Retains b ∧ b.Stores text m := by
  obtain ⟨ms, c, hms, h⟩ := bind_eq_ok.mp h
  cases h
  exact ⟨c.size, ms, c, rfl, hms, (Arena.Extends.push ..).retains, Arena.stores_push c text rfl⟩

theorem repetition_stores {atom : Builder (Matcher Leaf)} {text quantifier pattern : List Char}
    (h : repetition text atom (Bounds.read pattern quantifier) a = .ok m b) :
    ∃ id i bounds c, m = .repeated id i bounds ∧ Bounds.Written quantifier bounds.min bounds.max ∧
      atom a = .ok i c ∧ c.Retains b ∧ b.Stores text m := by
  obtain ⟨i, c, hi, h⟩ := bind_eq_ok.mp h
  cases hbounds : Bounds.read pattern quantifier with
  | error e => simp [hbounds] at h
  | ok bounds =>
    rw [hbounds] at h
    cases h
    exact ⟨c.size, i, bounds, c, rfl, Bounds.read_eq_ok_iff.mp hbounds, hi,
      (Arena.Extends.push ..).retains, Arena.stores_push c text rfl⟩

/-- The tree of a group around a pattern, if the trees of the pattern are its items. -/
theorem group_compiled {inner : Phrase} {text : List Char}
    (hinner : ∀ {a ms b}, items (inner.pattern ignoreCase) a = .ok ms b →
      inner.Compiled ignoreCase b ms)
    (htext : text = '(' :: inner.text ++ [')'])
    (h : group text (do
      let ms ← items (inner.pattern ignoreCase)
      allocMatcher text.tail.dropLast fun id => .list id ms) a = .ok m b) :
    ∃ id listId ms, m = .group id (.list listId ms) ∧ inner.Compiled ignoreCase b ms ∧
      b.Stores inner.text (.list listId ms) ∧ b.Stores ('(' :: inner.text ++ [')']) m := by
  have hinside : text.tail.dropLast = inner.text := by
    rw [htext, List.cons_append, List.tail_cons, List.dropLast_concat]
  obtain ⟨i, c, d, hm, -, hi, hkept, hgroup⟩ := group_stores (list_adds (items_adds _) _) h
  obtain ⟨listId, ms, e, hieq, hms, hlistkept, hlist⟩ := list_stores hi
  rw [hinside, hieq] at hlist
  rw [hieq] at hm
  rw [htext] at hgroup
  exact ⟨a.size, listId, ms, hm, ((hinner hms).mono hlistkept).mono hkept, hkept _ _ hlist, hgroup⟩

/-- The trees of a pattern of the grammar are its items. -/
theorem items_compiled {p : Phrase} (h : items (p.pattern ignoreCase) a = .ok ms b) :
    p.Compiled ignoreCase b ms := by
  induction p generalizing a b ms with
  | done =>
    cases h
    exact .done
  | group inner quantifier rest hinner hrest =>
    unfold Phrase.pattern at h
    dsimp only at h
    by_cases hq : quantifier.isEmpty = true
    · rw [if_pos hq] at h
      obtain ⟨m, c, hm, h⟩ := bind_eq_ok.mp h
      obtain ⟨others, d, hothers, h⟩ := bind_eq_ok.mp h
      cases h
      have hnil : quantifier = [] := List.isEmpty_iff.mp hq
      rw [hnil, List.append_nil] at hm
      obtain ⟨id, listId, ms, hmeq, hcompiled, hlist, hgroup⟩ := group_compiled hinner rfl hm
      have hkept := ((items_adds _).ok hothers).2.toExtends.retains
      rw [hmeq] at hgroup ⊢
      rw [hnil]
      exact .group (hcompiled.mono hkept) (hkept _ _ hlist) (hkept _ _ hgroup) (hrest hothers)
    · rw [if_neg hq] at h
      obtain ⟨m, c, hm, h⟩ := bind_eq_ok.mp h
      obtain ⟨others, d, hothers, h⟩ := bind_eq_ok.mp h
      cases h
      have hne : quantifier ≠ [] := fun hnil => hq (List.isEmpty_iff.mpr hnil)
      obtain ⟨id, i, bounds, e, hmeq, hbounds, hi, hrepeatkept, hrepeated⟩ := repetition_stores hm
      obtain ⟨groupId, listId, ms, hieq, hcompiled, hlist, hgroup⟩ := group_compiled hinner rfl hi
      have hkept : e.Retains b := fun text m hm =>
        ((items_adds _).ok hothers).2.toExtends.retains _ _ (hrepeatkept text m hm)
      rw [hieq] at hmeq hgroup
      rw [hmeq] at hrepeated ⊢
      have hlast := ((items_adds _).ok hothers).2.toExtends.retains _ _ hrepeated
      exact .repeatGroup hne hbounds (hcompiled.mono hkept) (hkept _ _ hlist) (hkept _ _ hgroup)
        hlast (hrest hothers)
  | set atom quantifier rest hrest =>
    obtain ⟨m, c, hm, h⟩ := bind_eq_ok.mp h
    obtain ⟨others, d, hothers, h⟩ := bind_eq_ok.mp h
    cases h
    obtain ⟨id, i, bounds, e, hmeq, hbounds, hi, hrepeatkept, hrepeated⟩ := repetition_stores hm
    obtain ⟨setId, leaves, hieq, hleaves, hset⟩ := memberSet_stores hi
    have hkept : e.Retains b := fun text m hm =>
      ((items_adds _).ok hothers).2.toExtends.retains _ _ (hrepeatkept text m hm)
    rw [hieq] at hmeq hset
    rw [hmeq] at hrepeated ⊢
    have hlast := ((items_adds _).ok hothers).2.toExtends.retains _ _ hrepeated
    exact .set hbounds (hleaves.mono hkept) (hkept _ _ hset) hlast (hrest hothers)

/-- A pattern is compiled if and only if it is one of the grammar whose brackets can be counted. -/
theorem patternList_ok_iff {text : List Char} {a : Arena} : (∃ m b, patternList text a = .ok m b) ↔
    ∃ p : Phrase, p.Valid a.ignoreCase ∧ p.Counted ∧ p.text = text := by
  constructor
  · intro h
    obtain ⟨m, b, h⟩ := h
    obtain ⟨⟨id, ms, -, hcompiled⟩, -⟩ := (list_pattern_adds text _).ok h
    exact Pattern.exists_phrase hcompiled.sound
  · intro h
    obtain ⟨p, hp, hcounted, htext⟩ := h
    have hsound : (Pattern.read a.ignoreCase text).Sound := by
      rw [Pattern.read, ← htext, Pattern.readItems_text hp hcounted]
      exact Pattern.pattern_sound hp
    exact list_total (items_total hsound) text a

/-- The trees of a pattern that has been compiled are its items. -/
theorem patternList_compiled {p : Phrase} (hp : p.Valid a.ignoreCase)
    (h : patternList p.text a = .ok m b) :
    ∃ id ms, m = .list id ms ∧ b.Stores p.text m ∧ p.Compiled a.ignoreCase b ms := by
  obtain ⟨p', hp', hcounted, htext⟩ := patternList_ok_iff.mp ⟨m, b, h⟩
  rw [Phrase.unique hp' hp htext] at hcounted
  have hread : Pattern.read a.ignoreCase p.text = p.pattern a.ignoreCase :=
    Pattern.readItems_text hp hcounted p.text
  have hlist : list p.text (Pattern.read a.ignoreCase p.text) a = .ok m b := h
  rw [hread] at hlist
  obtain ⟨id, ms, c, hm, hms, hkept, hstored⟩ := list_stores hlist
  exact ⟨id, ms, hm, hstored, (items_compiled hms).mono hkept⟩

end Builder

end NamePattern
