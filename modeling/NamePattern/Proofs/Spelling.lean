import NamePattern.Proofs.Failure
import NamePattern.Proofs.Items
import NamePattern.Proofs.Places

/-! The text that a tree is compiled from is made of the texts of its parts. -/
namespace NamePattern

namespace Arena

/-- The part of a pattern that a node was compiled from. -/
def textOf (a : Arena) (id : NodeId) : List Char := (a.nodes[id]?.map Node.pattern).getD []

/-- The texts of a tree are made of those of its parts. -/
def Spells (a : Arena) (m : Matcher Leaf) : Prop := ∀ t ∈ m.subtrees, t.Spelled a.textOf

variable {a b : Arena} {m : Matcher Leaf} {text atom : List Char} {id listId : NodeId}

theorem Stores.textOf (h : a.Stores text m) : a.textOf m.id = text := by
  have hnode : a.nodes[m.id]? = some ⟨text, .matcher m⟩ := h
  rw [Arena.textOf, hnode]
  rfl

theorem spells_group {ms : List (Matcher Leaf)}
    (hgroup : a.Stores ('(' :: text ++ [')']) (.group id (.list listId ms)))
    (hlist : a.Stores text (.list listId ms))
    (htext : ms.flatMap (fun m => a.textOf m.id) = text)
    (hparts : ∀ t ∈ Matcher.itemSubtrees ms, t.Spelled a.textOf) :
    a.Spells (.group id (.list listId ms)) := by
  have hroot : a.textOf id = '(' :: text ++ [')'] := hgroup.textOf
  have hinner : a.textOf listId = text := hlist.textOf
  unfold Spells
  rw [Matcher.subtrees, Matcher.subtrees]
  refine List.forall_mem_cons.mpr ⟨?_, List.forall_mem_cons.mpr ⟨?_, hparts⟩⟩
  · rw [Matcher.Spelled, hroot, Matcher.id, hinner]
  · rw [Matcher.Spelled, hinner, htext]

theorem spells_repeated {i : Matcher Leaf} {bounds : Bounds} {quantifier : List Char}
    (hrepeated : a.Stores (atom ++ quantifier) (.repeated id i bounds))
    (hatom : a.textOf i.id = atom) (hi : a.Spells i) : a.Spells (.repeated id i bounds) := by
  have hroot : a.textOf id = atom ++ quantifier := hrepeated.textOf
  unfold Spells
  rw [Matcher.subtrees]
  refine List.forall_mem_cons.mpr ⟨?_, hi⟩
  rw [Matcher.Spelled, hroot, hatom]
  exact List.prefix_append ..

end Arena

/-- Where nothing stands between angle brackets, there is no regex. -/
theorem Member.spelled {ignoreCase : Bool} {a : Arena} {regex : List Char} {leaf : Leaf}
    (hregex : leaf.regex = (ofText ignoreCase regex).regex)
    (hstored : a.Stores regex (.component leaf.id leaf)) :
    (Matcher.component leaf.id leaf).Spelled a.textOf := by
  intro hempty
  have htext : a.textOf leaf.id = regex := hstored.textOf
  rw [← htext, hempty] at hregex
  exact hregex

namespace SetPhrase

/-- The text of a set has its regexes behind a beginning without an angle bracket. -/
theorem exists_front (s : SetPhrase) :
    ∃ front back, '<' ∉ front ∧ s.text = front ++ s.regexes.flatMap angled ++ back := by
  cases s with
  | single regex => exact ⟨[], [], by simp, by simp [text, regexes]⟩
  | several exclusion regexes =>
    cases exclusion with
    | true => exact ⟨['[', '^'], [']'], by decide, by simp [text, inside, SetPhrase.regexes]⟩
    | false => exact ⟨['['], [']'], by decide, by simp [text, inside, SetPhrase.regexes]⟩

end SetPhrase

namespace MemberSet

variable {ignoreCase : Bool} {text : List Char}

/-- A set that is read without a fault is read as its parts. -/
theorem exists_parts (h : (read ignoreCase text).fault = none) :
    ∃ atom : SetPhrase, atom.text = text ∧ read ignoreCase text = atom.set ignoreCase := by
  have hread := h
  unfold read at hread
  dsimp only at hread
  split at hread
  · cases hread
  · cases hread
  · next s _ =>
    cases hcut : Bracket.close? '<' '>' s with
    | none => simp [hcut] at hread
    | some parts =>
      obtain ⟨inside, rest⟩ := parts
      cases rest with
      | cons c rest => simp [hcut] at hread
      | nil =>
        obtain ⟨hs, hbalanced, hcounted⟩ := (Bracket.close?_eq_some_iff (by decide)).mp hcut
        have htext : SetPhrase.angled inside = '<' :: s := by rw [hs]; rfl
        rw [← htext] at h ⊢
        have hvalid : (SetPhrase.single inside).Valid ignoreCase :=
          valid_of_read_angled hbalanced hcounted h
        exact ⟨.single inside, rfl, read_text hvalid hcounted⟩
  · next s _ =>
    by_cases hlast : s.getLast? = some ']'
    · obtain ⟨body, hs⟩ := List.getLast?_eq_some_iff.mp hlast
      rw [hs, ← List.cons_append] at h ⊢
      rw [read_squared] at h
      obtain ⟨regexes, hregexes, hmembers, hcounted⟩ := exists_regexes h
      have hinside := inside_of_splitMark hregexes
      refine ⟨.several (!(splitMark body).1) regexes, ?_, ?_⟩
      · rw [SetPhrase.text, ← hinside]
      · rw [read_squared, hregexes, readMembers_angled _ hmembers hcounted, SetPhrase.set,
          SetPhrase.text, ← hinside]
        simp [SetPhrase.exclusion, SetPhrase.regexes]
    · rw [if_pos hlast] at hread
      cases hread
  · cases hread

end MemberSet

namespace Phrase

open SetPhrase (angled)

variable {ignoreCase : Bool} {a : Arena}

theorem Leaves.texts {regexes : List (List Char)} {leaves : List Leaf}
    (h : Leaves ignoreCase a regexes leaves) :
    leaves.flatMap (fun leaf => angled (a.textOf leaf.id)) = regexes.flatMap angled := by
  induction h with
  | nil => rfl
  | cons hleaf _ ih =>
    have htext := hleaf.2.textOf
    rw [Matcher.id] at htext
    rw [List.flatMap_cons, List.flatMap_cons, htext, ih]

theorem Leaves.spelled {regexes : List (List Char)} {leaves : List Leaf}
    (h : Leaves ignoreCase a regexes leaves) :
    ∀ leaf ∈ leaves, (Matcher.component leaf.id leaf).Spelled a.textOf := by
  induction h with
  | nil => simp
  | cons hleaf _ ih =>
    refine List.forall_mem_cons.mpr ⟨?_, ih⟩
    exact Member.spelled hleaf.1 hleaf.2

theorem spells_set {atom : SetPhrase} {leaves : List Leaf} {id : NodeId} {inclusion : Bool}
    (hset : a.Stores atom.text (.set id leaves inclusion))
    (hleaves : Leaves ignoreCase a atom.regexes leaves) : a.Spells (.set id leaves inclusion) := by
  have hroot : a.textOf id = atom.text := hset.textOf
  obtain ⟨front, back, hfront, htext⟩ := atom.exists_front
  unfold Arena.Spells
  rw [Matcher.subtrees]
  refine List.forall_mem_cons.mpr ⟨⟨front, back, hfront, ?_⟩, ?_⟩
  · rw [hroot, htext, hleaves.texts]
  · exact List.forall_mem_map.mpr hleaves.spelled

/-- The items of a pattern have its text. -/
theorem Compiled.texts {p : Phrase} {ms : List (Matcher Leaf)} (h : p.Compiled ignoreCase a ms) :
    ms.flatMap (fun m => a.textOf m.id) = p.text := by
  induction h with
  | done => rfl
  | group _ _ hgroup _ _ hrest =>
    rw [List.flatMap_cons, hgroup.textOf, hrest, Phrase.text, List.append_nil]
  | repeatGroup _ _ _ _ _ hrepeated _ _ hrest =>
    rw [List.flatMap_cons, hrepeated.textOf, hrest, Phrase.text]
  | set _ _ _ hrepeated _ hrest =>
    rw [List.flatMap_cons, hrepeated.textOf, hrest, Phrase.text]

theorem Compiled.spelled {p : Phrase} {ms : List (Matcher Leaf)} (h : p.Compiled ignoreCase a ms) :
    ∀ t ∈ Matcher.itemSubtrees ms, t.Spelled a.textOf := by
  induction h with
  | done => simp [Matcher.itemSubtrees]
  | group hinner hlist hgroup _ ihinner ihrest =>
    have hitem := Arena.spells_group hgroup hlist hinner.texts ihinner
    rw [Matcher.itemSubtrees]
    exact List.forall_mem_append.mpr ⟨hitem, ihrest⟩
  | repeatGroup _ _ hinner hlist hgroup hrepeated _ ihinner ihrest =>
    have hatom := Arena.spells_group hgroup hlist hinner.texts ihinner
    have hitem := Arena.spells_repeated hrepeated hgroup.textOf hatom
    rw [Matcher.itemSubtrees]
    exact List.forall_mem_append.mpr ⟨hitem, ihrest⟩
  | set _ hleaves hset hrepeated _ ihrest =>
    have hitem := Arena.spells_repeated hrepeated hset.textOf (spells_set hset hleaves)
    rw [Matcher.itemSubtrees]
    exact List.forall_mem_append.mpr ⟨hitem, ihrest⟩

variable {b : Arena} {text : List Char} {m : Matcher Leaf}

/-- An arena stores the tree of a group or of a set, with the parts of the tree. -/
inductive Atom (ignoreCase : Bool) (a : Arena) : List Char → Matcher Leaf → Prop
  | group {inner : Phrase} {ms : List (Matcher Leaf)} {id listId : NodeId}
      (hinner : inner.Compiled ignoreCase a ms) (hlist : a.Stores inner.text (.list listId ms))
      (hgroup : a.Stores ('(' :: inner.text ++ [')']) (.group id (.list listId ms))) :
      Atom ignoreCase a ('(' :: inner.text ++ [')']) (.group id (.list listId ms))
  | set {atom : SetPhrase} {leaves : List Leaf} {id : NodeId} {inclusion : Bool}
      (hleaves : Leaves ignoreCase a atom.regexes leaves)
      (hset : a.Stores atom.text (.set id leaves inclusion)) :
      Atom ignoreCase a atom.text (.set id leaves inclusion)

theorem Atom.mono (h : Atom ignoreCase a text m) (hab : a.Retains b) :
    Atom ignoreCase b text m := by
  cases h with
  | group hinner hlist hgroup => exact .group (hinner.mono hab) (hab _ _ hlist) (hab _ _ hgroup)
  | set hleaves hset => exact .set (hleaves.mono hab) (hab _ _ hset)

theorem Atom.stores (h : Atom ignoreCase a text m) : a.Stores text m := by
  cases h with
  | group _ _ hgroup => exact hgroup
  | set _ hset => exact hset

theorem Atom.spells (h : Atom ignoreCase a text m) : a.Spells m := by
  cases h with
  | group hinner hlist hgroup => exact Arena.spells_group hgroup hlist hinner.texts hinner.spelled
  | set hleaves hset => exact spells_set hset hleaves

end Phrase

namespace Builder

variable {a b : Arena} {m : Matcher Leaf} {text : List Char}

theorem componentSet_atom (h : componentSet text a = .ok m b) :
    Phrase.Atom a.ignoreCase b text m := by
  rw [componentSet_apply] at h
  have hfault : (MemberSet.read a.ignoreCase text).fault = none := by
    obtain ⟨leaves, c, -, h⟩ := bind_eq_ok.mp h
    cases hfault : (MemberSet.read a.ignoreCase text).fault with
    | none => rfl
    | some e =>
      rw [hfault] at h
      cases h
  obtain ⟨atom, htext, hread⟩ := MemberSet.exists_parts hfault
  rw [hread] at h
  obtain ⟨id, leaves, hm, hleaves, hset⟩ := memberSet_stores h
  rw [← htext, hm]
  rw [hm] at hset
  exact .set hleaves hset

theorem backref_atom (h : backref text a = .ok m b) : Phrase.Atom a.ignoreCase b text m := by
  rw [backref_apply] at h
  obtain ⟨i, c, d, -, -, hi, -, -⟩ := group_stores (list_pattern_adds _ _) h
  obtain ⟨-, ms, -, hcompiled⟩ := ((list_pattern_adds _ _).ok hi).1
  have hsound : (Pattern.readGroup a.ignoreCase text).Sound := hcompiled.sound
  cases hinside : Pattern.inside? text with
  | none =>
    rw [Pattern.readGroup, hinside] at hsound
    exact hsound.elim
  | some inside =>
    have hgroup : Pattern.readGroup a.ignoreCase text = .readItems a.ignoreCase inside inside := by
      rw [Pattern.readGroup, hinside]
      rfl
    rw [hgroup] at hsound h
    obtain ⟨p, hp, hcounted, hptext⟩ := Pattern.exists_phrase hsound
    have htext : text = '(' :: p.text ++ [')'] := hptext ▸ Pattern.eq_of_inside? hinside
    rw [← hptext, Pattern.readItems_text hp hcounted] at h
    obtain ⟨id, listId, ms, hm, hcompiled, hlist, hgroup⟩ := group_compiled items_compiled htext h
    rw [htext, hm]
    rw [hm] at hgroup
    exact .group hcompiled hlist hgroup

theorem component_spells (h : component text a = .ok m b) :
    b.Stores text m ∧ b.Spells m := by
  cases hread : Member.read a.ignoreCase text with
  | error e =>
    rw [component_of_error hread] at h
    cases h
  | ok x =>
    rw [component_of_ok hread] at h
    obtain ⟨leaf, c, hleaf, h⟩ := bind_eq_ok.mp h
    cases h
    obtain ⟨hregex, hstored⟩ := member_stores hleaf
    rw [(Member.read_eq_ok_iff.mp hread).2] at hregex hstored
    exact ⟨hstored, List.forall_mem_singleton.mpr (Member.spelled hregex hstored)⟩

theorem repeatAt_spells {indicator : Nat} (h : repeatAt text indicator a = .ok m b) :
    b.Stores text m ∧ b.Spells m := by
  unfold repeatAt at h
  cases hsplit : Text.splitAtByte? indicator text with
  | none =>
    rw [hsplit] at h
    cases h
  | some parts =>
    obtain ⟨atom, quantifier⟩ := parts
    rw [hsplit] at h
    obtain ⟨id, i, bounds, c, hm, -, hi, hkept, hstored⟩ := repetition_stores h
    have hatom : Phrase.Atom a.ignoreCase c atom i := by
      by_cases hgroup : atom.head? = some '('
      · rw [if_pos hgroup] at hi
        exact backref_atom hi
      · rw [if_neg hgroup] at hi
        exact componentSet_atom hi
    have hinner := hatom.mono hkept
    refine ⟨hstored, ?_⟩
    rw [hm] at hstored ⊢
    rw [← Text.append_of_splitAtByte? hsplit] at hstored
    exact Arena.spells_repeated hstored hinner.stores.textOf hinner.spells

theorem patternList_spells (h : patternList text a = .ok m b) :
    b.Stores text m ∧ b.Spells m := by
  obtain ⟨p, hp, -, hptext⟩ := patternList_ok_iff.mp ⟨m, b, h⟩
  rw [← hptext] at h ⊢
  obtain ⟨id, ms, hm, hstored, hitems⟩ := patternList_compiled hp h
  refine ⟨hstored, ?_⟩
  rw [hm] at hstored ⊢
  have hroot : b.textOf id = p.text := hstored.textOf
  unfold Arena.Spells
  rw [Matcher.subtrees]
  refine List.forall_mem_cons.mpr ⟨?_, hitems.spelled⟩
  rw [Matcher.Spelled, hroot, hitems.texts]

end Builder

def Call.text : Call → List Char
  | component text | componentSet text | backref text | repeatAt text _ | patternList text => text

/-- A call stores its text with its tree, and the texts of the parts make it up. -/
theorem Call.build_spells {a b : Arena} {m : Matcher Leaf} (c : Call)
    (h : c.build a = .ok m b) : b.Stores c.text m ∧ b.Spells m := by
  cases c with
  | component text => exact Builder.component_spells h
  | componentSet text =>
    have hatom := Builder.componentSet_atom h
    exact ⟨hatom.stores, hatom.spells⟩
  | backref text =>
    have hatom := Builder.backref_atom h
    exact ⟨hatom.stores, hatom.spells⟩
  | repeatAt text indicator => exact Builder.repeatAt_spells h
  | patternList text => exact Builder.patternList_spells h

end NamePattern
