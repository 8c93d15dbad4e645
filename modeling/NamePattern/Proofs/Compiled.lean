import NamePattern.Proofs.Building

/-! Patterns as they are written and the trees that they are compiled into. -/
namespace NamePattern

namespace Pattern

/-- The trees have the shape of a pattern without faults. Their nodes may have any numbers. -/
inductive Compiled : Pattern → List (Matcher Leaf) → Prop
  | done : Compiled .done []
  | group {text : List Char} {inner rest : Pattern} {ms others : List (Matcher Leaf)}
      (id listId : NodeId) (hinner : Compiled inner ms) (hrest : Compiled rest others) :
      Compiled (.group text inner rest) (.group id (.list listId ms) :: others)
  | repeatGroup {text atom : List Char} {inner rest : Pattern} {bounds : Bounds}
      {ms others : List (Matcher Leaf)} (id groupId listId : NodeId) (hinner : Compiled inner ms)
      (hrest : Compiled rest others) :
      Compiled (.repeatGroup text atom inner (.ok bounds) rest)
        (.repeated id (.group groupId (.list listId ms)) bounds :: others)
  | repeatSet {text : List Char} {atom : MemberSet} {rest : Pattern} {bounds : Bounds}
      {leaves : List Leaf} {others : List (Matcher Leaf)} (id setId : NodeId)
      (hfault : atom.fault = none)
      (hleaves : leaves.map Leaf.regex = atom.members.map Member.regex)
      (hgroups : ∀ leaf ∈ leaves, leaf.Numbered) (hrest : Compiled rest others) :
      Compiled (.repeatSet text atom (.ok bounds) rest)
        (.repeated id (.set setId leaves atom.inclusion) bounds :: others)

/-- A pattern has no fault in any of its parts. -/
def Sound : Pattern → Prop
  | .done => True
  | .fault _ => False
  | .group _ inner rest => inner.Sound ∧ rest.Sound
  | .repeatGroup _ _ inner bounds rest => inner.Sound ∧ (∃ b, bounds = .ok b) ∧ rest.Sound
  | .repeatSet _ atom bounds rest => atom.fault = none ∧ (∃ b, bounds = .ok b) ∧ rest.Sound

theorem Compiled.sound {p : Pattern} {ms : List (Matcher Leaf)} (h : p.Compiled ms) : p.Sound := by
  induction h with
  | done => trivial
  | group _ _ _ _ hinner hrest => exact ⟨hinner, hrest⟩
  | repeatGroup _ _ _ _ _ hinner hrest => exact ⟨hinner, ⟨_, rfl⟩, hrest⟩
  | repeatSet _ _ hfault _ _ _ hrest => exact ⟨hfault, ⟨_, rfl⟩, hrest⟩

end Pattern

namespace Builder

theorem items_adds (p : Pattern) : (items p).AddsTrees p.Compiled := by
  induction p with
  | done =>
    refine ⟨fun h => ?_, fun h => by cases h⟩
    cases h
    exact ⟨.done, .refl _⟩
  | fault e =>
    refine ⟨fun h => (by cases h), fun h => ?_⟩
    cases h
    exact .refl _
  | group text inner rest hinner hrest =>
    have h := cons_adds (group_adds (list_adds hinner text.tail.dropLast) text) hrest
    refine ⟨fun hok => ?_, h.error⟩
    obtain ⟨⟨_, _, rfl, ⟨id, _, rfl, listId, _, rfl, hms⟩, hothers⟩, hg⟩ := h.ok hok
    exact ⟨.group id listId hms hothers, hg⟩
  | repeatGroup text atom inner bounds rest hinner hrest =>
    have h := cons_adds (repetition_adds (group_adds (list_adds hinner atom.tail.dropLast) atom) text
      bounds) hrest
    refine ⟨fun hok => ?_, h.error⟩
    obtain ⟨⟨_, _, rfl, ⟨b, rfl, id, _, rfl, groupId, _, rfl, listId, _, rfl, hms⟩, hothers⟩, hg⟩ :=
      h.ok hok
    exact ⟨.repeatGroup id groupId listId hms hothers, hg⟩
  | repeatSet text atom bounds rest hrest =>
    have h := cons_adds (repetition_adds (memberSet_adds atom) text bounds) hrest
    refine ⟨fun hok => ?_, h.error⟩
    obtain ⟨⟨_, _, rfl, ⟨b, rfl, id, _, rfl, hfault, setId, leaves, rfl, hregexes, hnum⟩, hothers⟩,
      hg⟩ := h.ok hok
    exact ⟨.repeatSet id setId hfault hregexes hnum hothers, hg⟩

theorem list_pattern_adds (text : List Char) (p : Pattern) :
    (list text p).AddsTree fun m => ∃ id ms, m = .list id ms ∧ p.Compiled ms :=
  list_adds (items_adds p) text

/-- A builder that fails nowhere. -/
def Total {α : Type} (x : Builder α) : Prop := ∀ a, ∃ v b, x a = .ok v b

theorem Total.bind {α β : Type} {x : Builder α} {f : α → Builder β} (hx : x.Total)
    (hf : ∀ v, (f v).Total) : (x >>= f).Total := by
  intro a
  obtain ⟨v, b, hv⟩ := hx a
  obtain ⟨w, c, hw⟩ := hf v b
  exact ⟨w, c, bind_eq_ok.mpr ⟨v, b, hv, hw⟩⟩

theorem Total.pure {α : Type} (v : α) : (pure v : Builder α).Total := fun a => ⟨v, a, rfl⟩

theorem allocMatcher_total (pattern : List Char) (m : NodeId → Matcher Leaf) :
    (allocMatcher pattern m).Total := fun a => ⟨_, _, allocMatcher_apply pattern m a⟩

theorem pseudos_total (n : Nat) : (pseudos n).Total := by
  induction n with
  | zero => exact .pure []
  | succ n ih =>
    intro a
    exact (ih.bind fun ids => .pure (a.size :: ids)) ((a.push [] .pseudo).enroll a.size)

theorem member_total (m : Member) : (member m).Total :=
  (pseudos_total _).bind fun _ _ => ⟨_, _, rfl⟩

theorem members_total (ms : List Member) : (members ms).Total := by
  induction ms with
  | nil => exact .pure []
  | cons m ms ih => exact (member_total m).bind fun _ => ih.bind fun _ => .pure _

theorem memberSet_total {s : MemberSet} (h : s.fault = none) : (memberSet s).Total := by
  refine (members_total s.members).bind fun leaves => ?_
  rw [h]
  exact allocMatcher_total _ _

theorem group_total {inner : Builder (Matcher Leaf)} (h : inner.Total) (text : List Char) :
    (group text inner).Total := by
  intro a
  obtain ⟨m, b, hm⟩ := h ((a.push text .reserved).enroll a.size)
  exact ⟨_, _, group_of_ok text hm⟩

theorem repetition_total {atom : Builder (Matcher Leaf)} (h : atom.Total) (text : List Char)
    (bounds : Bounds) : (repetition text atom (.ok bounds)).Total :=
  h.bind fun _ => allocMatcher_total _ _

theorem list_total {items : Builder (List (Matcher Leaf))} (h : items.Total) (text : List Char) :
    Total (do let ms ← items; allocMatcher text fun id => .list id ms) :=
  h.bind fun _ => allocMatcher_total _ _

theorem items_total {p : Pattern} (h : p.Sound) : (items p).Total := by
  induction p with
  | done => exact .pure []
  | fault e => exact h.elim
  | group text inner rest hinner hrest =>
    exact (group_total (list_total (hinner h.1) _) text).bind fun _ =>
      (hrest h.2).bind fun _ => .pure _
  | repeatGroup text atom inner bounds rest hinner hrest =>
    obtain ⟨hi, ⟨b, rfl⟩, hr⟩ := h
    exact (repetition_total (group_total (list_total (hinner hi) _) atom) text b).bind fun _ =>
      (hrest hr).bind fun _ => .pure _
  | repeatSet text atom bounds rest hrest =>
    obtain ⟨hf, ⟨b, rfl⟩, hr⟩ := h
    exact (repetition_total (memberSet_total hf) text b).bind fun _ =>
      (hrest hr).bind fun _ => .pure _

end Builder

end NamePattern
