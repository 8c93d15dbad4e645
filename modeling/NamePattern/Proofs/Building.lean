import NamePattern.Proofs.Growth

/-! Every builder only adds to an arena. A tree that it returns is stored node by node, and its
groups are registered in their order. -/
namespace NamePattern

namespace Arena

/-- The arena with one more node. -/
def push (a : Arena) (pattern : List Char) (content : Content) : Arena :=
  { a with nodes := a.nodes.push ⟨pattern, content⟩ }

/-- The arena with one more group. -/
def enroll (a : Arena) (id : NodeId) : Arena := { a with registry := a.registry.push id }

/-- The arena with another content in one of its nodes. -/
def fill (a : Arena) (id : NodeId) (pattern : List Char) (content : Content) : Arena :=
  { a with nodes := a.nodes.setIfInBounds id ⟨pattern, content⟩ }

variable {a b : Arena} {trees : List (Matcher Leaf)} {ids : List NodeId}

@[simp] theorem size_push (a : Arena) (pattern : List Char) (content : Content) :
    (a.push pattern content).size = a.size + 1 := by
  simp [push, size]

@[simp] theorem size_enroll (a : Arena) (id : NodeId) : (a.enroll id).size = a.size := rfl

@[simp] theorem size_fill (a : Arena) (id : NodeId) (pattern : List Char) (content : Content) :
    (a.fill id pattern content).size = a.size := by
  simp [fill, size]

theorem node_fill_ne {id i : NodeId} (h : i ≠ id) (pattern : List Char) (content : Content) :
    (a.fill id pattern content).nodes[i]? = a.nodes[i]? :=
  Array.getElem?_setIfInBounds_ne h.symm

theorem node_fill_self {id : NodeId} (h : id < a.size) (pattern : List Char) (content : Content) :
    (a.fill id pattern content).nodes[id]? = some ⟨pattern, content⟩ :=
  Array.getElem?_setIfInBounds_self_of_lt h

theorem Extends.push (a : Arena) (pattern : List Char) (content : Content) :
    a.Extends (a.push pattern content) where
  size_le := by simp
  node i hi := by
    unfold Arena.size at hi
    simp only [Arena.push, Array.getElem?_push]
    rw [if_neg (by omega)]
  registry := List.prefix_rfl
  ignoreCase := rfl

theorem Extends.enroll (a : Arena) (id : NodeId) : a.Extends (a.enroll id) where
  size_le := Nat.le_refl _
  node _ _ := rfl
  registry := List.prefix_append ..
  ignoreCase := rfl

/-- A new tree takes a node of its own behind the nodes of its parts. -/
theorem Grows.push (h : a.Grows trees ids b) (pattern : List Char) {m : Matcher Leaf}
    (hm : m.id = b.size) (hleaf : ∀ id leaf, m = .component id leaf → leaf.Numbered) :
    a.Grows (m :: trees) ids (b.push pattern (.matcher m)) where
  toExtends := h.toExtends.trans (.push b ..)
  stored t ht := by
    rcases List.mem_cons.mp ht with rfl | ht
    · exact ⟨hm ▸ h.size_le, pattern, by simp [hm, Arena.push, Arena.size]⟩
    · obtain ⟨hle, text, hn⟩ := h.stored t ht
      exact ⟨hle, text, (Extends.push b ..).node_of_some hn⟩
  registered := h.registered
  increasing := h.increasing
  fresh id hid := ⟨(h.fresh id hid).1, by simpa using Nat.lt_succ_of_lt (h.fresh id hid).2⟩
  numbered id leaf ht := by
    rcases List.mem_cons.mp ht with rfl | ht
    · exact hleaf id leaf rfl
    · exact h.numbered id leaf ht

/-- A node that is registered when it is allocated is numbered before the groups behind it. -/
theorem Grows.of_enroll {pattern : List Char} {content : Content}
    (h : ((a.push pattern content).enroll a.size).Grows trees ids b) :
    a.Grows trees (a.size :: ids) b where
  toExtends := ((Extends.push a ..).trans (.enroll _ _)).trans h.toExtends
  stored t ht := by
    obtain ⟨hle, hn⟩ := h.stored t ht
    exact ⟨Nat.le_of_succ_le (by simpa using hle), hn⟩
  registered := by
    rw [h.registered]
    simp [Arena.enroll, Arena.push, Registry.push]
  increasing := by
    refine List.pairwise_cons.mpr ⟨fun id hid => ?_, h.increasing⟩
    simpa [Nat.succ_le_iff] using (h.fresh id hid).1
  fresh id hid := by
    rcases List.mem_cons.mp hid with rfl | hid
    · exact ⟨Nat.le_refl _, by simpa [Nat.succ_le_iff] using h.size_le⟩
    · exact ⟨Nat.le_of_succ_le (by simpa using (h.fresh id hid).1), (h.fresh id hid).2⟩
  numbered := h.numbered

/-- The content of a group is filled in when what is inside has been allocated behind it. -/
theorem Grows.fill {pattern : List Char} {content : Content} {text : List Char} {i : Matcher Leaf}
    (h : ((a.push pattern content).enroll a.size).Grows trees ids b) :
    a.Grows (.group a.size i :: trees) (a.size :: ids)
      (b.fill a.size text (.matcher (.group a.size i))) where
  size_le := by simpa using h.of_enroll.size_le
  node i hi := by rw [node_fill_ne (Nat.ne_of_lt hi), h.of_enroll.node i hi]
  registry := h.of_enroll.registry
  ignoreCase := h.of_enroll.ignoreCase
  stored t ht := by
    rcases List.mem_cons.mp ht with rfl | ht
    · have hlt : a.size < b.size := by simpa [Nat.succ_le_iff] using h.size_le
      exact ⟨Nat.le_refl _, text, node_fill_self hlt ..⟩
    · obtain ⟨hle, hn⟩ := h.stored t ht
      have hle : a.size < t.id := by simpa [Nat.succ_le_iff] using hle
      exact ⟨Nat.le_of_lt hle, by rwa [node_fill_ne (Nat.ne_of_gt hle)]⟩
  registered := h.of_enroll.registered
  increasing := h.of_enroll.increasing
  fresh id hid := by simpa using h.of_enroll.fresh id hid
  numbered id leaf ht := by
    rcases List.mem_cons.mp ht with ht | ht
    · simp at ht
    · exact h.numbered id leaf ht

end Arena

namespace Builder

/-- A builder grows the arena by what it returns, which has some property. A failure keeps what
the arena held. -/
structure Adds {α : Type} (x : Builder α) (p : α → Prop) (trees : α → List (Matcher Leaf))
    (ids : α → List NodeId) : Prop where
  ok : ∀ {a v b}, x a = .ok v b → p v ∧ a.Grows (trees v) (ids v) b
  error : ∀ {a e b}, x a = .error e b → a.Extends b

theorem Adds.extends_of_bind {α β : Type} {x : Builder α} {f : α → Builder β} {p : α → Prop}
    {trees : α → List (Matcher Leaf)} {ids : α → List NodeId} {a b : Arena} {e : CompileError}
    (hx : x.Adds p trees ids) (hf : ∀ {v c}, f v c = .error e b → c.Extends b)
    (h : (x >>= f) a = .error e b) : a.Extends b := by
  rcases bind_eq_error.mp h with h | ⟨v, c, hv, h⟩
  · exact hx.error h
  · exact (hx.ok hv).2.toExtends.trans (hf h)

/-- A builder of one tree. -/
abbrev AddsTree (x : Builder (Matcher Leaf)) (p : Matcher Leaf → Prop) : Prop :=
  x.Adds p Matcher.subtrees Matcher.captures

/-- A builder of several trees. -/
abbrev AddsTrees (x : Builder (List (Matcher Leaf))) (p : List (Matcher Leaf) → Prop) : Prop :=
  x.Adds p Matcher.itemSubtrees Matcher.itemCaptures

theorem allocMatcher_apply (pattern : List Char) (m : NodeId → Matcher Leaf) (a : Arena) :
    allocMatcher pattern m a = .ok (m a.size) (a.push pattern (.matcher (m a.size))) := rfl

theorem alloc_apply (pattern : List Char) (content : Content) (a : Arena) :
    alloc pattern content a = .ok a.size (a.push pattern content) := rfl

theorem register_apply (id : NodeId) (a : Arena) : register id a = .ok () (a.enroll id) := rfl

theorem pseudos_adds (n : Nat) :
    (pseudos n).Adds (fun ids => ids.length = n) (fun _ => []) (fun ids => ids) := by
  induction n with
  | zero =>
    refine ⟨fun h => ?_, fun h => by simp [pseudos] at h⟩
    cases h
    exact ⟨rfl, .refl _⟩
  | succ n ih =>
    have hstep (a : Arena) : pseudos (n + 1) a =
        (pseudos n >>= fun ids => pure (a.size :: ids)) ((a.push [] .pseudo).enroll a.size) := rfl
    refine ⟨fun {a ids b} h => ?_, fun {a e b} h => ?_⟩
    · rw [hstep] at h
      obtain ⟨ids, c, hp, h⟩ := bind_eq_ok.mp h
      cases h
      obtain ⟨hlen, hg⟩ := ih.ok hp
      exact ⟨by simp [hlen], hg.of_enroll⟩
    · rw [hstep] at h
      have hext := ih.extends_of_bind (fun h => by simp at h) h
      exact ((Arena.Extends.push a ..).trans (.enroll _ _)).trans hext

theorem member_adds (m : Member) :
    (member m).Adds (fun leaf => leaf.regex = m.regex ∧ leaf.Numbered)
      (fun leaf => [.component leaf.id leaf]) Leaf.groups := by
  have hp := pseudos_adds (m.regex.elim 0 CharRegex.groups)
  refine ⟨fun {a leaf b} h => ?_, fun {a e b} h => ?_⟩
  · obtain ⟨groups, c, hgroups, h⟩ := bind_eq_ok.mp h
    cases h
    obtain ⟨hlen, hg⟩ := hp.ok hgroups
    refine ⟨⟨rfl, hlen⟩, hg.push m.text rfl fun id leaf h => ?_⟩
    obtain ⟨-, rfl⟩ := Matcher.component.inj h
    exact hlen
  · exact hp.extends_of_bind (fun h => by cases h) h

theorem members_adds (ms : List Member) :
    (members ms).Adds (fun leaves => leaves.map Leaf.regex = ms.map Member.regex ∧
        ∀ leaf ∈ leaves, leaf.Numbered)
      (fun leaves => leaves.map fun leaf => .component leaf.id leaf)
      (fun leaves => leaves.flatMap Leaf.groups) := by
  induction ms with
  | nil =>
    refine ⟨fun h => ?_, fun h => by cases h⟩
    cases h
    exact ⟨⟨rfl, by simp⟩, .refl _⟩
  | cons m ms ih =>
    refine ⟨fun {a leaves b} h => ?_, fun {a e b} h => ?_⟩
    · obtain ⟨leaf, c, hm, h⟩ := bind_eq_ok.mp h
      obtain ⟨leaves, d, hms, h⟩ := bind_eq_ok.mp h
      cases h
      obtain ⟨⟨hregex, hleaf⟩, hg⟩ := (member_adds m).ok hm
      obtain ⟨⟨hregexes, hleaves⟩, hgs⟩ := ih.ok hms
      exact ⟨⟨by simp [hregex, hregexes], by simpa using ⟨hleaf, hleaves⟩⟩, hg.trans hgs⟩
    · refine (member_adds m).extends_of_bind (fun h => ?_) h
      exact ih.extends_of_bind (fun h => by cases h) h

theorem memberSet_adds (s : MemberSet) :
    (memberSet s).AddsTree fun m => s.fault = none ∧
      ∃ id leaves, m = .set id leaves s.inclusion ∧
        leaves.map Leaf.regex = s.members.map Member.regex ∧ ∀ leaf ∈ leaves, leaf.Numbered := by
  refine ⟨fun {a m b} h => ?_, fun {a e b} h => ?_⟩
  · obtain ⟨leaves, c, hm, h⟩ := bind_eq_ok.mp h
    obtain ⟨hregexes, hg⟩ := (members_adds s.members).ok hm
    cases hf : s.fault with
    | some e => simp [hf] at h
    | none =>
      rw [hf] at h
      cases h
      exact ⟨⟨rfl, c.size, leaves, rfl, hregexes⟩, hg.push s.text rfl (by simp)⟩
  · refine (members_adds s.members).extends_of_bind (fun {v c} h => ?_) h
    cases hf : s.fault with
    | some e' =>
      rw [hf] at h
      cases h
      exact .refl _
    | none =>
      rw [hf] at h
      cases h

theorem group_of_ok {inner : Builder (Matcher Leaf)} {a b : Arena} {m : Matcher Leaf}
    (text : List Char) (h : inner ((a.push text .reserved).enroll a.size) = .ok m b) :
    group text inner a = .ok (.group a.size m) (b.fill a.size text (.matcher (.group a.size m))) := by
  rw [group, bind_of_ok get_apply]
  refine (bind_of_ok (alloc_apply ..)).trans ((bind_of_ok (register_apply ..)).trans ?_)
  simp only [h]
  rfl

theorem group_of_error {inner : Builder (Matcher Leaf)} {a b : Arena} {e : CompileError}
    (text : List Char) (h : inner ((a.push text .reserved).enroll a.size) = .error e b) :
    group text inner a = .error e { b with registry := b.registry.take a.registry.size } := by
  rw [group, bind_of_ok get_apply]
  refine (bind_of_ok (alloc_apply ..)).trans ((bind_of_ok (register_apply ..)).trans ?_)
  simp only [h]

/-- A group becomes a tree around the one inside it. On failure it leaves the registry as it
was. -/
theorem group_adds {inner : Builder (Matcher Leaf)} {p : Matcher Leaf → Prop}
    (hinner : inner.AddsTree p) (text : List Char) :
    (group text inner).AddsTree fun m => ∃ id i, m = .group id i ∧ p i := by
  refine ⟨fun {a m b} h => ?_, fun {a e b} h => ?_⟩
  · cases hi : inner ((a.push text .reserved).enroll a.size) with
    | ok i c =>
      rw [group_of_ok text hi] at h
      cases h
      obtain ⟨hp, hg⟩ := hinner.ok hi
      exact ⟨⟨a.size, i, rfl, hp⟩, hg.fill⟩
    | error e c =>
      rw [group_of_error text hi] at h
      simp at h
  · cases hi : inner ((a.push text .reserved).enroll a.size) with
    | ok i c =>
      rw [group_of_ok text hi] at h
      simp at h
    | error e' c =>
      rw [group_of_error text hi] at h
      cases h
      have hext := ((Arena.Extends.push a text .reserved).trans (.enroll _ a.size)).trans
        (hinner.error hi)
      have hreg : (c.registry.take a.registry.size).refs = a.registry.refs :=
        (List.prefix_iff_eq_take.mp hext.registry).symm
      exact ⟨hext.size_le, hext.node, hreg ▸ List.prefix_rfl, hext.ignoreCase⟩

theorem repetition_adds {atom : Builder (Matcher Leaf)} {p : Matcher Leaf → Prop}
    (hatom : atom.AddsTree p) (text : List Char) (bounds : Except CompileError Bounds) :
    (repetition text atom bounds).AddsTree fun m =>
      ∃ b, bounds = .ok b ∧ ∃ id i, m = .repeated id i b ∧ p i := by
  refine ⟨fun {a m b} h => ?_, fun {a e b} h => ?_⟩
  · obtain ⟨i, c, hi, h⟩ := bind_eq_ok.mp h
    obtain ⟨hp, hg⟩ := hatom.ok hi
    cases bounds with
    | error e => simp at h
    | ok bounds =>
      cases h
      exact ⟨⟨bounds, rfl, c.size, i, rfl, hp⟩, hg.push text rfl (by simp)⟩
  · refine hatom.extends_of_bind (fun {v c} h => ?_) h
    cases bounds with
    | error e => cases h; exact .refl _
    | ok bounds => cases h

theorem list_adds {items : Builder (List (Matcher Leaf))} {p : List (Matcher Leaf) → Prop}
    (hitems : items.AddsTrees p) (text : List Char) :
    Builder.AddsTree (do let ms ← items; allocMatcher text fun id => .list id ms)
      fun m => ∃ id ms, m = .list id ms ∧ p ms := by
  refine ⟨fun {a m b} h => ?_, fun {a e b} h => ?_⟩
  · obtain ⟨ms, c, hms, h⟩ := bind_eq_ok.mp h
    obtain ⟨hp, hg⟩ := hitems.ok hms
    cases h
    exact ⟨⟨c.size, ms, rfl, hp⟩, hg.push text rfl (by simp)⟩
  · exact hitems.extends_of_bind (fun h => by cases h) h

theorem cons_adds {item : Builder (Matcher Leaf)} {items : Builder (List (Matcher Leaf))}
    {p : Matcher Leaf → Prop} {q : List (Matcher Leaf) → Prop} (hitem : item.AddsTree p)
    (hitems : items.AddsTrees q) :
    Builder.AddsTrees (do let m ← item; let ms ← items; return m :: ms)
      fun l => ∃ m ms, l = m :: ms ∧ p m ∧ q ms := by
  refine ⟨fun {a l b} h => ?_, fun {a e b} h => ?_⟩
  · obtain ⟨m, c, hm, h⟩ := bind_eq_ok.mp h
    obtain ⟨ms, d, hms, h⟩ := bind_eq_ok.mp h
    cases h
    obtain ⟨hp, hg⟩ := hitem.ok hm
    obtain ⟨hq, hgs⟩ := hitems.ok hms
    exact ⟨⟨m, ms, rfl, hp, hq⟩, hg.trans hgs⟩
  · refine hitem.extends_of_bind (fun h => ?_) h
    exact hitems.extends_of_bind (fun h => by cases h) h

end Builder

end NamePattern
