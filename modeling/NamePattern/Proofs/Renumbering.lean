import NamePattern.Proofs.Built

/-! Builders do the same in every arena, but they number their nodes from its size on. -/
namespace NamePattern

/-- A leaf with other numbers. -/
def Leaf.shift (k : Nat) (leaf : Leaf) : Leaf :=
  ⟨leaf.id + k, leaf.regex, leaf.groups.map (· + k)⟩

namespace Matcher

mutual

/-- A tree whose nodes have all been moved up by a number. -/
def shift (k : Nat) : Matcher Leaf → Matcher Leaf
  | component id leaf => .component (id + k) (leaf.shift k)
  | set id members inclusion => .set (id + k) (members.map (.shift k)) inclusion
  | group id inner => .group (id + k) (shift k inner)
  | repeated id inner bounds => .repeated (id + k) (shift k inner) bounds
  | list id items => .list (id + k) (shiftItems k items)

def shiftItems (k : Nat) : List (Matcher Leaf) → List (Matcher Leaf)
  | [] => []
  | item :: items => shift k item :: shiftItems k items

end

end Matcher

theorem Leaf.shift_zero (leaf : Leaf) : leaf.shift 0 = leaf := by
  simp [shift]

namespace Matcher

mutual

theorem shift_zero : ∀ m : Matcher Leaf, m.shift 0 = m
  | component id leaf => by rw [shift, leaf.shift_zero, Nat.add_zero]
  | set id members inclusion => by
    rw [shift, Nat.add_zero, List.map_congr_left fun leaf _ => leaf.shift_zero, List.map_id']
  | group id inner => by rw [shift, shift_zero inner, Nat.add_zero]
  | repeated id inner bounds => by rw [shift, shift_zero inner, Nat.add_zero]
  | list id items => by rw [shift, shiftItems_zero items, Nat.add_zero]

theorem shiftItems_zero : ∀ items : List (Matcher Leaf), shiftItems 0 items = items
  | [] => by rw [shiftItems]
  | item :: items => by rw [shiftItems, shift_zero item, shiftItems_zero items]

end

end Matcher

def Content.shift (k : Nat) : Content → Content
  | reserved => .reserved
  | pseudo => .pseudo
  | matcher m => .matcher (m.shift k)

def Node.shift (k : Nat) (n : Node) : Node := ⟨n.pattern, n.content.shift k⟩

namespace Arena

/-- Two arenas have come from `a₀` and `b₀` by the same additions. In the second one, the new nodes
are numbered higher by `k`. -/
structure Beside (k : Nat) (a₀ b₀ a b : Arena) : Prop where
  size_le : a₀.size ≤ a.size
  size : b.size = a.size + k
  node : ∀ i, a₀.size ≤ i → b.nodes[i + k]? = a.nodes[i]?.map (.shift k)
  registry : ∃ ids, a.registry.refs = a₀.registry.refs ++ ids ∧
    b.registry.refs = b₀.registry.refs ++ ids.map (· + k)
  ignoreCase : b.ignoreCase = a.ignoreCase

variable {k : Nat} {a₀ b₀ a b : Arena} {id : NodeId}

/-- Nothing has been added to either. -/
theorem Beside.start (hsize : b.size = a.size + k) (hic : b.ignoreCase = a.ignoreCase) :
    Beside k a b a b where
  size_le := Nat.le_refl _
  size := hsize
  node i hi := by
    have hb : b.nodes.size ≤ i + k := by
      have heq : b.nodes.size = a.nodes.size + k := hsize
      have hle : a.nodes.size ≤ i := hi
      omega
    rw [Array.getElem?_eq_none hi, Array.getElem?_eq_none hb]
    rfl
  registry := ⟨[], (List.append_nil _).symm, (List.append_nil _).symm⟩
  ignoreCase := hic

theorem Beside.push (h : Beside k a₀ b₀ a b) (text : List Char) (content : Content) :
    Beside k a₀ b₀ (a.push text content) (b.push text (content.shift k)) where
  size_le := Nat.le_trans h.size_le (by simp)
  size := by
    rw [size_push, size_push, h.size]
    omega
  node i hi := by
    have hnode := h.node i hi
    have hsize : b.nodes.size = a.nodes.size + k := h.size
    simp only [Arena.push, Array.getElem?_push, hsize]
    by_cases hlast : i = a.nodes.size
    · rw [if_pos hlast, if_pos (by omega)]
      rfl
    · rw [if_neg hlast, if_neg (by omega)]
      exact hnode
  registry := h.registry
  ignoreCase := h.ignoreCase

theorem Beside.enroll (h : Beside k a₀ b₀ a b) (id : NodeId) :
    Beside k a₀ b₀ (a.enroll id) (b.enroll (id + k)) where
  size_le := h.size_le
  size := h.size
  node := h.node
  registry := by
    obtain ⟨ids, ha, hb⟩ := h.registry
    refine ⟨ids ++ [id], ?_, ?_⟩
    · simp [Arena.enroll, Registry.push, ha]
    · simp [Arena.enroll, Registry.push, hb]
  ignoreCase := h.ignoreCase

theorem Beside.fill (h : Beside k a₀ b₀ a b) (id : Nat) (text : List Char) (content : Content) :
    Beside k a₀ b₀ (a.fill id text content) (b.fill (id + k) text (content.shift k)) where
  size_le := Nat.le_trans h.size_le (by simp)
  size := by
    rw [size_fill, size_fill, h.size]
  node i hi := by
    have hnode := h.node i hi
    have hsize : b.nodes.size = a.nodes.size + k := h.size
    simp only [Arena.fill, Array.getElem?_setIfInBounds, hsize]
    by_cases hid : id = i
    · rw [if_pos hid, if_pos (by omega)]
      by_cases hlt : id < a.nodes.size
      · rw [if_pos hlt, if_pos (by omega)]
        rfl
      · rw [if_neg hlt, if_neg (by omega)]
        rfl
    · rw [if_neg hid, if_neg (by omega)]
      exact hnode
  registry := h.registry
  ignoreCase := h.ignoreCase

/-- Both give up what has been registered since an earlier state. -/
theorem Beside.take {a' b' : Arena} (h : Beside k a₀ b₀ a b) (h' : Beside k a₀ b₀ a' b')
    (hext : a.registry.refs <+: a'.registry.refs) (hext' : b.registry.refs <+: b'.registry.refs) :
    Beside k a₀ b₀ { a' with registry := a'.registry.take a.registry.size }
      { b' with registry := b'.registry.take b.registry.size } where
  size_le := h'.size_le
  size := h'.size
  node := h'.node
  registry := by
    obtain ⟨ids, ha, hb⟩ := h.registry
    refine ⟨ids, ?_, ?_⟩
    · rw [← ha]
      exact (List.prefix_iff_eq_take.mp hext).symm
    · rw [← hb]
      exact (List.prefix_iff_eq_take.mp hext').symm
  ignoreCase := h'.ignoreCase

end Arena

namespace Builder

variable {k : Nat} {a₀ b₀ : Arena} {α β α' β' : Type}

/-- Two builders run side by side. Both succeed, with values that go together, or both fail, with
the same error. -/
def Parallel (k : Nat) (a₀ b₀ : Arena) (goes : α → α') (x : Builder α) (y : Builder α') : Prop :=
  ∀ a b, Arena.Beside k a₀ b₀ a b →
    (∃ v a' b', x a = .ok v a' ∧ y b = .ok (goes v) b' ∧ Arena.Beside k a₀ b₀ a' b') ∨
      ∃ e a' b', x a = .error e a' ∧ y b = .error e b' ∧ Arena.Beside k a₀ b₀ a' b'

variable {x : Builder α} {y : Builder α'} {goes : α → α'} {goes' : β → β'}
  {f : α → Builder β} {g : α' → Builder β'}

/-- If both succeed, then with values that go together. -/
theorem Parallel.of_ok {a b a' b' : Arena} {v : α} {w : α'} (h : Parallel k a₀ b₀ goes x y)
    (hstart : Arena.Beside k a₀ b₀ a b) (hx : x a = .ok v a') (hy : y b = .ok w b') :
    w = goes v ∧ Arena.Beside k a₀ b₀ a' b' := by
  obtain ⟨_, _, _, hv, hw, hbeside⟩ | ⟨_, _, _, he, -, -⟩ := h a b hstart
  · cases hx.symm.trans hv
    cases hy.symm.trans hw
    exact ⟨rfl, hbeside⟩
  · cases hx.symm.trans he

theorem Parallel.pure (v : α) : Parallel k a₀ b₀ goes (pure v) (pure (goes v)) :=
  fun a b h => .inl ⟨v, a, b, rfl, rfl, h⟩

theorem Parallel.throw (e : CompileError) :
    Parallel k a₀ b₀ goes (throw e : Builder α) (throw e : Builder α') :=
  fun a b h => .inr ⟨e, a, b, rfl, rfl, h⟩

theorem Parallel.bind (hx : Parallel k a₀ b₀ goes x y)
    (hf : ∀ v, Parallel k a₀ b₀ goes' (f v) (g (goes v))) :
    Parallel k a₀ b₀ goes' (x >>= f) (y >>= g) := by
  intro a b h
  obtain ⟨v, a', b', hv, hw, h'⟩ | ⟨e, a', b', hv, hw, h'⟩ := hx a b h
  · rw [bind_of_ok hv, bind_of_ok hw]
    exact hf v a' b' h'
  · rw [bind_of_error hv, bind_of_error hw]
    exact .inr ⟨e, a', b', rfl, rfl, h'⟩

theorem allocMatcher_parallel {m m' : NodeId → Matcher Leaf} (text : List Char)
    (hm : ∀ id, m' (id + k) = (m id).shift k) :
    Parallel k a₀ b₀ (.shift k) (allocMatcher text m) (allocMatcher text m') := by
  intro a b h
  have hb : m' b.size = (m a.size).shift k := by rw [h.size, hm]
  refine .inl ⟨_, _, _, allocMatcher_apply text m a, ?_, h.push text (.matcher (m a.size))⟩
  rw [allocMatcher_apply, hb]
  rfl

theorem pseudos_parallel (n : Nat) :
    Parallel k a₀ b₀ (List.map (· + k)) (pseudos n) (pseudos n) := by
  induction n with
  | zero => exact .pure []
  | succ n ih =>
    have hstep (a : Arena) : pseudos (n + 1) a =
        (pseudos n >>= fun ids => pure (a.size :: ids)) ((a.push [] .pseudo).enroll a.size) := rfl
    intro a b h
    have hrest : Parallel k a₀ b₀ (List.map (· + k)) (pseudos n >>= fun ids => pure (a.size :: ids))
        (pseudos n >>= fun ids => pure ((a.size + k) :: ids)) :=
      ih.bind fun ids => .pure (a.size :: ids)
    rw [hstep, hstep, h.size]
    exact hrest _ _ ((h.push [] .pseudo).enroll a.size)

theorem member_parallel (m : Member) :
    Parallel k a₀ b₀ (.shift k) (member m) (member m) := by
  refine (pseudos_parallel _).bind fun groups => ?_
  intro a b h
  let leaf : Leaf := ⟨a.size, m.regex, groups⟩
  have hpush := h.push m.text (.matcher (.component a.size leaf))
  have hcontent : (Content.matcher (.component a.size leaf)).shift k =
      .matcher (.component b.size ⟨b.size, m.regex, groups.map (· + k)⟩) := by
    rw [h.size]
    rfl
  have hleaf : leaf.shift k = ⟨b.size, m.regex, groups.map (· + k)⟩ := by
    rw [h.size]
    rfl
  rw [hcontent] at hpush
  refine .inl ⟨leaf, _, _, rfl, ?_, hpush⟩
  rw [hleaf]
  rfl

theorem members_parallel (ms : List Member) :
    Parallel k a₀ b₀ (List.map (.shift k)) (members ms) (members ms) := by
  induction ms with
  | nil => exact .pure []
  | cons m ms ih =>
    exact (member_parallel m).bind fun leaf => ih.bind fun leaves => .pure (leaf :: leaves)

theorem memberSet_parallel (s : MemberSet) :
    Parallel k a₀ b₀ (.shift k) (memberSet s) (memberSet s) := by
  refine (members_parallel s.members).bind fun leaves => ?_
  cases s.fault with
  | some f => exact .throw f.error
  | none => exact allocMatcher_parallel s.text fun id => by rw [Matcher.shift]

theorem repetition_parallel {atom atom' : Builder (Matcher Leaf)}
    (h : Parallel k a₀ b₀ (.shift k) atom atom') (text : List Char)
    (bounds : Except CompileError Bounds) :
    Parallel k a₀ b₀ (.shift k) (repetition text atom bounds) (repetition text atom' bounds) := by
  refine h.bind fun m => ?_
  cases bounds with
  | error e => exact .throw e
  | ok b => exact allocMatcher_parallel text fun id => by rw [Matcher.shift]

theorem list_parallel {items items' : Builder (List (Matcher Leaf))}
    (h : Parallel k a₀ b₀ (Matcher.shiftItems k) items items') (text : List Char) :
    Parallel k a₀ b₀ (.shift k) (do let ms ← items; allocMatcher text fun id => .list id ms)
      (do let ms ← items'; allocMatcher text fun id => .list id ms) :=
  h.bind fun ms => allocMatcher_parallel text fun id => by rw [Matcher.shift]

theorem cons_parallel {item item' : Builder (Matcher Leaf)}
    {items items' : Builder (List (Matcher Leaf))} (hitem : Parallel k a₀ b₀ (.shift k) item item')
    (hitems : Parallel k a₀ b₀ (Matcher.shiftItems k) items items') :
    Parallel k a₀ b₀ (Matcher.shiftItems k) (do let m ← item; let ms ← items; return m :: ms)
      (do let m ← item'; let ms ← items'; return m :: ms) := by
  refine hitem.bind fun m => hitems.bind fun ms => ?_
  have hcons : Matcher.shiftItems k (m :: ms) = m.shift k :: Matcher.shiftItems k ms := by
    rw [Matcher.shiftItems]
  rw [← hcons]
  exact .pure (m :: ms)

/-- Groups that fail take back the same numbers. -/
theorem group_parallel {inner inner' : Builder (Matcher Leaf)} {p q : Matcher Leaf → Prop}
    (hp : inner.AddsTree p) (hq : inner'.AddsTree q)
    (h : Parallel k a₀ b₀ (.shift k) inner inner') (text : List Char) :
    Parallel k a₀ b₀ (.shift k) (group text inner) (group text inner') := by
  intro a b hab
  have hstart := (hab.push text .reserved).enroll a.size
  have hsize : a.size + k = b.size := hab.size.symm
  rw [hsize] at hstart
  obtain ⟨m, a', b', hm, hm', h'⟩ | ⟨e, a', b', he, he', h'⟩ := h _ _ hstart
  · have hfill := h'.fill a.size text (.matcher (.group a.size m))
    have hgroup : Matcher.shift k (.group a.size m) = .group b.size (m.shift k) := by
      rw [Matcher.shift, hsize]
    rw [Content.shift, hgroup, hsize] at hfill
    refine .inl ⟨_, _, _, group_of_ok text hm, ?_, hfill⟩
    rw [hgroup]
    exact group_of_ok text hm'
  · have hext := ((Arena.Extends.push a text .reserved).trans (.enroll _ a.size)).trans (hp.error he)
    have hext' := ((Arena.Extends.push b text .reserved).trans (.enroll _ b.size)).trans
      (hq.error he')
    exact .inr ⟨e, _, _, group_of_error text he, group_of_error text he',
      hab.take h' hext.registry hext'.registry⟩

theorem items_parallel (p : Pattern) :
    Parallel k a₀ b₀ (Matcher.shiftItems k) (items p) (items p) := by
  induction p with
  | done => exact .pure []
  | fault f => exact .throw f.error
  | group text inner rest hinner hrest =>
    have hadds := list_adds (items_adds inner) text.tail.dropLast
    exact cons_parallel (group_parallel hadds hadds (list_parallel hinner _) text) hrest
  | repeatGroup text atom inner bounds rest hinner hrest =>
    have hadds := list_adds (items_adds inner) atom.tail.dropLast
    exact cons_parallel (repetition_parallel (group_parallel hadds hadds (list_parallel hinner _) atom)
      text bounds) hrest
  | repeatSet text atom bounds rest hrest =>
    exact cons_parallel (repetition_parallel (memberSet_parallel atom) text bounds) hrest

theorem list_pattern_parallel (text : List Char) (p : Pattern) :
    Parallel k a₀ b₀ (.shift k) (list text p) (list text p) :=
  list_parallel (items_parallel p) text

/-- Of what an arena holds, the calls only look at whether case is ignored. -/
theorem parallel_of_ignoreCase {y : Builder (Matcher Leaf)} (x : Bool → Builder (Matcher Leaf))
    (hy : ∀ a, y a = x a.ignoreCase a)
    (h : ∀ ignoreCase, Parallel k a₀ b₀ (.shift k) (x ignoreCase) (x ignoreCase)) :
    Parallel k a₀ b₀ (.shift k) y y := by
  intro a b hab
  rw [hy a, hy b, hab.ignoreCase]
  exact h a.ignoreCase a b hab

theorem component_parallel (text : List Char) :
    Parallel k a₀ b₀ (.shift k) (component text) (component text) := by
  intro a b hab
  cases hread : Member.read a.ignoreCase text with
  | error e =>
    rw [component_of_error hread, component_of_error (hab.ignoreCase ▸ hread)]
    exact .inr ⟨e, a, b, rfl, rfl, hab⟩
  | ok m =>
    rw [component_of_ok hread, component_of_ok (hab.ignoreCase ▸ hread)]
    have hleaf (leaf : Leaf) : Matcher.component (leaf.shift k).id (leaf.shift k) =
        (Matcher.component leaf.id leaf).shift k := by
      rw [Matcher.shift]
      rfl
    refine (member_parallel m).bind (fun leaf => ?_) a b hab
    rw [hleaf]
    exact .pure _

theorem componentSet_parallel (text : List Char) :
    Parallel k a₀ b₀ (.shift k) (componentSet text) (componentSet text) :=
  parallel_of_ignoreCase (fun ignoreCase => memberSet (.read ignoreCase text)) (fun _ => rfl)
    fun _ => memberSet_parallel _

theorem backref_parallel (text : List Char) :
    Parallel k a₀ b₀ (.shift k) (backref text) (backref text) := by
  refine parallel_of_ignoreCase (fun ignoreCase =>
    group text (list text.tail.dropLast (.readGroup ignoreCase text))) (fun _ => rfl)
    fun ignoreCase => ?_
  have hadds := list_pattern_adds text.tail.dropLast (.readGroup ignoreCase text)
  exact group_parallel hadds hadds (list_pattern_parallel _ _) text

theorem patternList_parallel (text : List Char) :
    Parallel k a₀ b₀ (.shift k) (patternList text) (patternList text) :=
  parallel_of_ignoreCase (fun ignoreCase => list text (.read ignoreCase text)) (fun _ => rfl)
    fun _ => list_pattern_parallel text _

theorem repeatAt_parallel (text : List Char) (indicator : Nat) :
    Parallel k a₀ b₀ (.shift k) (repeatAt text indicator) (repeatAt text indicator) := by
  unfold repeatAt
  split
  · exact .throw _
  · next atom quantifier _ =>
    refine repetition_parallel ?_ text (Bounds.read text quantifier)
    by_cases hgroup : atom.head? = some '('
    · rw [if_pos hgroup]
      exact backref_parallel atom
    · rw [if_neg hgroup]
      exact componentSet_parallel atom

end Builder

/-- A call does the same in any two arenas, up to the numbers of nodes. -/
theorem Call.build_parallel (c : Call) (k : Nat) (a₀ b₀ : Arena) :
    Builder.Parallel k a₀ b₀ (.shift k) c.build c.build := by
  cases c with
  | component text => exact Builder.component_parallel text
  | componentSet text => exact Builder.componentSet_parallel text
  | backref text => exact Builder.backref_parallel text
  | repeatAt text indicator => exact Builder.repeatAt_parallel text indicator
  | patternList text => exact Builder.patternList_parallel text

end NamePattern
