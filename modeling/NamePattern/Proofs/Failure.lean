import NamePattern.Proofs.Registering
import NamePattern.Proofs.Renumbering

/-! What a failed call leaves behind, and what later calls make of it. -/
namespace NamePattern

namespace Call

/-- The groups that a call registers, whether it succeeds or not. -/
def registered (ignoreCase : Bool) : Call → Nat
  | component text =>
    match Member.read ignoreCase text with
    | .ok m => m.groups
    | .error _ => 0
  | componentSet text => (MemberSet.read ignoreCase text).groups
  | backref text => ofGroup text
  | repeatAt text indicator =>
    match Text.splitAtByte? indicator text with
    | none => 0
    | some (atom, _) =>
      if atom.head? = some '(' then ofGroup atom else (MemberSet.read ignoreCase atom).groups
  | patternList text => (Pattern.read ignoreCase text).registered
where
  ofGroup (text : List Char) : Nat :=
    let p := Pattern.readGroup ignoreCase text
    if p.Sound then p.groups + 1 else 0

end Call

namespace Builder

variable {a b : Arena} {e : CompileError} {m : Matcher Leaf}

theorem backref_apply (text : List Char) (a : Arena) : backref text a =
    group text (list text.tail.dropLast (.readGroup a.ignoreCase text)) a := rfl

theorem componentSet_apply (text : List Char) (a : Arena) :
    componentSet text a = memberSet (.read a.ignoreCase text) a := rfl

theorem patternList_apply (text : List Char) (a : Arena) :
    patternList text a = list text (.read a.ignoreCase text) a := rfl

theorem repetition_congr {atom atom' : Builder (Matcher Leaf)} (h : atom a = atom' a)
    (text : List Char) (bounds : Except CompileError Bounds) :
    repetition text atom bounds a = repetition text atom' bounds a := by
  unfold repetition
  simp only [bind, EStateM.bind, h]

theorem list_pattern_fails {p : Pattern} (h : ¬ p.Sound) (text : List Char) :
    (list text p).Fails :=
  (items_fails h).bind

theorem list_pattern_total {p : Pattern} (h : p.Sound) (text : List Char) : (list text p).Total :=
  list_total (items_total h) text

theorem group_pattern_registers (p : Pattern) (inside text : List Char) :
    (group text (list inside p)).Registers (if p.Sound then p.groups + 1 else 0) := by
  have hlist : (list inside p).Registers p.registered := list_registers (items_registers p) inside
  by_cases hsound : p.Sound
  · rw [if_pos hsound, ← Pattern.registered_of_sound hsound]
    exact group_registers hlist (list_pattern_total hsound inside) text
  · rw [if_neg hsound]
    exact group_registers_zero hlist (list_pattern_fails hsound inside) text

end Builder

namespace Call

open Builder

variable {a b : Arena} {e : CompileError} {ts : List (Matcher Leaf)}

/-- A call is a builder that looks at nothing of the arena but whether case is ignored. -/
theorem exists_builder (c : Call) (ignoreCase : Bool) : ∃ x : Builder (Matcher Leaf),
    x.Registers (c.registered ignoreCase) ∧
      ∀ a : Arena, a.ignoreCase = ignoreCase → c.build a = x a := by
  cases c with
  | component text =>
    cases hread : Member.read ignoreCase text with
    | error e =>
      refine ⟨throw e, ?_, fun a ha => component_of_error (ha ▸ hread)⟩
      simp only [registered, hread]
      exact .throw e
    | ok m =>
      refine ⟨member m >>= fun leaf => pure (.component leaf.id leaf), ?_,
        fun a ha => component_of_ok (ha ▸ hread)⟩
      simp only [registered, hread]
      exact (member_registers m).bind_zero fun _ => .pure _
  | componentSet text =>
    refine ⟨memberSet (.read ignoreCase text), memberSet_registers _, fun a ha => ?_⟩
    rw [build, componentSet_apply, ha]
  | backref text =>
    refine ⟨group text (list text.tail.dropLast (.readGroup ignoreCase text)),
      group_pattern_registers _ _ text, fun a ha => ?_⟩
    rw [build, backref_apply, ha]
  | repeatAt text indicator =>
    simp only [registered, build, Builder.repeatAt]
    cases Text.splitAtByte? indicator text with
    | none => exact ⟨_, .throw (.unexpected text text), fun _ _ => rfl⟩
    | some parts =>
      obtain ⟨atom, quantifier⟩ := parts
      dsimp only
      by_cases hgroup : atom.head? = some '('
      · rw [if_pos hgroup, if_pos hgroup]
        refine ⟨_, repetition_registers (group_pattern_registers (.readGroup ignoreCase atom)
          atom.tail.dropLast atom) text (Bounds.read text quantifier), fun a ha => ?_⟩
        apply repetition_congr
        rw [backref_apply, ha]
      · rw [if_neg hgroup, if_neg hgroup]
        refine ⟨_, repetition_registers (memberSet_registers (.read ignoreCase atom)) text
          (Bounds.read text quantifier), fun a ha => ?_⟩
        apply repetition_congr
        rw [componentSet_apply, ha]
  | patternList text =>
    refine ⟨list text (.read ignoreCase text), list_registers (items_registers _) text,
      fun a ha => ?_⟩
    rw [build, patternList_apply, ha]

/-- A call adds some new groups behind those that are registered, as many as it registers. -/
theorem build_registers (c : Call) (a : Arena) : ∃ ids,
    a.Registers (c.build.final a) ids ∧ ids.length = c.registered a.ignoreCase := by
  obtain ⟨x, hx, hbuild⟩ := c.exists_builder a.ignoreCase
  have hfinal : c.build.final a = x.final a := by
    unfold final
    rw [hbuild a rfl]
  rw [hfinal]
  exact hx a

/-- The regex of one component registers its groups only after all else. -/
theorem component_registered_of_error {text : List Char}
    (h : (component text).build a = .error e b) : (component text).registered a.ignoreCase = 0 := by
  cases hread : Member.read a.ignoreCase text with
  | error e => simp only [registered, hread]
  | ok m =>
    obtain ⟨leaf, c, hm⟩ := member_total m a
    have hok : (component text).build a = .ok (.component leaf.id leaf) c :=
      (component_of_ok hread).trans ((bind_of_ok hm).trans rfl)
    rw [hok] at h
    cases h

/-- A group takes back what it has registered. -/
theorem backref_registered_of_error {text : List Char}
    (h : (backref text).build a = .error e b) : (backref text).registered a.ignoreCase = 0 := by
  let p := Pattern.readGroup a.ignoreCase text
  by_cases hsound : p.Sound
  · obtain ⟨m, c, hm⟩ := group_total (list_pattern_total hsound text.tail.dropLast) text a
    have hok : (backref text).build a = .ok m c := hm
    rw [hok] at h
    cases h
  · simp only [registered, registered.ofGroup]
    exact if_neg hsound

/-- What a call makes of an arena and the trees of earlier calls. -/
def step (s : Arena × List (Matcher Leaf)) (c : Call) : Arena × List (Matcher Leaf) :=
  match c.build s.1 with
  | .ok m b => (b, m :: s.2)
  | .error _ b => (b, s.2)

/-- One call after another, whether they succeed or fail. -/
def run (cs : List Call) (s : Arena × List (Matcher Leaf)) : Arena × List (Matcher Leaf) :=
  cs.foldl step s

end Call

/-- The numbers of the nodes that a tree is made of. -/
def Matcher.nodes (m : Matcher Leaf) : List NodeId := m.subtrees.map Matcher.id ++ m.captures

namespace Arena

open Call

variable {a b a₀ b₀ : Arena} {k : Nat} {ts : List (Matcher Leaf)} {m : Matcher Leaf}

theorem Grows.nodes (h : a.Grows m.subtrees m.captures b) :
    ∀ i ∈ m.nodes, a.size ≤ i := by
  intro i hi
  obtain hi | hi := List.mem_append.mp hi
  · obtain ⟨t, ht, hid⟩ := List.mem_map.mp hi
    rw [← hid]
    exact (h.stored t ht).1
  · exact (h.fresh i hi).1

theorem Holds.nodes (h : a.Holds m) : ∀ i ∈ m.nodes, i < a.size := by
  intro i hi
  obtain hi | hi := List.mem_append.mp hi
  · obtain ⟨t, ht, hid⟩ := List.mem_map.mp hi
    obtain ⟨text, hnode⟩ := h.stored t ht
    rw [← hid]
    exact (Array.getElem?_eq_some_iff.mp hnode).1
  · exact h.inside i hi

/-- Only numbers of nodes are registered. -/
theorem Built.registry_lt (h : a.Built ts) : ∀ i ∈ a.registry.refs, i < a.size := by
  have hstep {a b : Arena} (c : Call) (hb : c.build.final a = b)
      (ih : ∀ i ∈ a.registry.refs, i < a.size) : ∀ i ∈ b.registry.refs, i < b.size := by
    obtain ⟨ids, hids, -⟩ := c.build_registers a
    rw [hb] at hids
    intro i hi
    rw [hids.registry] at hi
    obtain hi | hi := List.mem_append.mp hi
    · exact Nat.lt_of_lt_of_le (ih i hi) hids.size_le
    · exact (hids.fresh i hi).2
  induction h with
  | empty => simp [Arena.empty, Registry.empty]
  | success c _ hc ih => exact hstep c (Builder.final_of_ok hc) ih
  | failure c _ hc ih => exact hstep c (Builder.final_of_error hc) ih

/-- No group and no tree has a node of those between two numbers. -/
def Unreferenced (n m : Nat) (s : Arena × List (Matcher Leaf)) : Prop :=
  ∀ i, n ≤ i → i < m → i ∉ s.1.registry.refs ∧ ∀ t ∈ s.2, i ∉ t.nodes

/-- Later calls refer to no node of those that are there. -/
theorem unreferenced_step {n : Nat} {s : Arena × List (Matcher Leaf)} (c : Call)
    (hle : n ≤ s.1.size) (h : Unreferenced k n s) :
    n ≤ (step s c).1.size ∧ Unreferenced k n (step s c) := by
  obtain ⟨ids, hids, -⟩ := c.build_registers s.1
  have hregistry {b : Arena} (hb : c.build.final s.1 = b) (i : NodeId) (hk : k ≤ i) (hn : i < n) :
      i ∉ b.registry.refs := by
    rw [hb] at hids
    rw [hids.registry]
    intro hi
    obtain hi | hi := List.mem_append.mp hi
    · exact (h i hk hn).1 hi
    · exact Nat.not_lt_of_le (Nat.le_trans hle (hids.fresh i hi).1) hn
  unfold step
  cases hc : c.build s.1 with
  | ok m b =>
    have hgrows := (c.build_adds.ok hc).2
    refine ⟨Nat.le_trans hle hgrows.size_le, fun i hk hn => ⟨?_, fun t ht => ?_⟩⟩
    · exact hregistry (Builder.final_of_ok hc) i hk hn
    · obtain ht | ht := List.mem_cons.mp ht
      · rw [ht]
        exact fun hi => Nat.not_lt_of_le (Nat.le_trans hle (hgrows.nodes i hi)) hn
      · exact (h i hk hn).2 t ht
  | error e b =>
    refine ⟨Nat.le_trans hle (c.build_adds.error hc).size_le, fun i hk hn => ⟨?_, (h i hk hn).2⟩⟩
    exact hregistry (Builder.final_of_error hc) i hk hn

theorem unreferenced_run {n : Nat} {s : Arena × List (Matcher Leaf)} (cs : List Call)
    (hle : n ≤ s.1.size) (h : Unreferenced k n s) : Unreferenced k n (run cs s) := by
  induction cs generalizing s with
  | nil => exact h
  | cons c cs ih =>
    obtain ⟨hle', h'⟩ := unreferenced_step c hle h
    exact ih hle' h'

theorem Beside.step (h : Beside k a₀ b₀ a b) (trees ts us : List (Matcher Leaf)) (c : Call) :
    ∃ trees' a' b', Call.step (a, trees ++ ts) c = (a', trees' ++ ts) ∧
      Call.step (b, trees.map (.shift k) ++ us) c = (b', trees'.map (.shift k) ++ us) ∧
      Beside k a₀ b₀ a' b' := by
  unfold Call.step
  obtain ⟨m, a', b', hm, hm', h'⟩ | ⟨e, a', b', he, he', h'⟩ := c.build_parallel k a₀ b₀ a b h
  · refine ⟨m :: trees, a', b', ?_, ?_, h'⟩
    · simp only [hm, List.cons_append]
    · simp only [hm', List.map_cons, List.cons_append]
  · refine ⟨trees, a', b', ?_, ?_, h'⟩
    · simp only [he]
    · simp only [he']

/-- The same calls make the same trees in both arenas, up to the numbers of nodes. -/
theorem Beside.run (h : Beside k a₀ b₀ a b) (trees ts us : List (Matcher Leaf)) (cs : List Call) :
    ∃ trees' a' b', Call.run cs (a, trees ++ ts) = (a', trees' ++ ts) ∧
      Call.run cs (b, trees.map (.shift k) ++ us) = (b', trees'.map (.shift k) ++ us) ∧
      Beside k a₀ b₀ a' b' := by
  induction cs generalizing a b trees with
  | nil => exact ⟨trees, a, b, rfl, rfl, h⟩
  | cons c cs ih =>
    obtain ⟨trees', a', b', ha, hb, h'⟩ := h.step trees ts us c
    have hrest := ih h' trees'
    unfold Call.run at hrest ⊢
    rw [List.foldl_cons, List.foldl_cons, ha, hb]
    exact hrest

/-- A call that fails leaves as many groups behind as it had registered before its fault; the regex
of a component and a group leave none. If there are none, then nothing refers to the nodes that it
leaves behind, and all later calls make the trees and number the groups as if it had not been. -/
theorem Built.failure_leaves {a b : Arena} {ts : List (Matcher Leaf)} {e : CompileError} (c : Call)
    (h : a.Built ts) (hc : c.build a = .error e b) :
    (∃ ids, b.registry.refs = a.registry.refs ++ ids ∧
      ids.length = c.registered a.ignoreCase) ∧
    (∀ text, c = .component text ∨ c = .backref text → c.registered a.ignoreCase = 0) ∧
    (c.registered a.ignoreCase = 0 → b.registry = a.registry ∧ ∀ cs : List Call,
      Unreferenced a.size b.size (run cs (b, ts)) ∧
      ∃ trees a' b' ids, run cs (a, ts) = (a', trees ++ ts) ∧
        run cs (b, ts) = (b', trees.map (.shift (b.size - a.size)) ++ ts) ∧
        a'.registry.refs = a.registry.refs ++ ids ∧
        b'.registry.refs = a.registry.refs ++ ids.map (· + (b.size - a.size))) := by
  have hext : a.Extends b := c.build_adds.error hc
  obtain ⟨ids, hids, hlen⟩ := c.build_registers a
  rw [Builder.final_of_error hc] at hids
  refine ⟨⟨ids, hids.registry, hlen⟩, fun text htext => ?_, fun hzero => ?_⟩
  · obtain htext | htext := htext
    · rw [htext] at hc ⊢
      exact component_registered_of_error hc
    · rw [htext] at hc ⊢
      exact backref_registered_of_error hc
  have hnil : ids = [] := List.eq_nil_of_length_eq_zero (hlen.trans hzero)
  have hrefs : b.registry.refs = a.registry.refs := by rw [hids.registry, hnil, List.append_nil]
  have hregistry : b.registry = a.registry := congrArg Registry.mk hrefs
  refine ⟨hregistry, fun cs => ⟨?_, ?_⟩⟩
  · refine unreferenced_run cs (Nat.le_refl _) fun i hle _ => ⟨?_, fun t ht hi => ?_⟩
    · rw [hrefs]
      exact fun hi => Nat.not_lt_of_le hle (h.registry_lt i hi)
    · exact Nat.not_lt_of_le hle ((h.holds t ht).nodes i hi)
  · have hsize : b.size = a.size + (b.size - a.size) := by
      have hle := hext.size_le
      omega
    obtain ⟨trees, a', b', ha, hb, hbeside⟩ :=
      (Beside.start hsize hext.ignoreCase).run [] ts ts cs
    obtain ⟨new, hnew, hnew'⟩ := hbeside.registry
    rw [hrefs] at hnew'
    exact ⟨trees, a', b', new, ha, hb, hnew, hnew'⟩

/-- A group whose inside is no pattern leaves one node behind, which is not numbered as a group. -/
theorem Built.failure_leaves_reserved :
    ∃ e b, (Call.backref ['(', '%', ')']).build (.empty false) = .error e b ∧ b.size = 1 ∧
      b.registry = (Arena.empty false).registry ∧ Unreferenced 0 1 (run [.backref ['(', ')']] (b, [])) := by
  have hread : Pattern.readGroup false ['(', '%', ')'] = .fault (.refused (.unexpected ['%'] ['%'])) := by
    have hinside : Pattern.inside? ['(', '%', ')'] = some ['%'] := rfl
    rw [Pattern.readGroup, hinside]
    exact Pattern.readItems_cons false ['%'] [] '%'
  have hc : (Call.backref ['(', '%', ')']).build (.empty false) =
      .error (.unexpected ['%'] ['%']) (((Arena.empty false).push ['(', '%', ')'] .reserved)) := by
    have hbuild := Builder.backref_apply ['(', '%', ')'] (.empty false)
    rw [Arena.empty, hread] at hbuild
    exact hbuild.trans rfl
  obtain ⟨-, hzero, hlater⟩ := Built.failure_leaves _ (.empty false) hc
  obtain ⟨hregistry, hcalls⟩ := hlater (hzero ['(', '%', ')'] (.inr rfl))
  exact ⟨_, _, hc, rfl, hregistry, (hcalls [.backref ['(', ')']]).1⟩

/-- A group before a fault stays registered. -/
theorem patternList_keeps_group :
    ∃ e b, (Call.patternList ['(', ')', '%']).build (.empty false) = .error e b ∧
      b.registry ≠ (Arena.empty false).registry := by
  have hread : Pattern.read false ['(', ')', '%'] =
      .group ['(', ')'] .done (.fault (.refused (.unexpected ['(', ')', '%'] ['%']))) := by
    have hcut : Bracket.close? '(' ')' [')', '%'] = some ([], ['%']) := rfl
    have hquantifier : Pattern.cutQuantifier? ['%'] = some ([], ['%']) := rfl
    rw [Pattern.read, Pattern.readItems_item rfl hcut hquantifier, if_pos rfl,
      if_pos List.isEmpty_nil, Pattern.readItems_nil, Pattern.readItems_cons]
    rfl
  have hbuild := Builder.patternList_apply ['(', ')', '%'] (.empty false)
  rw [Arena.empty, hread] at hbuild
  exact ⟨_, _, hbuild.trans rfl, by decide⟩

end Arena

end NamePattern
