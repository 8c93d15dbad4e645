import NamePattern.Proofs.Anchors
import NamePattern.Proofs.Persistence
import NamePattern.Proofs.Templates

/-! Whether a template is valid for a regex does not depend on any name. -/
namespace NamePattern

/-- Two results fail alike: with the same error, or not at all. -/
def FailAlike {ε α β : Type} (x : Except ε α) (y : Except ε β) : Prop :=
  ∀ e, x = .error e ↔ y = .error e

namespace FailAlike

variable {ε α β α' β' : Type}

theorem ok (v : α) (w : β) : FailAlike (.ok v : Except ε α) (.ok w) := by
  intro e
  constructor
  · intro h
    cases h
  · intro h
    cases h

theorem error (e : ε) : FailAlike (.error e : Except ε α) (.error e : Except ε β) := by
  intro e'
  constructor
  · intro h
    cases h
    rfl
  · intro h
    cases h
    rfl

theorem bind {x : Except ε α} {y : Except ε β} {f : α → Except ε α'} {g : β → Except ε β'}
    (h : FailAlike x y) (hfg : ∀ v w, FailAlike (f v) (g w)) : FailAlike (x >>= f) (y >>= g) := by
  cases x with
  | error e =>
    have hy : y = .error e := (h e).mp rfl
    rw [hy]
    exact .error e
  | ok v =>
    cases y with
    | error e => cases (h e).mpr rfl
    | ok w => exact hfg v w

theorem mapM {f : α → Except ε β} {g : α → Except ε β'} (h : ∀ x, FailAlike (f x) (g x))
    (xs : List α) : FailAlike (xs.mapM f) (xs.mapM g) := by
  induction xs with
  | nil => exact .ok [] []
  | cons x xs ih =>
    rw [List.mapM_cons, List.mapM_cons]
    exact (h x).bind fun v w => ih.bind fun vs ws => .ok (v :: vs) (w :: ws)

end FailAlike

namespace Captures

variable {c c' : Captures}

/-- Of what has been captured, only the number of groups decides whether a token stands for
anything. -/
theorem expand_token (h : c.size = c'.size) (t : Token) : FailAlike (t.expand c) (t.expand c') := by
  have hlength : c.groups.length = c'.groups.length := Nat.succ.inj h
  cases t with
  | literal text => exact .ok _ _
  | group n =>
    have hnone : c.get? n = none ↔ c'.get? n = none := by
      rw [get?_eq_none_iff, get?_eq_none_iff, h]
    cases hc : c.get? n with
    | none =>
      simp only [Token.expand, hc, hnone.mp hc, hlength]
      exact .error _
    | some held =>
      cases hc' : c'.get? n with
      | none => cases hc.symm.trans (hnone.mpr hc')
      | some held' =>
        simp only [Token.expand, hc, hc']
        exact .ok held held'

/-- Results with as many groups make the same templates valid, and find the same fault in the
others. -/
theorem expand_alike (h : c.size = c'.size) (template : List Char) :
    FailAlike (c.expand template) (c'.expand template) := by
  unfold expand
  obtain ⟨tokens, fault⟩ := Template.read template
  have hparts := FailAlike.mapM (expand_token h) tokens
  refine hparts.bind fun parts parts' => ?_
  cases fault with
  | some offset => exact .error (ExpandError.malformed template offset)
  | none => exact .ok (Name.mk parts.flatten) (Name.mk parts'.flatten)

theorem size_unmatched (n : Nat) : (unmatched n).size = n + 1 := by
  rw [size, unmatched, List.length_replicate]

end Captures

theorem Content.kind_shift (k : Nat) (content : Content) : (content.shift k).kind = content.kind := by
  cases content with
  | reserved => rfl
  | pseudo => rfl
  | matcher m => cases m <;> rw [Content.shift, Matcher.shift] <;> rfl

namespace Arena

variable {a b b₀ : Arena} {k : Nat}

/-- The kind of a node, and the text that it was compiled from. -/
def label? (a : Arena) (id : NodeId) : Option (Kind × List Char) :=
  a.nodes[id]?.map fun n => (n.content.kind, n.pattern)

/-- The labels of the groups, in the order of their numbers. -/
def groupLabels (a : Arena) : List (Option (Kind × List Char)) := a.registry.refs.map a.label?

theorem length_groupLabels (a : Arena) : a.groupLabels.length = a.registry.size := by
  rw [groupLabels, List.length_map, Registry.size]

theorem exists_labels {ids : List NodeId} (h : ∀ id ∈ ids, id < a.size) :
    ∃ labels : List (Kind × List Char), ids.map a.label? = labels.map some := by
  induction ids with
  | nil => exact ⟨[], rfl⟩
  | cons id ids ih =>
    obtain ⟨hid, hids⟩ := List.forall_mem_cons.mp h
    obtain ⟨labels, hlabels⟩ := ih hids
    have hnode : a.nodes[id]? = some a.nodes[id] := Array.getElem?_eq_getElem hid
    refine ⟨(a.nodes[id].content.kind, a.nodes[id].pattern) :: labels, ?_⟩
    rw [List.map_cons, hlabels, label?, hnode]
    rfl

theorem Extends.map_label? (h : a.Extends b) {ids : List NodeId} (hlt : ∀ id ∈ ids, id < a.size) :
    ids.map b.label? = ids.map a.label? := by
  refine List.map_congr_left fun id hid => ?_
  rw [label?, label?, h.node id (hlt id hid)]

/-- Nodes that are not registered do not change the labels. -/
theorem Extends.groupLabels (h : a.Extends b) (hrefs : b.registry.refs = a.registry.refs)
    (hlt : ∀ id ∈ a.registry.refs, id < a.size) : b.groupLabels = a.groupLabels := by
  unfold Arena.groupLabels
  rw [hrefs]
  exact h.map_label? hlt

/-- What is compiled behind other nodes gets the labels that it gets in a new arena. -/
theorem Beside.labels {ignoreCase : Bool} (h : Beside k (.empty ignoreCase) b₀ a b) :
    ∃ ids, b.registry.refs = b₀.registry.refs ++ ids ∧ ids.map b.label? = a.groupLabels := by
  obtain ⟨ids, ha, hb⟩ := h.registry
  have hrefs : a.registry.refs = ids := ha
  refine ⟨ids.map (· + k), hb, ?_⟩
  unfold Arena.groupLabels
  rw [hrefs, List.map_map]
  refine List.map_congr_left fun id _ => ?_
  have hnode : b.nodes[id + k]? = a.nodes[id]?.map (.shift k) := h.node id (Nat.zero_le id)
  rw [Function.comp_apply, label?, label?, hnode, Option.map_map]
  refine Option.map_congr fun n _ => ?_
  rw [Function.comp_apply, Node.shift, Content.kind_shift]

/-- Nodes without groups in front do not change the labels. -/
theorem Beside.groupLabels {ignoreCase : Bool} (h : Beside k (.empty ignoreCase) b₀ a b)
    (hnone : b₀.registry.refs = []) : b.groupLabels = a.groupLabels := by
  obtain ⟨ids, hrefs, hlabels⟩ := h.labels
  rw [Arena.groupLabels, hrefs, hnone, List.nil_append, hlabels]

end Arena

namespace Builder

/-- The list itself is no group. -/
theorem groupLabels_of_list {text : List Char} {p : Pattern} {m : Matcher Leaf} {a b : Arena}
    (hnone : a.registry.refs = []) (h : list text p a = .ok m b) :
    ∃ ms c, items p a = .ok ms c ∧ b.groupLabels = c.groupLabels := by
  obtain ⟨ms, c, hms, hlist⟩ := bind_eq_ok.mp h
  rw [allocMatcher_apply] at hlist
  cases hlist
  obtain ⟨-, hgrows⟩ := (items_adds p).ok hms
  have hlt : ∀ id ∈ c.registry.refs, id < c.size := hgrows.refs_lt hnone
  exact ⟨ms, c, hms, (Arena.Extends.push c _ _).groupLabels rfl hlt⟩

/-- A wildcard has three nodes and no groups. -/
theorem wildcard_apply (ignoreCase : Bool) :
    ∃ m b, repetition NameRegex.wildcard
        (memberSet ⟨['<', '.', '*', '>'], true, [⟨['.', '*'], some CharRegex.dots⟩], none⟩)
        (.ok ⟨0, Bounds.unbounded, Nat.zero_le _⟩) (.empty ignoreCase) = .ok m b ∧
      b.size = 3 ∧ b.registry.refs = [] ∧ b.ignoreCase = ignoreCase :=
  ⟨_, _, rfl, rfl, rfl, rfl⟩

/-- A wildcard in front moves the nodes of a pattern, and its groups stay what they are. -/
theorem groupLabels_anything {text text' : List Char} {p : Pattern} {ignoreCase : Bool}
    {m m' : Matcher Leaf} {a b : Arena} (ha : list text p (.empty ignoreCase) = .ok m a)
    (hb : list text' (.anything p) (.empty ignoreCase) = .ok m' b) :
    b.groupLabels = a.groupLabels := by
  obtain ⟨ms, a', hms, hlabels⟩ := groupLabels_of_list rfl ha
  obtain ⟨ms', b', hms', hlabels'⟩ := groupLabels_of_list rfl hb
  obtain ⟨front, b₀, hfront, hsize, hnone, hic⟩ := wildcard_apply ignoreCase
  obtain ⟨front', c, hfront', hrest⟩ := bind_eq_ok.mp hms'
  rw [hfront] at hfront'
  cases hfront'
  obtain ⟨rest, c', hitems, hcons⟩ := bind_eq_ok.mp hrest
  cases hcons
  -- Behind the wildcard the items are built as in a new arena, three nodes further up.
  have hstart : Arena.Beside 3 (.empty ignoreCase) b₀ (.empty ignoreCase) b₀ := .start hsize hic
  obtain ⟨-, hbeside⟩ := (items_parallel p).of_ok hstart hms hitems
  rw [hlabels', hlabels]
  exact hbeside.groupLabels hnone

end Builder

namespace CompiledPattern

variable {ignoreCase : Bool} {text : List Char} {p q : CompiledPattern}

/-- The form of a pattern that matches behind any number of components has the groups of the one
that matches from the first component on. -/
theorem groupLabels_wildcard (hp : compile ignoreCase text = .ok p)
    (hq : compile ignoreCase (NameRegex.wildcard ++ text) = .ok q) :
    q.arena.groupLabels = p.arena.groupLabels := by
  obtain ⟨m, hm, -⟩ := list_of_compile hp
  obtain ⟨m', hm', -⟩ := list_of_compile hq
  have hsound : (Pattern.read ignoreCase text).Sound := (compile_isOk_iff ..).mp ⟨p, hp⟩
  rw [Pattern.read, Pattern.readItems_wildcard, Pattern.readItems_of_sound hsound] at hm'
  exact Builder.groupLabels_anything hm hm'

theorem wellFormed_of_compile (h : compile ignoreCase text = .ok p) : p.arena.WellFormed := by
  obtain ⟨m, hm, -⟩ := list_of_compile h
  have hbuilt : p.arena.Built [m] := .success (.patternList text) (.empty ignoreCase) hm
  exact hbuilt.wellFormed

end CompiledPattern

namespace NameRegex

variable {ignoreCase : Bool} {text template : List Char} {r : NameRegex} {n : Name}

theorem forms_cases (text : List Char) : (forms text).2 = none ∨
    (forms text).2 = some (wildcard ++ (forms text).1) := by
  unfold forms
  split
  · exact .inl rfl
  · exact .inr rfl

theorem compile_of_secondary {q : CompiledPattern} (h : compile ignoreCase text template = .ok r)
    (hq : r.secondary = some q) :
    CompiledPattern.compile ignoreCase (wildcard ++ (forms text).1) = .ok q := by
  obtain ⟨primary, secondary, -, hsecondary, rfl⟩ := compile_eq_ok.mp h
  have hsome : secondary = some q := hq
  obtain hnone | hforms := forms_cases text
  · rw [hnone] at hsecondary
    cases hsecondary
    cases hsome
  · rw [hforms] at hsecondary
    obtain ⟨p, hp, hfound⟩ := mapM_some_eq_ok.mp hsecondary
    rw [hsome] at hfound
    cases hfound
    exact hp

/-- The forms of a regex have the same groups. -/
theorem groupLabels_of_compile (h : compile ignoreCase text template = .ok r) :
    ∃ labels : List (Kind × List Char),
      ∀ p, p = r.primary ∨ r.secondary = some p → p.arena.groupLabels = labels.map some := by
  obtain ⟨primary, secondary, hprimary, -, hr⟩ := compile_eq_ok.mp h
  have hfirst : r.primary = primary := congrArg NameRegex.primary hr
  obtain ⟨labels, hlabels⟩ :=
    Arena.exists_labels (CompiledPattern.wellFormed_of_compile hprimary).refs_lt
  refine ⟨labels, fun p hp => ?_⟩
  obtain hp | hq := hp
  · rw [hp, hfirst]
    exact hlabels
  · rw [CompiledPattern.groupLabels_wildcard hprimary (compile_of_secondary h hq)]
    exact hlabels

/-- A regex after it has been matched with some names, one after the other. -/
def run (r : NameRegex) (names : List Name) : NameRegex :=
  names.foldl (fun r n => (r.matchName n).2) r

/-- What a regex has captured before any match, or has captured from the last of some names, or
would capture from one more. -/
def Yields (r : NameRegex) (c : Captures) : Prop :=
  ∃ names, c = (r.run names).last ∨ ∃ n, (r.run names).captures n = some c

/-- The captures of a regex have this many groups, with the whole match as one. -/
structure Sized (r : NameRegex) (size : Nat) : Prop where
  primary : r.primary.groups + 1 = size
  secondary : ∀ q, r.secondary = some q → q.groups + 1 = size
  last : r.last.size = size

namespace Sized

variable {size : Nat} {c : Captures}

theorem captures (h : r.Sized size) (hc : r.captures n = some c) : c.size = size := by
  obtain hprimary | ⟨-, q, d, hq, hd, rfl⟩ := captures_eq_some hc
  · rw [CompiledPattern.size_of_captures hprimary, h.primary]
  · have hsize : d.size = q.groups + 1 := CompiledPattern.size_of_captures hd
    rw [h.secondary q hq] at hsize
    exact hsize

theorem matchName (h : r.Sized size) (n : Name) : (r.matchName n).2.Sized size := by
  unfold NameRegex.matchName
  split
  · next c hc => exact ⟨h.primary, h.secondary, h.captures hc⟩
  · exact ⟨h.primary, h.secondary, (Captures.size_unmatched _).trans h.primary⟩

/-- Matching does not change how many groups there are, by induction on the names. -/
theorem run (h : r.Sized size) (names : List Name) : (r.run names).Sized size := by
  induction names generalizing r with
  | nil => exact h
  | cons n names ih => exact ih (h.matchName n)

theorem yields (h : r.Sized size) (hc : r.Yields c) : c.size = size := by
  obtain ⟨names, rfl | ⟨n, hn⟩⟩ := hc
  · exact (h.run names).last
  · exact (h.run names).captures hn

end Sized

theorem sized_of_compile {labels : List (Kind × List Char)}
    (h : compile ignoreCase text template = .ok r)
    (hlabels : ∀ p, p = r.primary ∨ r.secondary = some p → p.arena.groupLabels = labels.map some) :
    r.Sized (labels.length + 1) := by
  have hgroups : ∀ p, p = r.primary ∨ r.secondary = some p → p.groups + 1 = labels.length + 1 := by
    intro p hp
    have hlength := congrArg List.length (hlabels p hp)
    rw [Arena.length_groupLabels, List.length_map] at hlength
    exact congrArg Nat.succ hlength
  have hprimary : r.primary.groups + 1 = labels.length + 1 := hgroups _ (.inl rfl)
  refine ⟨hprimary, fun q hq => hgroups q (.inr hq), ?_⟩
  obtain ⟨primary, secondary, -, -, rfl⟩ := compile_eq_ok.mp h
  exact (Captures.size_unmatched _).trans hprimary

/-- Whether a template is valid for a regex does not depend on any name: its forms have the same
groups, so whatever it captures has as many, and a template builds a name from all of it or has the
same fault for all of it. -/
theorem validity_of_compile (h : compile ignoreCase text template = .ok r) :
    ∃ labels : List (Kind × List Char),
      (∀ p, p = r.primary ∨ r.secondary = some p → p.arena.groupLabels = labels.map some) ∧
      (∀ c, r.Yields c → c.size = labels.length + 1) ∧
      ∀ t, (∀ c, r.Yields c → ∃ name, c.expand t = .ok name) ∨
        ∃ e, ∀ c, r.Yields c → c.expand t = .error e := by
  obtain ⟨labels, hlabels⟩ := groupLabels_of_compile h
  have hsized : r.Sized (labels.length + 1) := sized_of_compile h hlabels
  have halike : ∀ c, r.Yields c → ∀ t, FailAlike (r.last.expand t) (c.expand t) := by
    intro c hc t
    have hsize : r.last.size = c.size := hsized.last.trans (hsized.yields hc).symm
    exact Captures.expand_alike hsize t
  refine ⟨labels, hlabels, fun c hc => hsized.yields hc, fun t => ?_⟩
  cases hlast : r.last.expand t with
  | error e =>
    right
    exact ⟨e, fun c hc => (halike c hc t e).mp hlast⟩
  | ok name =>
    left
    intro c hc
    cases hexpand : c.expand t with
    | error e =>
      have hfault : r.last.expand t = .error e := (halike c hc t e).mpr hexpand
      rw [hlast] at hfault
      cases hfault
    | ok name' => exact ⟨name', rfl⟩

/-- The regex `(<>)$` has no second group, whether it matches from the first component on, behind
it, or not at all. -/
theorem validity_of_compile_behind :
    let n : Name := ⟨[⟨[97]⟩]⟩
    let n' : Name := ⟨[⟨[97]⟩, ⟨[98]⟩]⟩
    ∃ r c d, compile false "(<>)$".toList [] = .ok r ∧
      r.captures n = some c ∧ c.secondary = false ∧ r.captures n' = some d ∧ d.secondary = true ∧
      ∀ x ∈ [r.last, c, d, (r.run [n', .empty]).last],
        x.expand "\\2".toList = .error (.backrefOutOfRange 2 1) := by
  intro n n'
  have hhead : "(<>)".toList.head? ≠ some '^' := by decide
  have hend : "(<>)".toList.getLast? ≠ some '$' := by decide
  obtain ⟨p, c, hp, hc, hfirst, hfault, hbehind, hbefore⟩ : ∃ p c,
      CompiledPattern.compile false "(<>)".toList = .ok p ∧ p.captures n = some c ∧
      c.secondary = false ∧ c.expand "\\2".toList = .error (.backrefOutOfRange 2 1) ∧
      (p.arena.matchAt p.root n' 1 (2 - 1)).isSome = true ∧
      (p.arena.matchAt p.root n' 0 (2 - 0)).isSome = false :=
    ⟨_, _, by cbv, by cbv, by cbv, by cbv, by cbv, by cbv⟩
  have hsound := (CompiledPattern.compile_isOk_iff false "(<>)".toList).mp ⟨p, hp⟩
  obtain ⟨r, hr⟩ : ∃ r, compile false (anchor false true "(<>)".toList) [] = .ok r :=
    (compile_anchor_isOk_iff hhead hend).mpr hsound
  have hprimary : r.primary = p := by
    have hcompile := (forms_of_compile hhead hend hr).1
    have hpattern : CompiledPattern.compile false "(<>)".toList = .ok r.primary := hcompile
    rw [hp] at hpattern
    cases hpattern
    rfl
  have hcaptures : r.captures n = some c := by
    unfold captures
    rw [hprimary, hc]
  obtain ⟨d, hd⟩ : ∃ d, r.captures n' = some d := by
    apply Option.isSome_iff_exists.mp
    apply (isMatch_anchor hhead hend hr (by decide)).mpr
    exact ⟨1, by decide, by decide, (matchesFrom_compiled hp).mpr
      ⟨2, by decide, by decide, fun _ => rfl, hbehind⟩⟩
  have hsecondary : d.secondary = true := by
    apply (captures_anchor hhead hend hr (by decide) hd).2.mpr
    refine ⟨rfl, fun hmatch => ?_⟩
    obtain ⟨j, -, -, hj, hsome⟩ := (matchesFrom_compiled hp).mp hmatch
    have hall : j = 2 := hj rfl
    rw [hall, hbefore] at hsome
    cases hsome
  refine ⟨r, c, d, hr, hcaptures, hfirst, hd, hsecondary, ?_⟩
  obtain ⟨labels, -, -, hvalid⟩ := validity_of_compile hr
  have hyields : r.Yields c := ⟨[], .inr ⟨n, hcaptures⟩⟩
  obtain hok | ⟨e, herror⟩ := hvalid "\\2".toList
  · obtain ⟨name, hname⟩ := hok c hyields
    rw [hfault] at hname
    cases hname
  · have he : e = .backrefOutOfRange 2 1 := by
      have hsame := (herror c hyields).symm.trans hfault
      cases hsame
      rfl
    rw [← he]
    intro x hx
    simp only [List.mem_cons, List.not_mem_nil, or_false] at hx
    obtain rfl | rfl | rfl | rfl := hx
    · exact herror _ ⟨[], .inl rfl⟩
    · exact herror _ hyields
    · exact herror _ ⟨[], .inr ⟨n', hd⟩⟩
    · exact herror _ ⟨_, .inl rfl⟩

end NameRegex

end NamePattern
