import NamePattern.Proofs.Capturing
import NamePattern.Proofs.Forest
import NamePattern.Proofs.Locality

/-! Whatever a search does, a slot never holds what its node has not matched. -/
namespace NamePattern

namespace Attempt

/-- An attempt keeps a property of slots, whether it succeeds or fails: on the slots that have it,
the attempt tracks itself. -/
abbrev Keeps (P : Slots → Prop) (f : Attempt) : Prop := Tracks (fun s s' => s = s' ∧ P s) f f

theorem keeps_iff {P : Slots → Prop} {f : Attempt} : f.Keeps P ↔ ∀ s, P s → P (f s).2 := by
  constructor
  · intro h s hs
    exact (h s s ⟨rfl, hs⟩).2.2
  · rintro h s _ ⟨rfl, hs⟩
    exact ⟨rfl, rfl, h s hs⟩

end Attempt

/-- Repetitions keep what the repeated attempt keeps, as long as it stays within a limit. -/
theorem Repetition.recur_keeps {P : Slots → Prop} {attempt : Nat → Nat → Attempt} {limit : Nat}
    (h : ∀ o t, o + t ≤ limit → (attempt o t).Keeps P) (bounds : Bounds) {offset length : Nat}
    (hle : offset + length ≤ limit) : (recur attempt bounds 0 offset length).Keeps P := by
  have hsame : ∀ o t, o + t ≤ limit → Attempt.Tracks (fun s s' => s = s' ∧ P s)
      (attempt (0 + o) t) (attempt o t) := by
    intro o t ht
    rw [Nat.zero_add]
    exact h o t ht
  have htracks := recur_tracks hsame bounds 0 hle
  rw [Nat.zero_add] at htracks
  exact htracks

namespace Arena

variable {a : Arena} {name : Name} {id g : NodeId} {text : List Char} {m : Matcher Leaf}
  {offset length : Nat}

/-- A node stands for group `k`, counted from zero, of the regex of a component. -/
def IsGroupOf (a : Arena) (g : NodeId) (k : Nat) (regex : CharRegex) : Prop :=
  ∃ (owner : NodeId) (text : List Char) (leaf : Leaf),
    a.nodes[owner]? = some ⟨text, .matcher (.component owner leaf)⟩ ∧
      leaf.regex = some regex ∧ leaf.groups[k]? = some g

/-- What a group of a component regex makes of a component that the regex matches. A group that took
no part makes the empty component. -/
def GroupValue (a : Arena) (g : NodeId) (d c : Component) : Prop :=
  ∃ k regex texts text, a.IsGroupOf g k regex ∧ regex.captures d.escaped = some texts ∧
    texts[k]? = some text ∧ c = .ofText (text.getD [])

/-- A capture is what its node matches in a name. -/
def Genuine (a : Arena) (name : Name) (g : NodeId) : Capture → Prop
  | .span offset length => offset + length ≤ name.length ∧
      (∃ text inner, a.nodes[g]? = some ⟨text, .matcher (.group g inner)⟩) ∧
      (a.matchAt g name offset length).isSome = true
  | .value c => a.nodes[g]? = some ⟨[], .pseudo⟩ ∧
      ∃ i d, name.get? i = some d ∧ a.GroupValue g d c

/-- All captures in the slots are genuine. -/
def AllGenuine (a : Arena) (name : Name) (s : Slots) : Prop :=
  ∀ g c, s.get? g = some c → a.Genuine name g c

theorem allGenuine_empty (a : Arena) (name : Name) (n : Nat) : a.AllGenuine name (.empty n) := by
  intro g c hc
  rw [Slots.get?_empty] at hc
  cases hc

theorem AllGenuine.clear {s : Slots} (h : a.AllGenuine name s) (id : NodeId) :
    a.AllGenuine name (s.clear id) := by
  intro g c hc
  by_cases hg : g = id
  · rw [hg, Slots.get?_clear_self] at hc
    cases hc
  · rw [Slots.get?_clear_ne hg] at hc
    exact h g c hc

theorem AllGenuine.set {s : Slots} {c : Capture} (h : a.AllGenuine name s) (hc : a.Genuine name id c) :
    a.AllGenuine name (s.set id c) := by
  intro g c' hc'
  by_cases hg : g = id
  · by_cases hlt : id < s.size
    · rw [hg, Slots.get?_set_self hlt] at hc'
      rw [hg, ← Option.some.inj hc']
      exact hc
    · have hsize : (s.set id c).size ≤ id := by
        rw [Slots.size_set]
        exact Nat.le_of_not_lt hlt
      rw [hg, Slots.get?_of_size_le hsize] at hc'
      cases hc'
  · rw [Slots.get?_set_ne hg] at hc'
    exact h g c' hc'

theorem AllGenuine.fill {s : Slots} {values : List (NodeId × Component)} (h : a.AllGenuine name s)
    (hvalues : ∀ v ∈ values, a.Genuine name v.1 (.value v.2)) : a.AllGenuine name (s.fill values) := by
  unfold Slots.fill
  induction values generalizing s with
  | nil => exact h
  | cons v values ih =>
    have hv : a.Genuine name v.1 (.value v.2) := hvalues v (List.mem_cons_self ..)
    exact ih (h.set hv) fun w hw => hvalues w (List.mem_cons_of_mem _ hw)

/-- What a node has captured is nothing, or a genuine run, or a genuine component. -/
theorem AllGenuine.resolve {s : Slots} (h : a.AllGenuine name s) (g : NodeId) :
    s.resolve name g = [] ∨
      (∃ start count, a.Genuine name g (.span start count) ∧
        s.resolve name g = (name.subName start count).components) ∨
      ∃ c, a.Genuine name g (.value c) ∧ s.resolve name g = [c] := by
  unfold Slots.resolve
  cases hcapture : s.get? g with
  | none => exact .inl rfl
  | some capture =>
    have hgenuine : a.Genuine name g capture := h g capture hcapture
    cases capture with
    | span start count => exact .inr (.inl ⟨start, count, hgenuine, rfl⟩)
    | value c => exact .inr (.inr ⟨c, hgenuine, rfl⟩)

/-- What a leaf fills in is what its groups make of the component. -/
theorem genuine_of_answer {owner : NodeId} {leaf : Leaf} {i : Nat} {d : Component}
    {values : List (NodeId × Component)}
    (hnode : a.nodes[owner]? = some ⟨text, .matcher (.component owner leaf)⟩)
    (hpseudo : ∀ g ∈ leaf.groups, a.nodes[g]? = some ⟨[], .pseudo⟩) (hd : name.get? i = some d)
    (hanswer : leaf.answer d = some values) : ∀ v ∈ values, a.Genuine name v.1 (.value v.2) := by
  intro v hv
  unfold Leaf.answer at hanswer
  cases hregex : leaf.regex with
  | none =>
    simp only [hregex] at hanswer
    cases hanswer
    cases hv
  | some regex =>
    simp only [hregex] at hanswer
    obtain ⟨texts, htexts, rfl⟩ := Option.map_eq_some_iff.mp hanswer
    obtain ⟨⟨g, t⟩, hzip, rfl⟩ := List.mem_map.mp hv
    obtain ⟨k, hk⟩ := List.getElem?_of_mem hzip
    obtain ⟨hg, ht⟩ := List.getElem?_zip_eq_some.mp hk
    have howner : a.IsGroupOf g k regex := ⟨owner, text, leaf, hnode, hregex, hg⟩
    exact ⟨hpseudo g (List.mem_of_getElem? hg), i, d, hd, k, regex, texts, t, howner, htexts, ht, rfl⟩

theorem leaf_keeps {id : NodeId} {leaf : Leaf} (h : (Piece.tree (.component id leaf)).Stored a)
    (offset length : Nat) :
    ((Answers.ofLeaf name.components.toArray leaf).run offset length).Keeps (a.AllGenuine name) := by
  have hself := Matcher.self_mem_subtrees (.component id leaf)
  obtain ⟨text, hnode⟩ := h.1 _ hself
  have hpseudo : ∀ g ∈ leaf.groups, a.nodes[g]? = some ⟨[], .pseudo⟩ := h.2 id leaf hself
  rw [Attempt.keeps_iff]
  intro s hs
  unfold Answers.run
  split
  · exact hs
  · rw [Answers.get_ofLeaf, List.getElem?_toArray]
    cases hanswer : name.components[offset]?.bind leaf.answer with
    | none => exact hs
    | some values =>
      obtain ⟨d, hd, hvalues⟩ := Option.bind_eq_some_iff.mp hanswer
      exact hs.fill (genuine_of_answer hnode hpseudo hd hvalues)

/-- What a node has matched during a search, it matches on its own. -/
theorem matchAt_of_run {s s' : Slots} (hnode : a.nodes[id]? = some ⟨text, .matcher m⟩)
    (hle : offset + length ≤ name.length)
    (hrun : (m.answering name).run offset length s = (true, s')) :
    (a.matchAt id name offset length).isSome = true := by
  have hdecides := (m.answering name).run_decides offset length
  rw [matchAt_isSome, isMatchAt_of_stored hnode hle]
  exact (hdecides _).mpr (hdecides.of_eq_true hrun)

mutual

/-- A search through a stored tree keeps the slots genuine, by induction on the tree. -/
theorem run_genuine : ∀ (m : Matcher Leaf), (Piece.tree m).Stored a → ∀ offset length,
    offset + length ≤ name.length →
      ((m.answering name).run offset length).Keeps (a.AllGenuine name)
  | .component id leaf, hstored, offset, length, _ => by
    rw [Matcher.answering, Matcher.map, Matcher.run]
    exact leaf_keeps hstored offset length
  | .set id members inclusion, hstored, offset, length, _ => by
    rw [Matcher.answering, Matcher.map]
    by_cases hl : length = 1
    · have hany : (Attempt.any (fun leaf : Answers => leaf.run offset 1)
          (members.map (.ofLeaf name.components.toArray))).Keeps (a.AllGenuine name) := by
        refine .any fun leaf hleaf => ?_
        have hmem : Matcher.component leaf.id leaf ∈ (Matcher.set id members inclusion).subtrees :=
          List.mem_cons_of_mem _ (List.mem_map_of_mem hleaf)
        exact leaf_keeps (hstored.part hmem) offset 1
      rw [Attempt.keeps_iff] at hany ⊢
      intro s hs
      rw [hl, Matcher.run_set_one]
      exact hany s hs
    · rw [Matcher.run_set_of_ne hl]
      exact .fail
  | .group id inner, hstored, offset, length, hle => by
    obtain ⟨text, hnode⟩ := hstored.1 _ (Matcher.self_mem_subtrees _)
    have hmem : inner ∈ (Matcher.group id inner).subtrees :=
      List.mem_cons_of_mem _ inner.self_mem_subtrees
    have hkeeps := Attempt.keeps_iff.mp (run_genuine inner (hstored.part hmem) offset length hle)
    rw [Attempt.keeps_iff]
    intro s hs
    have hrun := Matcher.run_group id (inner.answering name) offset length s
    have hinner := hkeeps _ (hs.clear id)
    rw [Matcher.answering, Matcher.map]
    cases hresult : (inner.answering name).run offset length (s.clear id) with
    | mk found s' =>
      rw [hresult] at hrun hinner
      rw [hrun]
      cases found with
      | false => exact hinner
      | true =>
        have hspan : a.Genuine name id (.span offset length) :=
          ⟨hle, ⟨text, inner, hnode⟩, matchAt_of_run hnode hle hrun⟩
        exact hinner.set hspan
  | .repeated id inner bounds, hstored, offset, length, hle => by
    have hmem : inner ∈ (Matcher.repeated id inner bounds).subtrees :=
      List.mem_cons_of_mem _ inner.self_mem_subtrees
    rw [Matcher.answering, Matcher.map, Matcher.run_repeated]
    exact Repetition.recur_keeps (run_genuine inner (hstored.part hmem)) bounds hle
  | .list id items, hstored, offset, length, hle => by
    have hitems : ∀ item ∈ items, (Piece.tree item).Stored a := by
      intro item hitem
      have hmem : item ∈ (Matcher.list id items).subtrees :=
        List.mem_cons_of_mem _ (Matcher.mem_itemSubtrees hitem)
      exact hstored.part hmem
    rw [Matcher.answering, Matcher.map, Matcher.run]
    exact runItems_genuine items hitems offset length hle

theorem runItems_genuine : ∀ (items : List (Matcher Leaf)),
    (∀ item ∈ items, (Piece.tree item).Stored a) → ∀ offset length,
    offset + length ≤ name.length →
      (Matcher.runItems (Matcher.mapItems (.ofLeaf name.components.toArray) items) offset
        length).Keeps (a.AllGenuine name)
  | [], _, offset, length, _ => by
    rw [Matcher.mapItems, Matcher.runItems, Attempt.keeps_iff]
    exact fun s hs => hs
  | item :: items, hstored, offset, length, hle => by
    obtain ⟨hitem, hitems⟩ := List.forall_mem_cons.mp hstored
    rw [Matcher.mapItems, Matcher.runItems]
    refine .longestFirst fun t ht => ?_
    have hfirst := run_genuine item hitem offset t (by omega)
    have hrest := runItems_genuine items hitems (offset + t) (length - t) (by omega)
    exact hfirst.andThen hrest

end

/-- Whatever node is matched, and whether it matches or not, the slots stay genuine. -/
theorem WellFormed.isMatchAt_keeps (h : a.WellFormed) (id : NodeId) (name : Name)
    (offset length : Nat) : (a.isMatchAt id name offset length).Keeps (a.AllGenuine name) := by
  unfold isMatchAt
  split
  · next hle =>
    split
    · next text m hnode => exact run_genuine m (h.stored id text m hnode).2 offset length hle
    · exact .fail
  · exact .fail

/-- A node matches a run of a window as it matches the run of the name. -/
theorem matchAt_window (a : Arena) (id : NodeId) (name : Name) {start count : Nat}
    (hle : offset + length ≤ name.length) (hwithin : start + count ≤ length) :
    a.matchAt id (name.subName offset length) start count =
      a.matchAt id name (offset + start) count := by
  have hsub : start + count ≤ (name.subName offset length).length := by
    rw [Name.length_subName hle]
    exact hwithin
  have hname : offset + start + count ≤ name.length := by omega
  rw [matchAt_subName a id _ hsub, matchAt_subName a id name hname,
    Name.subName_subName name hwithin]

/-- What the groups hold after a match is resolved from genuine slots. Of the name only the window
counts, so positions in it begin at zero. -/
theorem WellFormed.genuine_of_matchAt {c : Captures} (h : a.WellFormed)
    (hc : a.matchAt id name offset length = some c) :
    ∃ s, a.AllGenuine (name.subName offset length) s ∧
      c.groups = a.registry.refs.map (s.resolve (name.subName offset length)) := by
  rw [matchAt_subName a id name (matchAt_eq_some hc).1] at hc
  obtain ⟨-, s, hs, rfl⟩ := matchAt_eq_some hc
  have hkeeps := h.isMatchAt_keeps id (name.subName offset length) 0 length
  have hfinal := Attempt.keeps_iff.mp hkeeps _ (allGenuine_empty a _ a.size)
  rw [hs] at hfinal
  exact ⟨s, hfinal, rfl⟩

/-- A node stands for one group of one regex, if for any. -/
theorem WellFormed.isGroupOf_unique {k k' : Nat} {regex regex' : CharRegex} (h : a.WellFormed)
    (hg : a.IsGroupOf g k regex) (hg' : a.IsGroupOf g k' regex') : k' = k ∧ regex' = regex := by
  obtain ⟨owner, text, leaf, hnode, hregex, hk⟩ := hg
  obtain ⟨owner', text', leaf', hnode', hregex', hk'⟩ := hg'
  have hchild : a.Child owner g := ⟨_, hnode, List.mem_of_getElem? hk⟩
  have hchild' : a.Child owner' g := ⟨_, hnode', List.mem_of_getElem? hk'⟩
  have howner : owner' = owner := h.parent_unique _ _ _ hchild' hchild
  rw [howner, hnode] at hnode'
  cases hnode'
  have hnodup : leaf.groups.Nodup := h.children_nodup _ _ hnode
  have hlt : k' < leaf.groups.length := (List.getElem?_eq_some_iff.mp hk').1
  constructor
  · exact (List.getElem?_inj hlt hnodup).mp (hk'.trans hk.symm)
  · exact Option.some.inj (hregex'.symm.trans hregex)

/-- No capture is invented. After a match of any node, a group holds nothing or a run of the window
that its node matches, and the one group of a component regex that a node stands for holds nothing
or what that group captured when the regex matched one component of the window. -/
theorem Built.captures_genuine {ts : List (Matcher Leaf)} {c : Captures} {n : Nat}
    {held : List Component} (h : a.Built ts) (hc : a.matchAt id name offset length = some c)
    (hheld : c.get? (n + 1) = some held) :
    ∃ g node, a.registry.refs[n]? = some g ∧ a.nodes[g]? = some node ∧
      (node.content.kind = .group ∧ (held = [] ∨ ∃ start count, offset ≤ start ∧
          start + count ≤ offset + length ∧ held = (name.subName start count).components ∧
            (a.matchAt g name start count).isSome = true) ∨
        node.content.kind = .pseudo ∧ (held = [] ∨ ∃ k regex,
          (∀ k' regex', a.IsGroupOf g k' regex' ↔ k' = k ∧ regex' = regex) ∧
            ∃ i d texts text, offset ≤ i ∧ i < offset + length ∧ name.get? i = some d ∧
              regex.captures d.escaped = some texts ∧ texts[k]? = some text ∧
                held = [.ofText (text.getD [])])) := by
  have hwell : a.WellFormed := h.wellFormed
  have hle : offset + length ≤ name.length := (matchAt_eq_some hc).1
  obtain ⟨s, hgenuine, hgroups⟩ := hwell.genuine_of_matchAt hc
  have hmap : c.groups[n]? = some held := hheld
  rw [hgroups, List.getElem?_map] at hmap
  obtain ⟨g, hg, hresolve⟩ := Option.map_eq_some_iff.mp hmap
  obtain hnone | ⟨start, count, ⟨hwithin, ⟨text, inner, hnode⟩, hmatch⟩, hrun⟩ |
    ⟨_, ⟨hnode, i, d, hd, k, regex, texts, text, hgroup, htexts, htext, rfl⟩, hone⟩ :=
      hgenuine.resolve g
  · rw [hresolve] at hnone
    obtain hnode | ⟨text, inner, hnode⟩ := hwell.registered g (List.mem_of_getElem? hg)
    · exact ⟨g, _, hg, hnode, .inr ⟨rfl, .inl hnone⟩⟩
    · exact ⟨g, _, hg, hnode, .inl ⟨rfl, .inl hnone⟩⟩
  · rw [Name.length_subName hle] at hwithin
    rw [matchAt_window a g name hle hwithin] at hmatch
    rw [hresolve, Name.subName_subName name hwithin] at hrun
    have hstop : offset + start + count ≤ offset + length := by omega
    exact ⟨g, _, hg, hnode, .inl ⟨rfl, .inr ⟨offset + start, count, Nat.le_add_right .., hstop,
      hrun, hmatch⟩⟩⟩
  · have hi : i < (name.subName offset length).length := (List.getElem?_eq_some_iff.mp hd).1
    rw [Name.length_subName hle] at hi
    rw [Name.get?_subName name hi] at hd
    rw [hresolve] at hone
    have hunique : ∀ k' regex', a.IsGroupOf g k' regex' ↔ k' = k ∧ regex' = regex := by
      intro k' regex'
      constructor
      · exact hwell.isGroupOf_unique hgroup
      · rintro ⟨rfl, rfl⟩
        exact hgroup
    exact ⟨g, _, hg, hnode, .inr ⟨rfl, .inr ⟨k, regex, hunique, offset + i, d, texts, text,
      Nat.le_add_right .., Nat.add_lt_add_left hi offset, hd, htexts, htext, hone⟩⟩⟩

/-- Both groups of `(<(a)>)?` keep the component that `<><>` has to have back. -/
theorem Built.captures_genuine_abandoned :
    let name : Name := ⟨[⟨[97]⟩, ⟨[98]⟩]⟩
    ∃ m a, (Call.patternList "(<(a)>)?<><>".toList).build (.empty false) = .ok m a ∧
      a.matchAt m.id name 0 2 =
        some ⟨[⟨[97]⟩, ⟨[98]⟩], [[⟨[97]⟩], [⟨[97]⟩]], false⟩ ∧
      (∃ start count, [⟨[97]⟩] = (name.subName start count).components ∧
        (a.matchAt 0 name start count).isSome = true) ∧
      ∃ k regex i d texts text, a.IsGroupOf 1 k regex ∧ name.get? i = some d ∧
        regex.captures d.escaped = some texts ∧ texts[k]? = some text ∧
          [⟨[97]⟩] = [Component.ofText (text.getD [])] := by
  intro name
  obtain ⟨m, a, hbuild, hmatch, hrefs, hgroup, hpseudo⟩ : ∃ m a,
      (Call.patternList "(<(a)>)?<><>".toList).build (.empty false) = .ok m a ∧
      a.matchAt m.id name 0 2 =
        some ⟨[⟨[97]⟩, ⟨[98]⟩], [[⟨[97]⟩], [⟨[97]⟩]], false⟩ ∧
      a.registry.refs = [0, 1] ∧ a.nodes[0]?.map (fun n => n.content.kind) = some .group ∧
      a.nodes[1]?.map (fun n => n.content.kind) = some .pseudo :=
    ⟨_, _, by cbv, by cbv, by cbv, by cbv, by cbv⟩
  have hbuilt : a.Built [m] := .success _ (.empty false) hbuild
  refine ⟨m, a, hbuild, hmatch, ?_, ?_⟩
  · obtain ⟨g, node, hg, hnode, hcases⟩ := hbuilt.captures_genuine hmatch
      (show Captures.get? _ (0 + 1) = some [⟨[97]⟩] from rfl)
    rw [hrefs] at hg
    cases hg
    rw [hnode] at hgroup
    obtain ⟨-, hnone | ⟨start, count, -, -, hrun, hspan⟩⟩ | ⟨hkind, -⟩ := hcases
    · cases hnone
    · exact ⟨start, count, hrun, hspan⟩
    · cases hkind.symm.trans (Option.some.inj hgroup)
  · obtain ⟨g, node, hg, hnode, hcases⟩ := hbuilt.captures_genuine hmatch
      (show Captures.get? _ (1 + 1) = some [⟨[97]⟩] from rfl)
    rw [hrefs] at hg
    cases hg
    rw [hnode] at hpseudo
    obtain ⟨hkind, -⟩ | ⟨-, hnone | ⟨k, regex, hunique, i, d, texts, text, -, -, hd, htexts, htext,
      hvalue⟩⟩ := hcases
    · cases hkind.symm.trans (Option.some.inj hpseudo)
    · cases hnone
    · exact ⟨k, regex, i, d, texts, text, (hunique k regex).mpr ⟨rfl, rfl⟩, hd, htexts, htext,
        hvalue⟩

end Arena

end NamePattern
