import NamePattern.Proofs.Greedy
import NamePattern.Proofs.Reading

/-! Groups capture the runs that a match leaves to them in the end. -/
namespace NamePattern

theorem Name.subName_one {name : Name} {i : Nat} {c : Component} (h : name.get? i = some c) :
    (name.subName i 1).components = [c] := by
  obtain ⟨hi, hc⟩ := List.getElem?_eq_some_iff.mp h
  simp [subName, List.drop_eq_getElem_cons hi, hc]

theorem CharRegex.length_of_captures {r : CharRegex} {text : List Char}
    {texts : List (Option (List Char))} (h : r.captures text = some texts) :
    texts.length = r.groups := by
  unfold captures at h
  obtain ⟨saves, -, rfl⟩ := Option.map_eq_some_iff.mp h
  simp

/-- A leaf with one node for each group of its regex answers with a value for each of them. -/
theorem Leaf.Numbered.groups_of_answer {leaf : Leaf} {c : Component}
    {values : List (NodeId × Component)} (hleaf : leaf.Numbered) (h : leaf.answer c = some values) :
    values.map Prod.fst = leaf.groups := by
  unfold Numbered at hleaf
  unfold answer at h
  cases hr : leaf.regex with
  | none =>
    simp only [hr, Option.elim_none, List.length_eq_zero_iff] at hleaf h
    cases h
    rw [hleaf]
    rfl
  | some regex =>
    simp only [hr, Option.elim_some] at hleaf h
    obtain ⟨texts, htexts, rfl⟩ := Option.map_eq_some_iff.mp h
    have hlen := CharRegex.length_of_captures htexts
    rw [List.map_map]
    exact List.map_fst_zip (Nat.le_of_eq (hleaf.trans hlen.symm))

namespace Matcher

variable {name : Name} {offset length start count : Nat} {m t u : Matcher Leaf} {s s' : Slots}

theorem mem_itemSubtrees {items : List (Matcher Leaf)} (h : t ∈ items) :
    t ∈ itemSubtrees items := by
  induction items with
  | nil => simp at h
  | cons item items ih =>
    rw [itemSubtrees, List.mem_append]
    rcases List.mem_cons.mp h with rfl | h
    · exact .inl (self_mem_subtrees _)
    · exact .inr (ih h)

theorem Passes.mem_subtrees (h : t.Passes name offset length u start count) : u ∈ t.subtrees := by
  cases h with
  | group => exact List.mem_cons_of_mem _ (self_mem_subtrees _)
  | list _ hitem => exact List.mem_cons_of_mem _ (mem_itemSubtrees (List.of_mem_zip hitem).1)
  | repeated => exact List.mem_cons_of_mem _ (self_mem_subtrees _)
  | set => simp [subtrees]

theorem Passes.within (h : t.Passes name offset length u start count) :
    start + count ≤ offset + length := by
  cases h with
  | group => exact Nat.le_refl _
  | list hts hitem => exact hts.1.2.1 ▸ (segment_le_total (List.of_mem_zip hitem).2).2
  | repeated _ hts hlast =>
    exact hts.1.1 ▸ (segment_le_total (List.mem_of_getLast? hlast)).2
  | set => exact Nat.le_refl _

/-- Two cuts of a list at its first member with some property agree on that member. -/
theorem first_unique {α : Type} {p : α → Prop} {front front' back back' : List α} {x y : α}
    (h : front ++ x :: back = front' ++ y :: back') (hfront : ∀ z ∈ front, ¬p z) (hx : p x)
    (hfront' : ∀ z ∈ front', ¬p z) (hy : p y) : x = y := by
  induction front generalizing front' with
  | nil =>
    cases front' with
    | nil => exact (List.cons.inj h).1
    | cons z zs => exact absurd ((List.cons.inj h).1 ▸ hx) (hfront' z (by simp))
  | cons z zs ih =>
    cases front' with
    | nil => exact absurd ((List.cons.inj h).1 ▸ hy) (hfront z (by simp))
    | cons z' zs' =>
      exact ih (List.cons.inj h).2 (fun w hw => hfront w (by simp [hw]))
        fun w hw => hfront' w (by simp [hw])

namespace Settled

theorem fits (h : m.Settled name offset length s) (hle : offset + length ≤ name.length) :
    m.Fits name offset length := by
  obtain ⟨s₁, s₂, hrun, -⟩ := h
  exact (m.hits_iff_fits hle).mp ((run_decides _ offset length).of_eq_true hrun)

theorem mono (h : m.Settled name offset length s) (hsize : s.size = s'.size)
    (hkeeps : ∀ id ∈ m.captures, s'.get? id = s.get? id) : m.Settled name offset length s' := by
  obtain ⟨s₁, s₂, hrun, hsize₂, hget⟩ := h
  exact ⟨s₁, s₂, hrun, hsize₂.trans hsize, fun id hid => (hkeeps id hid).trans (hget id hid)⟩

variable {id : NodeId} {inner : Matcher Leaf} {items : List (Matcher Leaf)} {bounds : Bounds}
  {members : List Leaf} {leaf : Leaf}

theorem group_inv (h : (group id inner).Settled name offset length s)
    (hnodup : (group id inner).captures.Nodup) :
    inner.Settled name offset length s ∧ (id < s.size → s.get? id = some (.span offset length)) := by
  obtain ⟨s₁, s₂, hrun, hsize, hget⟩ := h
  rw [captures] at hnodup hget
  obtain ⟨hid, -⟩ := List.nodup_cons.mp hnodup
  rw [answering, map, run_group] at hrun
  split at hrun
  · next s₃ hinner =>
    obtain rfl : s₃.set id (.span offset length) = s₂ := (Prod.mk.inj hrun).2
    refine ⟨⟨s₁.clear id, s₃, hinner, by simpa using hsize, fun i hi => ?_⟩, fun hlt => ?_⟩
    · have hne : i ≠ id := fun he => hid (he ▸ hi)
      rw [hget i (List.mem_cons_of_mem _ hi), Slots.get?_set_ne hne]
    · rw [hget id (List.mem_cons_self ..), Slots.get?_set_self]
      rw [Slots.size_set] at hsize
      exact hsize ▸ hlt
  · simp at hrun

theorem list_inv (h : (list id items).Settled name offset length s)
    (hnodup : (list id items).captures.Nodup) (hle : offset + length ≤ name.length) :
    ∃ ts, Greatest (Split (Fits name) items offset length) ts ∧
      ∀ p ∈ items.zip (segments offset ts), p.1.Settled name p.2.1 p.2.2 s := by
  obtain ⟨s₁, s₂, hrun, hsize, hget⟩ := h
  rw [captures] at hnodup hget
  rw [answering, map, run] at hrun
  obtain ⟨ts, hts, hsettled⟩ := runItems_eq_true hnodup hrun
  refine ⟨ts, hts.congr fun us => ?_, fun p hp => ?_⟩
  · exact split_congr (fun item _ o t ht => item.hits_iff_fits (Nat.le_trans ht hle)) us
  · have hmem := mem_itemSubtrees (List.of_mem_zip hp).1
    exact (hsettled p hp).mono hsize fun i hi => hget i ((itemSubtrees_subset _ _ hmem).2.subset hi)

theorem repeated_inv (h : (repeated id inner bounds).Settled name offset length s)
    (hl : length ≠ 0) (hle : offset + length ≤ name.length) :
    ∃ ts w, Greatest (Parse (Fits name inner) bounds 0 offset length) ts ∧
      (segments offset ts).getLast? = some w ∧ inner.Settled name w.1 w.2 s := by
  obtain ⟨s₁, s₂, hrun, hsize, hget⟩ := h
  rw [answering, map, run_repeated] at hrun
  obtain ⟨ts, w, hts, hw, s₃, hlast⟩ := Repetition.recur_eq_true (run_decides _) hl hrun
  refine ⟨ts, w, hts.congr fun us => ?_, hw, s₃, s₂, hlast, hsize, hget⟩
  exact parse_congr (fun o t ht => inner.hits_iff_fits (Nat.le_trans ht hle)) us

theorem set_inv (h : (set id members true).Settled name offset length s) :
    length = 1 ∧ ∃ c front leaf back, name.get? offset = some c ∧ members = front ++ leaf :: back ∧
      (∀ other ∈ front, ¬other.Accepts c) ∧ leaf.Accepts c ∧
        (component leaf.id leaf).Settled name offset 1 s := by
  obtain ⟨s₁, s₂, hrun, hsize, hget⟩ := h
  rw [answering, map] at hrun
  by_cases hl : length = 1
  · subst hl
    rw [run_set_one, Prod.mk.injEq, beq_iff_eq] at hrun
    obtain ⟨front, answers, back, hmembers, ⟨s₃, hhit⟩, hmiss⟩ :=
      Attempt.any_eq_true (Prod.ext hrun.1 hrun.2)
    obtain ⟨front, rest, rfl, rfl, hrest⟩ := List.map_eq_append_iff.mp hmembers
    obtain ⟨leaf, back, rfl, rfl, rfl⟩ := List.map_eq_cons_iff.mp hrest
    obtain ⟨c, hc, hleaf⟩ :=
      (Answers.hit_ofLeaf ..).mp ((Answers.run_decides _ offset 1).of_eq_true hhit).2
    rw [List.getElem?_toArray] at hc
    refine ⟨rfl, c, front, leaf, back, hc, rfl, fun other hother haccepts => ?_, hleaf, s₃, s₂,
      by rwa [answering, map, run], hsize, fun i hi => hget i ?_⟩
    · obtain ⟨s₄, hfail⟩ := hmiss _ (List.mem_map_of_mem hother)
      refine (Answers.run_decides _ offset 1).not_of_eq_false hfail ⟨rfl, ?_⟩
      exact (Answers.hit_ofLeaf ..).mpr ⟨c, by rwa [List.getElem?_toArray], haccepts⟩
    · simp only [captures] at hi ⊢
      exact List.mem_flatMap.mpr ⟨leaf, by simp, hi⟩
  · rw [run_set_of_ne hl] at hrun
    simp [Attempt.fail] at hrun

theorem component_inv (h : (component id leaf).Settled name offset length s)
    (hleaf : leaf.Numbered) (hnodup : leaf.groups.Nodup) :
    length = 1 ∧ ∃ c values, name.get? offset = some c ∧ leaf.answer c = some values ∧
      ∀ p ∈ values, p.1 < s.size → s.get? p.1 = some (.value p.2) := by
  obtain ⟨s₁, s₂, hrun, hsize, hget⟩ := h
  rw [answering, map, run, Answers.run] at hrun
  split at hrun
  · simp at hrun
  · next hl =>
    rw [Answers.get_ofLeaf, List.getElem?_toArray] at hrun
    split at hrun
    · simp at hrun
    · next values hvalues =>
      obtain ⟨c, hc, hanswer⟩ := Option.bind_eq_some_iff.mp hvalues
      obtain rfl : s₁.fill values = s₂ := (Prod.mk.inj hrun).2
      have hgroups := hleaf.groups_of_answer hanswer
      refine ⟨by omega, c, values, hc, hanswer, fun p hp hlt => ?_⟩
      have hmem : p.1 ∈ leaf.groups := hgroups ▸ List.mem_map_of_mem hp
      rw [hget p.1 hmem]
      rw [Slots.size_fill] at hsize
      exact Slots.get?_fill_of_mem (hgroups ▸ hnodup) hp (hsize ▸ hlt)

/-- What a node leaves to the nodes below it is what their groups hold. -/
theorem pass (h : t.Settled name offset length s) (hnodup : t.captures.Nodup)
    (hle : offset + length ≤ name.length) (hpass : t.Passes name offset length u start count) :
    u.Settled name start count s := by
  cases hpass with
  | group => exact (h.group_inv hnodup).1
  | list hts hitem =>
    obtain ⟨ts', hts', hsettled⟩ := h.list_inv hnodup hle
    obtain rfl := hts.unique hts'
    exact hsettled _ hitem
  | repeated hl hts hlast =>
    obtain ⟨ts', w, hts', hw, hsettled⟩ := h.repeated_inv hl hle
    obtain rfl := hts.unique hts'
    obtain rfl : w = (start, count) := Option.some.inj (hw.symm.trans hlast)
    exact hsettled
  | set hc hfront hleaf =>
    obtain ⟨-, c', front', leaf', back', hc', hmembers, hfront', hleaf', hsettled⟩ := h.set_inv
    obtain rfl := Option.some.inj (hc.symm.trans hc')
    obtain rfl := first_unique hmembers hfront hleaf hfront' hleaf'
    exact hsettled

end Settled

/-- By induction on the way down from the root: what a node was left is what its groups hold. -/
theorem FinalWindow.settled (h : FinalWindow name m offset length t start count)
    (hm : m.Settled name offset length s) (hnodup : m.captures.Nodup)
    (hle : offset + length ≤ name.length) :
    t ∈ m.subtrees ∧ start + count ≤ name.length ∧ t.Settled name start count s := by
  induction h with
  | root => exact ⟨m.self_mem_subtrees, hle, hm⟩
  | pass _ hpass ih =>
    obtain ⟨hmem, hle', hsettled⟩ := ih
    obtain ⟨hsub, hcaptures⟩ := m.subtrees_subset _ hmem
    exact ⟨hsub hpass.mem_subtrees, Nat.le_trans hpass.within hle',
      hsettled.pass (hnodup.sublist hcaptures.sublist) hle' hpass⟩

end Matcher

namespace Arena

variable {a : Arena} {m : Matcher Leaf} {name : Name} {offset length : Nat} {c : Captures}

theorem Holds.settled_of_matchAt (h : a.Holds m) (hc : a.matchAt m.id name offset length = some c) :
    offset + length ≤ name.length ∧ ∃ s, m.Settled name offset length s ∧ s.size = a.size ∧
      c.groups = a.registry.refs.map (s.resolve name) := by
  obtain ⟨hle, s, hs, rfl⟩ := matchAt_eq_some hc
  obtain ⟨text, hn⟩ := h.stored m m.self_mem_subtrees
  rw [isMatchAt_of_stored hn hle] at hs
  have hsize := (m.run_writes name offset length).size (.empty a.size)
  rw [Matcher.answering, hs, Slots.size_empty] at hsize
  exact ⟨hle, s, ⟨_, s, hs, rfl, fun _ _ => rfl⟩, hsize, rfl⟩

theorem get?_of_resolve {s : Slots} {refs : List NodeId} {n : Nat} {id : NodeId}
    (hc : c.groups = refs.map (s.resolve name)) (hn : refs[n]? = some id) :
    c.get? (n + 1) = some (s.resolve name id) := by
  simp [Captures.get?, hc, hn]

/-- After a successful match, every node that is left a run in the end matches it, and there is a
greatest cut of it if the node cuts it. A group has captured the run, and the groups of a component
regex what they matched of the component. -/
theorem Built.captures_final_windows {roots : List (Matcher Leaf)} {root t : Matcher Leaf}
    {start count : Nat} (h : a.Built roots) (hroot : root ∈ roots) (hm : m ∈ root.subtrees)
    (hc : a.matchAt m.id name offset length = some c)
    (ht : m.FinalWindow name offset length t start count) :
    t.Fits name start count ∧
      (∀ id items, t = .list id items →
        ∃ ts, Greatest (Split (Matcher.Fits name) items start count) ts) ∧
      (∀ id inner bounds, t = .repeated id inner bounds → count ≠ 0 →
        ∃ ts, Greatest (Parse (inner.Fits name) bounds 0 start count) ts) ∧
      (∀ id members, t = .set id members true →
        ∃ leaf ∈ members, t.Passes name start count (.component leaf.id leaf) start count) ∧
      (∀ id inner, t = .group id inner → id ∈ a.registry.refs ∧ ∀ n, a.registry.refs[n]? = some id →
        c.get? (n + 1) = some (name.subName start count).components) ∧
      (∀ id leaf regex, t = .component id leaf → leaf.regex = some regex →
        ∃ d texts, (name.subName start count).components = [d] ∧
          regex.captures d.escaped = some texts ∧ leaf.groups.length = texts.length ∧
          ∀ p ∈ leaf.groups.zip texts, p.1 ∈ a.registry.refs ∧
            ∀ n, a.registry.refs[n]? = some p.1 → c.get? (n + 1) = some [.ofText (p.2.getD [])]) := by
  have hold := (h.holds root hroot).part hm
  obtain ⟨hle, s, hs, hsize, hgroups⟩ := hold.settled_of_matchAt hc
  have hnodup : m.captures.Nodup := hold.increasing.imp Nat.ne_of_lt
  obtain ⟨hmem, hle', hsettled⟩ := ht.settled hs hnodup hle
  have hpart := hold.part hmem
  have hnodup' : t.captures.Nodup := hpart.increasing.imp Nat.ne_of_lt
  refine ⟨hsettled.fits hle', ?_, ?_, ?_, ?_, ?_⟩
  · rintro id items rfl
    obtain ⟨ts, hts, -⟩ := hsettled.list_inv hnodup' hle'
    exact ⟨ts, hts⟩
  · rintro id inner bounds rfl hcount
    obtain ⟨ts, w, hts, -⟩ := hsettled.repeated_inv hcount hle'
    exact ⟨ts, hts⟩
  · rintro id members rfl
    obtain ⟨rfl, d, front, leaf, back, hd, rfl, hfront, hleaf, -⟩ := hsettled.set_inv
    exact ⟨leaf, by simp, .set hd hfront hleaf⟩
  · rintro id inner rfl
    have hid : id ∈ (Matcher.group id inner).captures := List.mem_cons_self ..
    have hget := (hsettled.group_inv hnodup').2 (hsize ▸ hpart.inside id hid)
    refine ⟨hpart.registered.subset hid, fun n hn => ?_⟩
    rw [get?_of_resolve hgroups hn, Slots.resolve, hget]
  · rintro id leaf regex rfl hregex
    have hnum := hpart.numbered id leaf (List.mem_singleton_self _)
    obtain ⟨rfl, d, values, hd, hanswer, hget⟩ := hsettled.component_inv hnum hnodup'
    rw [Leaf.answer, hregex] at hanswer
    obtain ⟨texts, htexts, rfl⟩ := Option.map_eq_some_iff.mp hanswer
    have hlen : leaf.groups.length = texts.length := by
      rw [CharRegex.length_of_captures htexts, hnum, hregex]
      rfl
    refine ⟨d, texts, Name.subName_one hd, htexts, hlen, fun p hp => ?_⟩
    have hid : p.1 ∈ (Matcher.component id leaf).captures := (List.of_mem_zip hp).1
    have hslot := hget _ (List.mem_map_of_mem hp) (hsize ▸ hpart.inside p.1 hid)
    refine ⟨hpart.registered.subset hid, fun n hn => ?_⟩
    rw [get?_of_resolve hgroups hn, Slots.resolve, hslot]

/-- The group of `(<>*)` captures two components that the pattern matches. -/
theorem Built.captures_final_windows_group :
    ∃ m b c, (Call.patternList ['(', '<', '>', '*', ')']).build (.empty false) = .ok m b ∧
      b.matchAt m.id ⟨[⟨[97]⟩, ⟨[98]⟩]⟩ 0 2 = some c ∧ c.get? 1 = some [⟨[97]⟩, ⟨[98]⟩] := by
  let star : Matcher Leaf :=
    .repeated 3 (.set 2 [⟨1, none, []⟩] true) ⟨0, Bounds.unbounded, by decide⟩
  let g : Matcher Leaf := .group 0 (.list 4 [star])
  let name : Name := ⟨[⟨[97]⟩, ⟨[98]⟩]⟩
  obtain ⟨b, hb, hrefs⟩ : ∃ b, (Call.patternList ['(', '<', '>', '*', ')']).build (.empty false) =
      .ok (.list 5 [g]) b ∧ b.registry.refs[0]? = some 0 := by
    have hread : Pattern.read false ['(', '<', '>', '*', ')'] =
        .group ['(', '<', '>', '*', ')'] (.repeatSet ['<', '>', '*']
          ⟨['<', '>'], true, [⟨[], none⟩], none⟩ (.ok ⟨0, Bounds.unbounded, by decide⟩) .done)
          .done := by
      rw [Pattern.read, Pattern.readItems_cons]
      change Pattern.group _ (Pattern.readItems _ _ ('<' :: _)) (Pattern.readItems _ _ []) = _
      rw [Pattern.readItems_nil, Pattern.readItems_cons]
      change Pattern.group _ (.repeatSet _ _ _ (Pattern.readItems _ _ [])) _ = _
      rw [Pattern.readItems_nil]
      rfl
    change ∃ b, Builder.list _ (Pattern.read false _) _ = _ ∧ _
    rw [hread]
    exact ⟨_, rfl, rfl⟩
  have hbuilt := Built.success _ (.empty false) hb
  have hroot := List.mem_singleton_self (Matcher.list 5 [g])
  have hself := Matcher.self_mem_subtrees (.list 5 [g])
  obtain ⟨c, hc⟩ : ∃ c, b.matchAt 5 name 0 2 = some c := by
    rw [← Option.isSome_iff_exists, matchAt_isSome]
    refine ((hbuilt.holds _ hroot).isMatchAt_decides (by decide) _).mpr
      ⟨name.components, [], rfl, ⟨name.components, [], rfl, .inr ⟨by decide, [[⟨[97]⟩], [⟨[98]⟩]],
        by decide, by decide, by decide, ?_, by decide⟩, rfl⟩, rfl⟩
    simp [Matcher.Language, Leaf.Accepts]
  refine ⟨.list 5 [g], b, c, hb, hc, ?_⟩
  obtain ⟨ts, hts⟩ :=
    (hbuilt.captures_final_windows hroot hself hc .root).2.1 5 [g] rfl
  obtain rfl : ts = [2] := by
    obtain ⟨t, rfl⟩ := List.length_eq_one_iff.mp hts.1.1
    simpa using hts.1.2.1
  have hfinal : (Matcher.list 5 [g]).FinalWindow name 0 2 g 0 2 :=
    .pass .root (.list hts (by simp [segments]))
  exact ((hbuilt.captures_final_windows hroot hself hc hfinal).2.2.2.2.1 0 _ rfl).2 0 hrefs

end Arena

end NamePattern
