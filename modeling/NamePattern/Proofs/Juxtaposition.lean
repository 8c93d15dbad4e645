import NamePattern.Proofs.Validity

/-! Patterns written one behind the other: their groups are numbered one behind the other, and they
match a run that can be cut into one for each. -/
namespace NamePattern

theorem Pattern.read_append {ignoreCase : Bool} {s t : List Char} (hs : (read ignoreCase s).Sound)
    (ht : (read ignoreCase t).Sound) :
    read ignoreCase (s ++ t) = (read ignoreCase s).append (read ignoreCase t) := by
  have hs' : (readItems ignoreCase (s ++ t) s).Sound := (readItems_sound_iff ..).mp hs
  have hquantifier : cutQuantifier? t = some ([], t) := cutQuantifier?_of_sound ht
  rw [read, readItems_append hquantifier hs', readItems_of_sound hs,
    readItems_of_sound ht]
  rfl

namespace Builder

/-- The items of two patterns are built one after the other. -/
theorem items_append (p q : Pattern) :
    items (p.append q) = (do let ms ← items p; let ns ← items q; return ms ++ ns) := by
  induction p with
  | done => simp [Pattern.append, items]
  | fault e => rfl
  | group text inner rest _ ih => simp [Pattern.append, items, ih]
  | repeatGroup text atom inner bounds rest _ ih => simp [Pattern.append, items, ih]
  | repeatSet text atom bounds rest ih => simp [Pattern.append, items, ih]

/-- The groups of a pattern come behind those of the one in front of it, with the labels that they
would get on their own. -/
theorem groupLabels_append {ignoreCase : Bool} {p q : Pattern} {s t u : List Char}
    {m n l : Matcher Leaf} {a b c : Arena} (ha : list s p (.empty ignoreCase) = .ok m a)
    (hb : list t q (.empty ignoreCase) = .ok n b)
    (hc : list u (p.append q) (.empty ignoreCase) = .ok l c) :
    c.groupLabels = a.groupLabels ++ b.groupLabels := by
  obtain ⟨ms, a', hms, hlabels⟩ := groupLabels_of_list rfl ha
  obtain ⟨ns, b', hns, hlabels'⟩ := groupLabels_of_list rfl hb
  obtain ⟨ls, c', hls, hlabels''⟩ := groupLabels_of_list rfl hc
  obtain ⟨-, hgrows⟩ := (items_adds p).ok hms
  -- The items of the second pattern are built behind those of the first, further up.
  rw [items_append, bind_of_ok hms] at hls
  obtain ⟨ns', d, hns', hls⟩ := bind_eq_ok.mp hls
  cases hls
  have hstart : Arena.Beside a'.size (.empty ignoreCase) a' (.empty ignoreCase) a' :=
    .start (Nat.zero_add _).symm hgrows.ignoreCase
  obtain ⟨-, hbeside⟩ := (items_parallel q).of_ok hstart hns hns'
  obtain ⟨ids, hrefs, hids⟩ := hbeside.labels
  have hlt : ∀ id ∈ a'.registry.refs, id < a'.size := hgrows.refs_lt rfl
  have hext : a'.Extends c' := ((items_adds q).ok hns').2.toExtends
  rw [hlabels'', hlabels, hlabels', Arena.groupLabels, hrefs, List.map_append, hids,
    hext.map_label? hlt]
  rfl

end Builder

/-- The beginning of a run of components, and what follows it. -/
theorem Name.take_subName (n : Name) (offset : Nat) {length k : Nat} (hk : k ≤ length) :
    (n.subName offset length).components.take k = (n.subName offset k).components ∧
      (n.subName offset length).components.drop k =
        (n.subName (offset + k) (length - k)).components := by
  constructor
  · simp only [subName, List.take_take, Nat.min_eq_left hk]
  · simp only [subName, List.drop_take, List.drop_drop]

namespace CompiledPattern

variable {ignoreCase : Bool} {s t : List Char} {p q r : CompiledPattern} {name : Name}
  {offset length : Nat}

/-- A run outside the name matches nothing. -/
theorem matchAt_isSome_iff (h : compile ignoreCase s = .ok p) :
    (p.arena.matchAt p.root name offset length).isSome = true ↔ offset + length ≤ name.length ∧
      (Pattern.read ignoreCase s).Language (name.subName offset length).components := by
  constructor
  · intro hmatch
    obtain ⟨c, hc⟩ := Option.isSome_iff_exists.mp hmatch
    have hle := (Arena.matchAt_eq_some hc).1
    exact ⟨hle, (matchAt_isSome h hle).mp hmatch⟩
  · intro hmatch
    exact (matchAt_isSome h hmatch.1).mpr hmatch.2

theorem groupLabels_append (hp : compile ignoreCase s = .ok p) (hq : compile ignoreCase t = .ok q)
    (hr : compile ignoreCase (s ++ t) = .ok r) :
    r.arena.groupLabels = p.arena.groupLabels ++ q.arena.groupLabels := by
  obtain ⟨m, hm, -⟩ := list_of_compile hp
  obtain ⟨n, hn, -⟩ := list_of_compile hq
  obtain ⟨l, hl, -⟩ := list_of_compile hr
  have hsound := (compile_isOk_iff ignoreCase s).mp ⟨p, hp⟩
  have hsound' := (compile_isOk_iff ignoreCase t).mp ⟨q, hq⟩
  rw [Pattern.read_append hsound hsound'] at hl
  exact Builder.groupLabels_append hm hn hl

theorem matchAt_append (hp : compile ignoreCase s = .ok p) (hq : compile ignoreCase t = .ok q)
    (hr : compile ignoreCase (s ++ t) = .ok r) :
    (r.arena.matchAt r.root name offset length).isSome = true ↔ ∃ k ≤ length,
      (p.arena.matchAt p.root name offset k).isSome = true ∧
        (q.arena.matchAt q.root name (offset + k) (length - k)).isSome = true := by
  have hsound := (compile_isOk_iff ignoreCase s).mp ⟨p, hp⟩
  have hsound' := (compile_isOk_iff ignoreCase t).mp ⟨q, hq⟩
  simp only [matchAt_isSome_iff hp, matchAt_isSome_iff hq, matchAt_isSome_iff hr]
  rw [Pattern.read_append hsound hsound', Pattern.language_append, chain_iff_take]
  constructor
  · rintro ⟨hle, k, hk, hu, hv⟩
    have hlength : (name.subName offset length).components.length = length :=
      Name.length_subName hle
    rw [hlength] at hk
    obtain ⟨htake, hdrop⟩ := name.take_subName offset hk
    rw [htake] at hu
    rw [hdrop] at hv
    exact ⟨k, hk, ⟨by omega, hu⟩, by omega, hv⟩
  · rintro ⟨k, hk, ⟨-, hu⟩, hle, hv⟩
    have hle' : offset + length ≤ name.length := by omega
    have hlength : (name.subName offset length).components.length = length :=
      Name.length_subName hle'
    obtain ⟨htake, hdrop⟩ := name.take_subName offset hk
    refine ⟨hle', k, hlength.symm ▸ hk, ?_, ?_⟩
    · rwa [htake]
    · rwa [hdrop]

/-- Two patterns that compile do so one behind the other. The groups of the first keep their numbers,
and those of the second come behind them. A run matches if its first components match the first
pattern and those that are left match the second. -/
theorem compile_append (hp : compile ignoreCase s = .ok p) (hq : compile ignoreCase t = .ok q) :
    ∃ r, ∃ labels labels' : List (Kind × List Char), compile ignoreCase (s ++ t) = .ok r ∧
      p.arena.groupLabels = labels.map some ∧ q.arena.groupLabels = labels'.map some ∧
      r.arena.groupLabels = (labels ++ labels').map some ∧
      ∀ name offset length, (r.arena.matchAt r.root name offset length).isSome = true ↔
        ∃ k ≤ length, (p.arena.matchAt p.root name offset k).isSome = true ∧
          (q.arena.matchAt q.root name (offset + k) (length - k)).isSome = true := by
  have hsound := (compile_isOk_iff ignoreCase s).mp ⟨p, hp⟩
  have hsound' := (compile_isOk_iff ignoreCase t).mp ⟨q, hq⟩
  obtain ⟨r, hr⟩ : ∃ r, compile ignoreCase (s ++ t) = .ok r := by
    rw [compile_isOk_iff, Pattern.read_append hsound hsound', Pattern.sound_append]
    exact ⟨hsound, hsound'⟩
  obtain ⟨labels, hlabels⟩ := Arena.exists_labels (wellFormed_of_compile hp).refs_lt
  obtain ⟨labels', hlabels'⟩ := Arena.exists_labels (wellFormed_of_compile hq).refs_lt
  refine ⟨r, labels, labels', hr, hlabels, hlabels', ?_, fun name offset length => ?_⟩
  · rw [List.map_append, groupLabels_append hp hq hr]
    exact congrArg₂ _ hlabels hlabels'
  · exact matchAt_append hp hq hr

/-- In `(<>*)(<>)<>` the first group has to leave two of three components to what follows it. -/
theorem compile_append_groups :
    let name : Name := ⟨[⟨[97]⟩, ⟨[98]⟩, ⟨[99]⟩]⟩
    ∃ r, compile false "(<>*)(<>)<>".toList = .ok r ∧
      r.arena.groupLabels = [some (.group, "(<>*)".toList), some (.group, "(<>)".toList)] ∧
      (r.arena.matchAt r.root name 0 3).isSome = true := by
  intro name
  obtain ⟨p, q, hp, hq, hlabels, hlabels', hfirst, hsecond⟩ : ∃ p q,
      compile false "(<>*)".toList = .ok p ∧ compile false "(<>)<>".toList = .ok q ∧
      p.arena.groupLabels = [some (.group, "(<>*)".toList)] ∧
      q.arena.groupLabels = [some (.group, "(<>)".toList)] ∧
      (p.arena.matchAt p.root name 0 1).isSome = true ∧
      (q.arena.matchAt q.root name 1 2).isSome = true :=
    ⟨_, _, by cbv, by cbv, by cbv, by cbv, by cbv, by cbv⟩
  obtain ⟨r, labels, labels', hr, hl, hl', happend, hmatch⟩ := compile_append hp hq
  refine ⟨r, hr, ?_, (hmatch name 0 3).mpr ⟨1, by decide, hfirst, hsecond⟩⟩
  rw [happend, List.map_append, ← hl, ← hl', hlabels, hlabels']
  rfl

end CompiledPattern

end NamePattern
