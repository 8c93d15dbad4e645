import NamePattern.Proofs.Spelling
import NamePattern.Proofs.Parentheses

/-! A set or a group on its own, and as the only item of a pattern. -/
namespace NamePattern

/-- A text stands between two brackets of one kind that belong together. Those inside can be counted. -/
def Bracket.Enclosed (text : List Char) : Prop :=
  ∃ opening closing inside, closing? opening = some closing ∧
    text = opening :: inside ++ [closing] ∧ Balanced opening closing inside ∧
      Countable opening inside

namespace MemberSet

open NamePattern.SetPhrase (angled)

variable {ignoreCase : Bool} {s t inside rest : List Char}

/-- Members are read up to what is no member, whatever comes before it. -/
theorem readMembers_append (whole : List Char) {regexes : List (List Char)}
    (h : ∀ regex ∈ regexes, SetPhrase.Member ignoreCase regex)
    (hcounted : ∀ regex ∈ regexes, Bracket.Countable '<' regex) (t : List Char) :
    (readMembers ignoreCase whole (regexes.flatMap angled ++ t)).2 =
      (readMembers ignoreCase whole t).2 := by
  induction regexes with
  | nil => rfl
  | cons regex regexes ih =>
    obtain ⟨hregex, hregexes⟩ := List.forall_mem_cons.mp h
    obtain ⟨hcountable, hcounted⟩ := List.forall_mem_cons.mp hcounted
    rw [SetPhrase.flatMap_angled_cons, List.cons_append, List.append_assoc, List.cons_append,
      readMembers_member hregex hcountable]
    exact ih hregexes hcounted

theorem splitMark_append (s rest : List Char) :
    (splitMark (s ++ ']' :: rest)).2 = (splitMark s).2 ++ ']' :: rest := by
  cases s with
  | nil => rfl
  | cons c s =>
    by_cases hc : c = '^'
    · rw [hc]
      rfl
    · have hsplit : ∀ u, splitMark (c :: u) = (true, c :: u) := by
        intro u
        unfold splitMark
        split
        · next heq => exact absurd (List.cons.inj heq).1 hc
        · rfl
      rw [List.cons_append, hsplit, hsplit]
      rfl

/-- No member begins with a closing bracket, so that a set ends at the first one that stands behind
complete members. -/
theorem read_squared_unique (hinside : (read ignoreCase ('[' :: inside ++ [']'])).fault = none)
    (hs : (read ignoreCase ('[' :: (inside ++ ']' :: rest) ++ [']'])).fault = none) : False := by
  rw [read_squared] at hinside hs
  obtain ⟨regexes, htext, hregexes, hcounted⟩ := exists_regexes hinside
  have hfault : (readMembers ignoreCase ('[' :: (inside ++ ']' :: rest) ++ [']'])
      (']' :: rest)).2 = none := by
    rw [← readMembers_append _ hregexes hcounted, ← htext, ← splitMark_append]
    exact hs
  have hclosing : ∀ u, ']' :: rest = '<' :: u → False := fun u heq =>
    absurd (List.cons.inj heq).1 (by decide)
  rw [readMembers.eq_3 _ _ _ (by simp) hclosing] at hfault
  cases hfault

/-- A set that is read on its own stands between two brackets. Angle brackets belong together. -/
theorem brackets_of_read (h : (read ignoreCase s).fault = none) :
    (∃ inside, s = '<' :: inside ++ ['>'] ∧ Bracket.Balanced '<' '>' inside ∧
        Bracket.Countable '<' inside) ∨
      ∃ inside, s = '[' :: inside ++ [']'] := by
  unfold read at h
  dsimp only at h
  split at h
  · cases h
  · cases h
  · next t _ =>
    left
    cases hcut : Bracket.close? '<' '>' t with
    | none => simp [hcut] at h
    | some parts =>
      obtain ⟨inside, rest⟩ := parts
      obtain ⟨ht, hbalanced⟩ := (Bracket.close?_eq_some_iff (by decide)).mp hcut
      cases rest with
      | nil =>
        refine ⟨inside, ?_, hbalanced⟩
        rw [ht]
        rfl
      | cons c rest => simp [hcut] at h
  · next t _ =>
    right
    split at h
    · cases h
    · next hlast =>
      have hlast : t.getLast? = some ']' := not_not.mp hlast
      obtain ⟨inside, ht⟩ := List.getLast?_eq_some_iff.mp hlast
      refine ⟨inside, ?_⟩
      rw [ht]
      rfl
  · cases h

end MemberSet

namespace Pattern

variable {ignoreCase : Bool} {whole s inside : List Char} {c closing : Char}

/-- A pattern without faults begins with an item without faults. -/
theorem exists_item_of_sound (hc : Bracket.closing? c = some closing)
    (h : (readItems ignoreCase whole (c :: s)).Sound) :
    ∃ inside rest, Bracket.close? c closing s = some (inside, rest) ∧
      (c = '(' → (read ignoreCase inside).Sound) ∧
      (c ≠ '(' → (MemberSet.read ignoreCase (c :: inside ++ [closing])).fault = none) := by
  cases hcut : Bracket.close? c closing s with
  | none =>
    rw [readItems_cons, hc] at h
    simp only [hcut] at h
    exact h.elim
  | some parts =>
    obtain ⟨inside, rest⟩ := parts
    refine ⟨inside, rest, rfl, ?_⟩
    cases hq : cutQuantifier? rest with
    | none =>
      rw [readItems_cons, hc] at h
      simp only [hcut, hq] at h
      exact h.elim
    | some parts =>
      rw [readItems_item hc hcut hq] at h
      by_cases hgroup : c = '('
      · rw [if_pos hgroup] at h
        refine ⟨fun _ => ?_, fun hne => absurd hgroup hne⟩
        split at h
        · exact h.1
        · exact h.1
      · rw [if_neg hgroup] at h
        exact ⟨fun heq => absurd heq hgroup, fun _ => h.1⟩

/-- A closing parenthesis is the end of what can be read before it. -/
theorem not_sound_append (h : (read ignoreCase inside).Sound) (rest : List Char) :
    ¬ (read ignoreCase (inside ++ ')' :: rest)).Sound := by
  have hclosing : Bracket.closing? ')' = none := rfl
  have hinside : (readItems ignoreCase (inside ++ ')' :: rest) inside).Sound :=
    (readItems_sound_iff ..).mp h
  rw [read, readItems_append rfl hinside, sound_append, readItems_cons, hclosing]
  exact fun hsound => hsound.2

/-- Where a text stands between two brackets, and the first item of it has to end at the second
one, the brackets belong together. -/
theorem enclosed_of_sound (hc : Bracket.closing? c = some closing)
    (hend : ∀ inside' rest', inside = inside' ++ closing :: rest' →
      (c = '(' → (read ignoreCase inside').Sound) →
      (c ≠ '(' → (MemberSet.read ignoreCase (c :: inside' ++ [closing])).fault = none) → False)
    (h : (readItems ignoreCase whole (c :: inside ++ [closing])).Sound) :
    Bracket.Enclosed (c :: inside ++ [closing]) := by
  rw [List.cons_append] at h
  obtain ⟨first, rest, hcut, hgroup, hset⟩ := exists_item_of_sound hc h
  obtain ⟨htext, hbalanced⟩ := (Bracket.close?_eq_some_iff (Bracket.ne_of_closing? hc)).mp hcut
  obtain hnil | ⟨rest', d, hrest⟩ := List.eq_nil_or_concat rest
  · rw [hnil] at htext
    have hfirst : inside = first := List.append_cancel_right htext
    exact ⟨c, closing, inside, hc, rfl, hfirst ▸ hbalanced⟩
  · rw [hrest, List.concat_eq_append, ← List.cons_append, ← List.append_assoc] at htext
    have hinside : inside = first ++ closing :: rest' := (List.append_inj' htext rfl).1
    exact (hend first rest' hinside hgroup hset).elim

/-- A set that is read on its own is the only item of a pattern if its brackets belong together. -/
theorem enclosed_of_set (hset : (MemberSet.read ignoreCase s).fault = none)
    (h : (read ignoreCase s).Sound) : Bracket.Enclosed s := by
  obtain ⟨inside, hs, hbalanced⟩ | ⟨inside, hs⟩ := MemberSet.brackets_of_read hset
  · exact ⟨'<', '>', inside, rfl, hs, hbalanced⟩
  · rw [hs] at hset h ⊢
    refine enclosed_of_sound rfl (fun inside' rest' hinside _ hfirst => ?_) h
    rw [hinside] at hset
    exact MemberSet.read_squared_unique (hfirst (by decide)) hset

theorem enclosed_of_group (hgroup : (readGroup ignoreCase s).Sound)
    (h : (read ignoreCase s).Sound) : Bracket.Enclosed s := by
  cases hinside : inside? s with
  | none =>
    rw [readGroup, hinside] at hgroup
    exact hgroup.elim
  | some inside =>
    rw [readGroup, hinside] at hgroup
    rw [eq_of_inside? hinside] at h ⊢
    refine enclosed_of_sound rfl (fun inside' rest' hs hfirst _ => ?_) h
    have hbody : (read ignoreCase inside).Sound := hgroup
    rw [hs] at hbody
    exact not_sound_append (hfirst rfl) rest' hbody

/-- A set as the only item takes what it takes on its own. -/
theorem read_set (h : Bracket.Enclosed s) (hset : (MemberSet.read ignoreCase s).fault = none) :
    read ignoreCase s =
      .repeatSet s (.read ignoreCase s) (.ok ⟨1, 1, Nat.le_refl 1⟩) .done := by
  obtain ⟨c, closing, inside, hc, hs, hbalanced, hcountable⟩ := h
  have hne : c ≠ '(' := by
    intro hgroup
    rw [hs, hgroup] at hset
    obtain ⟨_, hbrackets, -⟩ | ⟨_, hbrackets⟩ := MemberSet.brackets_of_read hset
    · exact absurd (List.cons.inj hbrackets).1 (by decide)
    · exact absurd (List.cons.inj hbrackets).1 (by decide)
  have hcut := Bracket.close?_of_balanced (Bracket.ne_of_closing? hc) hbalanced hcountable []
  have hquantifier : cutQuantifier? [] = some ([], []) := rfl
  have hitem : c :: (inside ++ [closing]) = s := hs.symm
  have hread : readItems ignoreCase s (c :: (inside ++ [closing])) =
      .repeatSet (c :: inside ++ [closing]) (.read ignoreCase (c :: inside ++ [closing]))
        (.ok ⟨1, 1, Nat.le_refl 1⟩) .done := by
    rw [readItems_item hc hcut hquantifier, if_neg hne, List.append_nil, readItems_nil]
    rfl
  rw [hitem, ← hs] at hread
  exact hread

theorem read_group (h : Bracket.Enclosed s) (hgroup : (readGroup ignoreCase s).Sound) :
    read ignoreCase s = .group s (readGroup ignoreCase s) .done := by
  cases hinside : inside? s with
  | none =>
    rw [readGroup, hinside] at hgroup
    exact hgroup.elim
  | some inside =>
    have hs := eq_of_inside? hinside
    obtain ⟨c, closing, inside', hc, hs', hbalanced, hcountable⟩ := h
    rw [hs] at hs'
    obtain ⟨hhead, htail⟩ := List.cons.inj hs'
    rw [← hhead] at hc hbalanced hcountable
    have hclosing : ')' = closing := Option.some.inj hc
    rw [← hclosing] at htail hbalanced
    have hbody : inside = inside' := List.append_cancel_right htail
    rw [← hbody] at hbalanced hcountable
    have hread := read_parentheses hbalanced hcountable ignoreCase
    rw [← hs] at hread
    rw [hread, readGroup, hinside]

end Pattern

namespace Builder

variable {ignoreCase : Bool} {s : List Char} {m : Matcher Leaf} {a : Arena}

/-- The tree of a builder matches a run as the first item of a pattern does. -/
theorem compiled_set (h : componentSet s (.empty ignoreCase) = .ok m a) :
    (MemberSet.read ignoreCase s).fault = none ∧ ∀ id,
      (Pattern.repeatSet s (.read ignoreCase s) (.ok ⟨1, 1, Nat.le_refl 1⟩) .done).Compiled
        [.repeated id m ⟨1, 1, Nat.le_refl 1⟩] := by
  obtain ⟨⟨hfault, setId, leaves, hm, hregexes, hnumbered⟩, -⟩ := (memberSet_adds _).ok h
  refine ⟨hfault, fun id => ?_⟩
  rw [hm]
  exact .repeatSet id setId hfault hregexes hnumbered .done

theorem compiled_group (h : backref s (.empty ignoreCase) = .ok m a) :
    (Pattern.readGroup ignoreCase s).Sound ∧
      (Pattern.group s (Pattern.readGroup ignoreCase s) .done).Compiled [m] := by
  obtain ⟨⟨id, list, hm, listId, ms, hlist, hcompiled⟩, -⟩ :=
    (group_adds (list_pattern_adds _ _) s).ok h
  refine ⟨hcompiled.sound, ?_⟩
  rw [hm, hlist]
  exact .group id listId hcompiled .done

/-- A set or a group that is built on its own is what a pattern of this one item is compiled into, up
to a repetition that is made once. -/
theorem exists_compiled_item
    (h : componentSet s (.empty ignoreCase) = .ok m a ∨ backref s (.empty ignoreCase) = .ok m a)
    (hs : Bracket.Enclosed s) :
    ∃ item, (Pattern.read ignoreCase s).Compiled [item] ∧ item.captures = m.captures ∧
      ∀ w, item.Language Leaf.Accepts w ↔ m.Language Leaf.Accepts w := by
  obtain h | h := h
  · obtain ⟨hfault, hcompiled⟩ := compiled_set h
    rw [Pattern.read_set hs hfault]
    refine ⟨.repeated 0 m ⟨1, 1, Nat.le_refl 1⟩, hcompiled 0, rfl, fun w => ?_⟩
    obtain ⟨⟨-, setId, leaves, hm, -⟩, -⟩ := (memberSet_adds _).ok h
    have hempty : ¬ m.Language Leaf.Accepts [] := by
      rw [hm, Matcher.Language]
      simp
    rw [Matcher.Language]
    exact Bounds.repeats_once rfl rfl hempty
  · obtain ⟨hsound, hcompiled⟩ := compiled_group h
    rw [Pattern.read_group hs hsound]
    exact ⟨m, hcompiled, rfl, fun w => Iff.rfl⟩

theorem grows_of_item
    (h : componentSet s (.empty ignoreCase) = .ok m a ∨ backref s (.empty ignoreCase) = .ok m a) :
    (Arena.empty ignoreCase).Grows m.subtrees m.captures a := by
  obtain h | h := h
  · exact ((componentSet_adds s).ok h).2
  · exact ((backref_adds s).ok h).2

/-- A set or a group that can be built on its own is a pattern of one item if its outer brackets belong
together, where no brackets but those of their kind count, not even inside a regex, and the counter
does not overflow. The pattern then has as many groups and matches the same runs. -/
theorem pattern_of_item
    (h : componentSet s (.empty ignoreCase) = .ok m a ∨ backref s (.empty ignoreCase) = .ok m a) :
    ((∃ p, CompiledPattern.compile ignoreCase s = .ok p) ↔ Bracket.Enclosed s) ∧
      (∀ opening closing inside, Bracket.closing? opening = some closing →
        s = opening :: inside ++ [closing] → Bracket.Balanced opening closing inside →
        ¬ Bracket.Countable opening inside →
        CompiledPattern.indexed ignoreCase s = .error .overflow) ∧
      ∀ p, CompiledPattern.compile ignoreCase s = .ok p → p.groups = a.registry.size ∧
        ∀ name offset length, (p.arena.matchAt p.root name offset length).isSome = true ↔
          (a.matchAt m.id name offset length).isSome = true := by
  have hgrows := grows_of_item h
  have henclosed : (Pattern.read ignoreCase s).Sound → Bracket.Enclosed s := by
    intro hsound
    obtain h | h := h
    · exact Pattern.enclosed_of_set (compiled_set h).1 hsound
    · exact Pattern.enclosed_of_group (compiled_group h).1 hsound
  refine ⟨⟨fun hp => henclosed ((CompiledPattern.compile_isOk_iff ..).mp hp), fun hs => ?_⟩,
    fun opening closing inside hc hs hbalanced hnot => ?_, fun p hp => ?_⟩
  · obtain ⟨item, hcompiled, -⟩ := exists_compiled_item h hs
    exact (CompiledPattern.compile_isOk_iff ..).mpr hcompiled.sound
  · rw [hs]
    exact CompiledPattern.indexed_of_not_countable hc hbalanced hnot
  · have hsound := (CompiledPattern.compile_isOk_iff ..).mp ⟨p, hp⟩
    obtain ⟨item, hcompiled, hcaptures, hlanguage⟩ := exists_compiled_item h (henclosed hsound)
    constructor
    · have hitem := hcompiled.length_captures
      have hregistered : a.registry.refs = m.captures := hgrows.registered
      rw [CompiledPattern.groups_of_compile hp, ← hitem, Registry.size, hregistered, ← hcaptures]
      simp [Matcher.itemCaptures]
    · intro name offset length
      have hread : ∀ w, (Pattern.read ignoreCase s).Language w ↔ m.Language Leaf.Accepts w := by
        intro w
        rw [← hcompiled.language, ← hlanguage]
        simp [Matcher.ItemsLanguage]
      rw [CompiledPattern.matchAt_isSome_iff hp, hread]
      by_cases hle : offset + length ≤ name.length
      · have hdecides := hgrows.holds.isMatchAt_decides hle (.empty a.size)
        rw [Arena.matchAt_isSome, hdecides]
        exact and_iff_right hle
      · have hnone : a.matchAt m.id name offset length = none := by
          unfold Arena.matchAt Arena.isMatchAt
          rw [if_neg hle]
          rfl
        rw [hnone]
        simp [hle]

/-- The square brackets of a class of characters belong together, and its parentheses do not matter to
the set around it. -/
theorem pattern_of_item_class : ∃ m a p,
    componentSet "[<([ab])>]".toList (.empty false) = .ok m a ∧
      CompiledPattern.compile false "[<([ab])>]".toList = .ok p ∧ p.groups = 1 ∧
      (p.arena.matchAt p.root ⟨[⟨[98]⟩]⟩ 0 1).isSome = true := by
  have hbalanced : Bracket.Balanced '[' ']' "<([ab])>".toList :=
    (Bracket.balanced_iff_cut? (by decide)).mpr rfl
  obtain ⟨m, a, h, hsize, hmatch⟩ : ∃ m a,
      componentSet "[<([ab])>]".toList (.empty false) = .ok m a ∧ a.registry.size = 1 ∧
      (a.matchAt m.id ⟨[⟨[98]⟩]⟩ 0 1).isSome = true :=
    ⟨_, _, by cbv, by cbv, by cbv⟩
  obtain ⟨hpattern, -, hsame⟩ := pattern_of_item (.inl h)
  obtain ⟨p, hp⟩ := hpattern.mpr ⟨'[', ']', "<([ab])>".toList, rfl, rfl, hbalanced, by decide⟩
  obtain ⟨hgroups, hmatches⟩ := hsame p hp
  exact ⟨m, a, p, h, hp, hgroups.trans hsize, (hmatches _ 0 1).mpr hmatch⟩

/-- A set that is read on its own is cut short at a closing bracket in a regex when it is an item, and
so is a group. -/
theorem item_cut_short :
    (∃ m a, componentSet "[<\\]>]".toList (.empty false) = .ok m a) ∧
      CompiledPattern.compile false "[<\\]>]".toList = .error (.bracketMismatch "[<\\]".toList) ∧
      (∃ m a, backref "(<[)a]>)".toList (.empty false) = .ok m a) ∧
      CompiledPattern.compile false "(<[)a]>)".toList = .error (.bracketMismatch "<[".toList) := by
  refine ⟨⟨_, _, by cbv⟩, by cbv, ⟨_, _, by cbv⟩, by cbv⟩

end Builder

end NamePattern
