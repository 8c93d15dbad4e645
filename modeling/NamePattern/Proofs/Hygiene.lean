import NamePattern.Proofs.Tokens

/-! What is put between anchors as it stands, and what it means there. -/
namespace NamePattern.CharRegex

/-- How reading begins. -/
def Setting.start : Setting := ⟨0, [], false⟩

/-- No parenthesis of a text closes a group that the text does not open: reading it does not stop
before its end. -/
def Contained (s : List Char) : Prop :=
  ∀ t p, readAlternatives (2 * s.length + 2) ⟨s, 0, [], false⟩ = some (t, p) → p.rest = []

variable {s : List Char} {t w : Tree} {n : Nat}

theorem readChoice_start (n : Nat) (s : List Char) :
    readChoice n .start s = outcome (readAlternatives n ⟨s, 0, [], false⟩) := rfl

/-- A text is a regex if it is read to its end, and not too deep. -/
theorem read?_eq_some : Tree.read? s = some t ↔
    (∃ σ, readChoice (2 * s.length + 2) .start s = some ((t, σ), [])) ∧
      t.depth .none ≤ nestLimit := by
  unfold Tree.read?
  rw [readChoice_start]
  cases readAlternatives (2 * s.length + 2) ⟨s, 0, [], false⟩ with
  | none => simp [outcome]
  | some o =>
    obtain ⟨u, p⟩ := o
    simp only [Option.bind_eq_bind, Option.bind_some, outcome, Option.map_some]
    constructor
    · intro h
      split at h
      · next hlimit =>
        cases h
        have hrest := List.isEmpty_iff.mp hlimit.1
        exact ⟨⟨p.setting, by rw [hrest]⟩, hlimit.2⟩
      · cases h
    · intro h
      obtain ⟨⟨σ, ho⟩, hdepth⟩ := h
      obtain ⟨hv, hrest⟩ := Prod.mk.inj (Option.some.inj ho)
      obtain ⟨ht, -⟩ := Prod.mk.inj hv
      rw [ht, if_pos ⟨List.isEmpty_iff.mpr hrest, hdepth⟩]
      rfl

theorem contained_iff : Contained s ↔
    ∀ v r, readChoice (2 * s.length + 2) .start s = some (v, r) → r = [] := by
  unfold Contained
  rw [readChoice_start]
  constructor
  · intro h v r ho
    obtain ⟨⟨t, p⟩, hp, hr⟩ := Option.map_eq_some_iff.mp ho
    cases hr
    exact h t p hp
  · intro h t p hp
    exact h (t, p.setting) p.rest (Option.map_eq_some_iff.mpr ⟨(t, p), hp, rfl⟩)

/-- A regex is read to its end, so it closes no group of its surroundings. -/
theorem contained_of_read? (h : Tree.read? s = some t) : Contained s := by
  obtain ⟨⟨σ, hread⟩, -⟩ := read?_eq_some.mp h
  refine contained_iff.mpr fun v r ho => ?_
  rw [hread] at ho
  cases ho
  rfl

theorem readChoice_opening (n : Nat) (s : List Char) : readChoice (n + 3) .start (opening ++ s) =
    (readChoice n .start s >>= fun p => readGroupEnd n
      [.group [] p.1.1, .assertion .textStart] ⟨p.1.2.groups, p.1.2.names, false⟩ p.2) >>= fun q =>
        readOthers (n + 2) q.1.1 q.1.2 q.2 := by
  have htext : opening ++ s = '\\' :: 'A' :: '(' :: '?' :: ':' :: s := rfl
  have hparts : readParts (n + 2) [] .start (opening ++ s) = readChoice n .start s >>= fun p =>
      readGroupEnd n [.group [] p.1.1, .assertion .textStart]
        ⟨p.1.2.groups, p.1.2.names, false⟩ p.2 := by
    have hanchor : readParts (n + 2) [] .start (opening ++ s) =
        readParts (n + 1) [.assertion .textStart] .start ('(' :: '?' :: ':' :: s) := by
      rw [htext, readParts_succ]
      rfl
    have hgroup : readParts (n + 1) [.assertion .textStart] .start ('(' :: '?' :: ':' :: s) =
        outcome (afterToken n [.assertion .textStart] .start (.group (.group []) .start, s)) := by
      rw [readParts_succ]
      rfl
    rw [hanchor, hgroup, outcome_group]
    rfl
  rw [readChoice_succ, hparts]

/-- The end of the group between the anchors, and the anchor behind it. -/
theorem readGroupEnd_closing (n : Nat) (parts : List Tree) (σ : Setting) (hσ : σ.extended = false) :
    readGroupEnd (n + 2) parts σ closing =
      some ((.ofParts (parts.reverse ++ [.assertion .textEnd]), σ), []) := by
  obtain ⟨groups, names, x⟩ := σ
  cases hσ
  have hanchor : readGroupEnd (n + 2) parts ⟨groups, names, false⟩ closing =
      readParts (n + 1) (.assertion .textEnd :: parts) ⟨groups, names, false⟩ [] := by
    have hend : readGroupEnd (n + 2) parts ⟨groups, names, false⟩ closing =
        readParts (n + 2) parts ⟨groups, names, false⟩ ['\\', 'z'] := rfl
    rw [hend, readParts_succ]
    rfl
  rw [hanchor, readParts_succ, ← List.reverse_cons]
  rfl

theorem readChoice_whole {σ : Setting}
    (h : readChoice (n + 2) .start (s ++ closing) = some ((t, σ), closing)) :
    ∃ τ, readChoice (n + 5) .start (opening ++ (s ++ closing)) = some ((t.whole, τ), []) := by
  refine ⟨⟨σ.groups, σ.names, false⟩, ?_⟩
  rw [readChoice_opening, h]
  simp only [Option.bind_eq_bind, Option.bind_some]
  rw [readGroupEnd_closing n _ _ rfl]
  rfl

/-- No proper end of the closing begins with its parenthesis. -/
theorem closing_suffix {u r : List Char} (h : s ++ closing = u ++ r)
    (hr : r.length < closing.length) : r.head? ≠ some ')' := by
  have hsuffix : r <:+ closing :=
    List.suffix_of_suffix_length_le ⟨u, h.symm⟩ (List.suffix_append s closing) (Nat.le_of_lt hr)
  simp only [closing, List.suffix_cons_iff, List.suffix_nil] at hsuffix
  obtain hr' | hr' | hr' | hr' := hsuffix
  · rw [hr'] at hr
    exact absurd hr (Nat.lt_irrefl _)
  · rw [hr']
    decide
  · rw [hr']
    decide
  · rw [hr']
    decide

theorem head?_of_readGroupEnd {parts : List Tree} {σ : Setting} {q : (Tree × Setting) × List Char}
    (h : readGroupEnd n parts σ s = some q) : s.head? = some ')' := by
  unfold readGroupEnd at h
  split at h
  · rfl
  · cases h

theorem readChoice_contained (hs : Contained s) {o : (Tree × Setting) × List Char}
    (h : readChoice n .start (s ++ closing) = some o) (ho : o.2.head? = some ')') :
    o.2 = closing ∧ readChoice (2 * s.length + 2) .start s = some (o.1, []) := by
  obtain ⟨v, r⟩ := o
  have hsteady := (reading_steady n).2 .start
  obtain ⟨u, hu, -⟩ := (hsteady _).taken h
  have hlength : closing.length ≤ r.length :=
    Nat.le_of_not_lt fun hlt => closing_suffix hu hlt ho
  obtain ⟨r', hr, halone⟩ := (hsteady s).agrees.restrict h hlength
  have halone := (reading_enough n).2 _ _ _ _ (Nat.le_refl _) (halone.resolve_right id)
  have hr' := contained_iff.mp hs _ _ halone
  rw [hr'] at hr halone
  exact ⟨hr, halone⟩

/-- A text that closes no group of its surroundings is read between the anchors as it is read alone, as
long as the closing is not part of a comment and two more levels are left. -/
theorem read?_between (hs : Contained s) : Tree.read? (opening ++ s ++ closing) = some w ↔
    ∃ t, Tree.read? s = some t ∧ Tree.read? (s ++ closing) = none ∧
      t.depth .none + 2 ≤ nestLimit ∧ w = t.whole := by
  have hfuel : 2 * (opening ++ s ++ closing).length + 2 = 2 * s.length + 13 + 5 := by
    have hopening : opening.length = 5 := rfl
    have hclosing : closing.length = 3 := rfl
    rw [List.length_append, List.length_append, hopening, hclosing]
    omega
  have hclosed : 2 * (s ++ closing).length + 2 = 2 * s.length + 8 := by
    have hclosing : closing.length = 3 := rfl
    rw [List.length_append, hclosing]
    omega
  rw [read?_eq_some, hfuel, List.append_assoc]
  constructor
  · intro h
    obtain ⟨⟨σ, h⟩, hdepth⟩ := h
    rw [readChoice_opening] at h
    obtain ⟨q, hq, h⟩ := Option.bind_eq_some_iff.mp h
    obtain ⟨⟨⟨t, τ⟩, r⟩, hp, hq⟩ := Option.bind_eq_some_iff.mp hq
    obtain ⟨hr, halone⟩ := readChoice_contained hs hp (head?_of_readGroupEnd hq)
    have hr : r = closing := hr
    rw [hr] at hp hq
    rw [readGroupEnd_closing _ _ _ rfl] at hq
    cases hq
    have hw : w = t.whole := by
      cases h
      rfl
    rw [hw, Tree.depth_whole] at hdepth
    refine ⟨t, read?_eq_some.mpr ⟨⟨τ, halone⟩, Nat.le_of_add_right_le hdepth⟩, ?_, hdepth, hw⟩
    refine Option.eq_none_iff_forall_ne_some.mpr fun t' ht' => ?_
    obtain ⟨⟨τ', ht'⟩, -⟩ := read?_eq_some.mp ht'
    rw [(reading_enough _).2 _ _ _ _ (Nat.le_refl _) hp] at ht'
    cases ht'
  · intro h
    obtain ⟨t, ht, hnone, hdepth, hw⟩ := h
    obtain ⟨⟨σ, halone⟩, hlimit⟩ := read?_eq_some.mp ht
    rw [hw, Tree.depth_whole]
    refine ⟨?_, hdepth⟩
    obtain hleft | ⟨-, hswallowed⟩ := ((reading_steady _).2 .start s).agrees.extend halone
    · exact readChoice_whole ((reading_enough _).2 _ _ _ _ (by omega) hleft)
    · have hread := read?_eq_some.mpr
        ⟨⟨σ, (reading_enough _).2 _ _ _ _ (Nat.le_refl _) hswallowed⟩, hlimit⟩
      rw [hread] at hnone
      cases hnone

/-- A comment at the end takes the closing with it. -/
example : (Tree.read? ['(', '?', 'x', ')', 'a', '#', 'c']).isSome = true ∧
    (Tree.read? (['(', '?', 'x', ')', 'a', '#', 'c'] ++ closing)).isSome = true := ⟨rfl, rfl⟩

/-- The regex that an expression is compiled to between the two ends of the text. -/
def Expr.wholeRegex (e : Expr) : CharRegex := ⟨.ofExpr e.whole, e.whole.groupCount⟩

theorem readWhole?_eq_some (hs : Contained s) {ignoreCase : Bool} {r : CharRegex} :
    readWhole? ignoreCase s = some r ↔ ∃ t e, Tree.read? s = some t ∧
      t.expr? (.start ignoreCase) = some e ∧ Tree.read? (s ++ closing) = none ∧
        t.depth .none + 2 ≤ nestLimit ∧ e.whole.fits = true ∧ r = e.wholeRegex := by
  rw [readWhole?_eq_bind]
  constructor
  · intro h
    obtain ⟨w, hw, h⟩ := Option.bind_eq_some_iff.mp h
    obtain ⟨t, ht, hnone, hdepth, hwhole⟩ := (read?_between hs).mp hw
    rw [hwhole, Tree.expr?_whole] at h
    obtain ⟨e', he, h⟩ := Option.bind_eq_some_iff.mp h
    obtain ⟨e, he, hwhole⟩ := Option.map_eq_some_iff.mp he
    rw [← hwhole] at h
    split at h
    · next hfits =>
      cases h
      exact ⟨t, e, ht, he, hnone, hdepth, hfits, rfl⟩
    · cases h
  · intro h
    obtain ⟨t, e, ht, he, hnone, hdepth, hfits, hr⟩ := h
    refine Option.bind_eq_some_iff.mpr ⟨_, (read?_between hs).mpr ⟨t, ht, hnone, hdepth, rfl⟩, ?_⟩
    refine Option.bind_eq_some_iff.mpr ⟨e.whole, ?_, ?_⟩
    · rw [Tree.expr?_whole, he]
      rfl
    · rw [if_pos hfits, hr]
      rfl

end NamePattern.CharRegex
