import NamePattern.Proofs.Hygiene
import NamePattern.Proofs.Matching

/-! Component regexes match components as a whole. -/
namespace NamePattern

open CharRegex (Contained Tree Expr opening closing nestLimit)

theorem Leaf.accepts_iff {leaf : Leaf} {r : CharRegex} (h : leaf.regex = some r) (c : Component) :
    leaf.Accepts c ↔ (r.captures c.escaped).isSome = true := by
  unfold Accepts
  rw [h]
  simp

theorem Member.read_eq_ok {ignoreCase : Bool} {s : List Char} (hne : s ≠ []) {m : Member} :
    Member.read ignoreCase s = .ok m ↔
      ∃ r, CharRegex.readWhole? ignoreCase s = some r ∧ m = ⟨s, some r⟩ := by
  cases s with
  | nil => exact absurd rfl hne
  | cons c s =>
    unfold Member.read
    cases CharRegex.readWhole? ignoreCase (c :: s) with
    | none => simp
    | some r => simp [eq_comm]

namespace Builder

variable {a b : Arena} {s : List Char} {m : Matcher Leaf}

theorem component_eq_ok (hne : s ≠ []) (h : component s a = .ok m b) :
    ∃ r leaf, CharRegex.readWhole? a.ignoreCase s = some r ∧ leaf.regex = some r ∧
      m = .component leaf.id leaf ∧ b.Holds m := by
  have hholds := ((component_adds s).ok h).2.holds
  cases hread : Member.read a.ignoreCase s with
  | error e =>
    rw [component_of_error hread] at h
    cases h
  | ok member' =>
    obtain ⟨r, hr, hm⟩ := (Member.read_eq_ok hne).mp hread
    rw [component_of_ok hread] at h
    obtain ⟨leaf, c, hleaf, h⟩ := bind_eq_ok.mp h
    obtain ⟨⟨hregex, -⟩, -⟩ := (member_adds member').ok hleaf
    cases h
    rw [hm] at hregex
    exact ⟨r, leaf, hr, hregex, rfl, hholds⟩

theorem component_isOk_iff (hne : s ≠ []) :
    (∃ m b, component s a = .ok m b) ↔ ∃ r, CharRegex.readWhole? a.ignoreCase s = some r := by
  constructor
  · intro h
    obtain ⟨m, b, h⟩ := h
    obtain ⟨r, leaf, hr, -⟩ := component_eq_ok hne h
    exact ⟨r, hr⟩
  · intro h
    obtain ⟨r, hr⟩ := h
    obtain ⟨m, b, h⟩ := ((member_total ⟨s, some r⟩).bind fun leaf =>
      .pure (Matcher.component leaf.id leaf)) a
    exact ⟨m, b, (component_of_ok ((Member.read_eq_ok hne).mpr ⟨r, hr, rfl⟩)).trans h⟩

/-- The automata for an alternative at the start of the text and one at its end are small. -/
theorem fits_ends : (Expr.alt (.seq (.look .textStart) (.literal ['a']))
    (.seq (.literal ['b']) (.look .textEnd))).fits = true := by
  have hchoice (d : CharRegex.Direction) (f : CharRegex.Footprint) :
      (Expr.alt (.seq (.look .textStart) (.literal ['a']))
        (.seq (.literal ['b']) (.look .textEnd))).addTo d f =
          ((Expr.seq (.literal ['b']) (.look .textEnd)).addTo d
            ((Expr.seq (.look .textStart) (.literal ['a'])).addTo d f)).add 2 8 := by
    rw [Expr.addTo, Expr.addBranches]
    · simp [Expr.addChoice, Expr.branches, Expr.text?]
    · simp
  simp only [Expr.fits, Expr.footprint, hchoice]
  simp only [Expr.addTo]
  rfl

/-- A component regex that closes no group of its surroundings is compiled if it is a regex on its own,
no comment at its end swallows the closing, and it leaves room for the anchors. Its node then matches a
run if that is one component whose whole escaped form the regex matches, whatever is compiled into the
arena later. -/
theorem component_matches_whole (hne : s ≠ []) (hs : Contained s) :
    ((∃ m b, component s a = .ok m b) ↔ ∃ t e, Tree.read? s = some t ∧
        t.expr? (.start a.ignoreCase) = some e ∧ Tree.read? (s ++ closing) = none ∧
          t.depth .none + 2 ≤ nestLimit ∧ e.whole.fits = true) ∧
      ∀ m b, component s a = .ok m b → ∃ t e, Tree.read? s = some t ∧
        t.expr? (.start a.ignoreCase) = some e ∧ ∀ d, b.Extends d →
          ∀ (name : Name) (offset length : Nat), offset + length ≤ name.length →
            ((d.matchAt m.id name offset length).isSome = true ↔
              ∃ c, (name.subName offset length).components = [c] ∧ e.Matches none c.escaped []) := by
  constructor
  · rw [component_isOk_iff hne]
    constructor
    · intro h
      obtain ⟨r, hr⟩ := h
      obtain ⟨t, e, ht, he, hnone, hdepth, hfits, -⟩ := (CharRegex.readWhole?_eq_some hs).mp hr
      exact ⟨t, e, ht, he, hnone, hdepth, hfits⟩
    · intro h
      obtain ⟨t, e, ht, he, hnone, hdepth, hfits⟩ := h
      exact ⟨_, (CharRegex.readWhole?_eq_some hs).mpr ⟨t, e, ht, he, hnone, hdepth, hfits, rfl⟩⟩
  · intro m b h
    obtain ⟨r, leaf, hr, hregex, hm, hholds⟩ := component_eq_ok hne h
    obtain ⟨t, e, ht, he, -, -, -, hwhole⟩ := (CharRegex.readWhole?_eq_some hs).mp hr
    refine ⟨t, e, ht, he, fun d hd name offset length hlen => ?_⟩
    rw [Arena.matchAt_isSome, (hholds.mono hd).isMatchAt_decides hlen, hm]
    have haccepts (c : Component) : leaf.Accepts c ↔ e.Matches none c.escaped [] := by
      rw [Leaf.accepts_iff hregex, hwhole]
      exact e.captures_whole _ _
    unfold Matcher.Language
    simp only [haccepts]

/-- The regex `a+?` prefers few letters, but matches `aa` as a whole, and `ab` not at all. -/
theorem component_matches_whole_lazy :
    ∃ m b, component ['a', '+', '?'] (.empty false) = .ok m b ∧
      (b.matchAt m.id ⟨[⟨[97, 97]⟩]⟩ 0 1).isSome = true ∧
        ¬(b.matchAt m.id ⟨[⟨[97, 98]⟩]⟩ 0 1).isSome = true := by
  let t : Tree := .repeated 1 none false (.literal ⟨'a', false⟩)
  let e : Expr := .repeated 1 none false (.literal ['a'])
  have ht : Tree.read? ['a', '+', '?'] = some t := rfl
  have he : t.expr? (.start false) = some e := rfl
  have hfits : e.whole.fits = true := by
    have hwhole : e.whole = .seq (.look .textStart) (.seq e (.look .textEnd)) := rfl
    rw [hwhole]
    simp only [Expr.fits, Expr.footprint, Expr.addTo, e]
    rfl
  obtain ⟨hok, hmatch⟩ := component_matches_whole (a := .empty false) (s := ['a', '+', '?'])
    (by decide) (CharRegex.contained_of_read? ht)
  obtain ⟨m, b, h⟩ := hok.mpr ⟨t, e, ht, he, rfl, by decide, hfits⟩
  obtain ⟨t', e', ht', he', hmatch⟩ := hmatch m b h
  have htree : t' = t := Option.some.inj (ht'.symm.trans ht)
  rw [htree] at he'
  have hexpr : e' = e := Option.some.inj (he'.symm.trans he)
  rw [hexpr] at hmatch
  have hsingle (c : Component) : (b.matchAt m.id ⟨[c]⟩ 0 1).isSome = true ↔
      e.Matches none c.escaped [] := by
    rw [hmatch b (.refl b) ⟨[c]⟩ 0 1 (Nat.le_refl 1)]
    simp [Name.subName]
  have haa : Component.escaped ⟨[97, 97]⟩ = ['a', 'a'] := by decide
  have hab : Component.escaped ⟨[97, 98]⟩ = ['a', 'b'] := by decide
  refine ⟨m, b, h, (hsingle _).mpr (haa ▸ ?_), mt (hsingle _).mp (hab ▸ ?_)⟩
  · exact ⟨2, by decide, by simp, ['a'], ['a'], rfl, rfl, ['a'], [], rfl, rfl, rfl⟩
  · intro hab
    obtain ⟨n, -, -, hab⟩ := hab
    cases n with
    | zero => cases hab
    | succ n =>
      obtain ⟨v, w, hvw, hv, hw⟩ := hab
      have hv : v = ['a'] := hv
      rw [hv] at hvw
      cases hvw
      cases n with
      | zero => cases hw
      | succ n =>
        obtain ⟨v, w, hvw, hv, hw⟩ := hw
        have hv : v = ['a'] := hv
        rw [hv] at hvw
        cases hvw

/-- In `a)|(?:b` each parenthesis belongs to a group of the surroundings, so that this text is compiled
although it is no regex, and matches a beginning of `ax`. -/
theorem component_matches_beginning :
    Tree.read? ['a', ')', '|', '(', '?', ':', 'b'] = none ∧
      ∃ m b, component ['a', ')', '|', '(', '?', ':', 'b'] (.empty false) = .ok m b ∧
        (b.matchAt m.id ⟨[⟨[97, 120]⟩]⟩ 0 1).isSome = true := by
  refine ⟨rfl, ?_⟩
  let s : List Char := ['a', ')', '|', '(', '?', ':', 'b']
  let t : Tree := .alt (.seq (.assertion .textStart) (.group [] (.literal ⟨'a', false⟩)))
    (.seq (.group [] (.literal ⟨'b', false⟩)) (.assertion .textEnd))
  let e : Expr := .alt (.seq (.look .textStart) (.literal ['a']))
    (.seq (.literal ['b']) (.look .textEnd))
  have hne : s ≠ [] := by decide
  have ht : Tree.read? (opening ++ s ++ closing) = some t := rfl
  have he : t.expr? (.start false) = some e := rfl
  have hread : CharRegex.readWhole? false s = some ⟨.ofExpr e, e.groupCount⟩ := by
    rw [CharRegex.readWhole?_eq ht he, if_pos fits_ends]
  obtain ⟨m, b, h⟩ := (component_isOk_iff (a := .empty false) hne).mpr ⟨_, hread⟩
  obtain ⟨r, leaf, hr, hregex, hm, hholds⟩ := component_eq_ok hne h
  have hr : r = ⟨.ofExpr e, e.groupCount⟩ := Option.some.inj (hr.symm.trans hread)
  have hfound : ((CharRegex.mk (.ofExpr e) e.groupCount).captures ['a', 'x']).isSome = true :=
    (e.captures_ofExpr e.groupCount ['a', 'x']).mpr
      ⟨[], ['a'], ['x'], rfl, .inl ⟨[], ['a'], rfl, ⟨rfl, rfl⟩, rfl⟩⟩
  refine ⟨m, b, h, ?_⟩
  rw [Arena.matchAt_isSome, hholds.isMatchAt_decides (Nat.le_refl 1), hm]
  refine ⟨⟨[97, 120]⟩, rfl, (Leaf.accepts_iff hregex _).mpr ?_⟩
  rw [hr]
  exact hfound

end Builder

end NamePattern
