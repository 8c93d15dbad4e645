import NamePattern.Proofs.Emission

/-! Regexes that match some part of a text, and regexes between anchors, which match all of it. -/
namespace NamePattern.CharRegex

variable {before : Option Char} {text u rest : List Char}

namespace Expr

theorem accepts_ofExpr (e : Expr) : Accepts (.ofExpr e) before text 0 ↔
    ∃ u rest, text = u ++ rest ∧ e.Matches before u rest := by
  have hprog : Program.ofExpr e = (e.once #[]).push .accept := by
    unfold Program.ofExpr once
    rw [Array.size_empty, Nat.zero_add]
  have hruns := e.emitted (p := #[]) (Appends.push (e.once #[]) .accept)
  have hsize := (e.once_appends #[]).size
  have hins : ((e.once #[]).push .accept)[(#[] : Program).size + e.codeSize]? = some .accept := by
    rw [← hsize]
    exact Array.getElem?_push_size
  rw [hprog]
  constructor
  · intro h
    obtain ⟨n, hn⟩ := accepts_iff_steps.mp h
    obtain ⟨u, rest, m, htext, hu, -⟩ := hruns.sound hn
    exact ⟨u, rest, htext, hu⟩
  · intro h
    obtain ⟨u, rest, htext, hu⟩ := h
    rw [htext]
    exact hruns.complete hu (.accept hins)

/-- A regex is found in a text if some part of the text matches. -/
theorem captures_ofExpr (e : Expr) (groups : Nat) (text : List Char) :
    (captures ⟨.ofExpr e, groups⟩ text).isSome = true ↔
      ∃ front u back, text = front ++ (u ++ back) ∧ e.Matches front.getLast? u back := by
  rw [captures_isSome]
  unfold Starts
  simp only [Option.or_none, accepts_ofExpr]
  constructor
  · intro h
    obtain ⟨front, _, htext, u, back, hback, hu⟩ := h
    rw [hback] at htext
    exact ⟨front, u, back, htext, hu⟩
  · intro h
    obtain ⟨front, u, back, htext, hu⟩ := h
    exact ⟨front, u ++ back, htext, u, back, rfl, hu⟩

theorem matches_literal_append {s t : List Char} : (literal (s ++ t)).Matches before u rest ↔
    (literal s).Matches.andThen (literal t).Matches before u rest := by
  constructor
  · intro h
    exact ⟨s, t, h, rfl, rfl⟩
  · intro h
    obtain ⟨v, w, hu, hv, hw⟩ := h
    have hv : v = s := hv
    have hw : w = t := hw
    rw [hu, hv, hw]
    rfl

/-- One expression after the other, however their parts are put together. -/
theorem matches_append (a b : Expr) :
    (a.append b).Matches before u rest ↔ a.Matches.andThen b.Matches before u rest := by
  induction a generalizing before u rest with
  | empty => exact Span.nothing_andThen.symm
  | seq first others _ ih =>
    have hothers : first.Matches.andThen (others.append b).Matches before u rest ↔
        first.Matches.andThen (others.Matches.andThen b.Matches) before u rest :=
      Span.andThen_congr (fun _ _ _ => Iff.rfl) fun _ _ _ => ih
    exact hothers.trans Span.andThen_assoc.symm
  | literal s =>
    cases b with
    | empty => exact Span.andThen_nothing.symm
    | literal t => exact matches_literal_append
    | seq first others =>
      cases first with
      | literal t =>
        have hliteral : (literal (s ++ t)).Matches.andThen others.Matches before u rest ↔
            ((literal s).Matches.andThen (literal t).Matches).andThen others.Matches before u rest :=
          Span.andThen_congr (fun _ _ _ => matches_literal_append) fun _ _ _ => Iff.rfl
        exact hliteral.trans Span.andThen_assoc
      | _ => exact Iff.rfl
    | _ => exact Iff.rfl
  | _ =>
    cases b with
    | empty => exact Span.andThen_nothing.symm
    | _ => exact Iff.rfl

/-- An expression between the two ends of the text. -/
def whole (e : Expr) : Expr := (look .textStart).append (e.append (look .textEnd))

theorem matches_whole (e : Expr) : e.whole.Matches before u rest ↔
    before = none ∧ rest = [] ∧ e.Matches none u [] := by
  unfold whole
  rw [matches_append]
  constructor
  · intro h
    obtain ⟨v, w, hu, ⟨hv, hstart⟩, hw⟩ := h
    obtain ⟨x, y, hw, hx, hy, hend⟩ := (matches_append e _).mp hw
    have hbefore : before = none := by simpa [Look.holds] using hstart
    have hrest : rest = [] := by simpa [Look.holds] using hend
    rw [hv, hy, hbefore, hrest] at hx
    rw [hu, hv, hw, hy, List.append_nil]
    exact ⟨hbefore, hrest, hx⟩
  · intro h
    obtain ⟨hbefore, hrest, hu⟩ := h
    rw [hbefore, hrest]
    refine ⟨[], u, rfl, ⟨rfl, rfl⟩, (matches_append e _).mpr ⟨u, [], ?_, hu, rfl, rfl⟩⟩
    rw [List.append_nil]

/-- Between the two ends of the text an expression matches the text as a whole or not at all. -/
theorem captures_whole (e : Expr) (groups : Nat) (text : List Char) :
    (captures ⟨.ofExpr e.whole, groups⟩ text).isSome = true ↔ e.Matches none text [] := by
  rw [captures_ofExpr]
  simp only [matches_whole, List.getLast?_eq_none_iff]
  constructor
  · intro h
    obtain ⟨front, u, back, htext, hfront, hback, hu⟩ := h
    rw [htext, hfront, hback, List.nil_append, List.append_nil]
    exact hu
  · intro h
    exact ⟨[], text, [], (List.append_nil text).symm, rfl, rfl, h⟩

end Expr

/-- What stands before the body of the group between the anchors. -/
def opening : List Char := ['\\', 'A', '(', '?', ':']

/-- What stands behind it. -/
def closing : List Char := [')', '\\', 'z']

theorem readWhole?_eq_bind (ignoreCase : Bool) (s : List Char) : readWhole? ignoreCase s =
    Tree.read? (opening ++ s ++ closing) >>= fun t => t.expr? (.start ignoreCase) >>= fun e =>
      if e.fits then some ⟨.ofExpr e, e.groupCount⟩ else none := rfl

theorem readWhole?_eq {ignoreCase : Bool} {s : List Char} {t : Tree} {e : Expr}
    (ht : Tree.read? (opening ++ s ++ closing) = some t)
    (he : t.expr? (.start ignoreCase) = some e) :
    readWhole? ignoreCase s = if e.fits then some ⟨.ofExpr e, e.groupCount⟩ else none := by
  rw [readWhole?_eq_bind, ht, Option.bind_eq_bind, Option.bind_some, he, Option.bind_eq_bind,
    Option.bind_some]

/-- How a text is read between anchors that itself is read as a regex. -/
def Tree.whole (t : Tree) : Tree :=
  .seq (.assertion .textStart) (.seq (.group [] t) (.assertion .textEnd))

theorem Tree.depth_whole (t : Tree) : t.whole.depth .none = t.depth .none + 2 := by
  have hdepth : t.whole.depth .none = max 0 (max (t.depth .none + 1) 0 + 0) + 1 := rfl
  omega

theorem alternatives?_seq {a b : Tree} {f g h : Flags} {as bs : List Expr}
    (ha : a.alternatives? f = some (as, g)) (hb : b.alternatives? g = some (bs, h)) :
    (Tree.seq a b).alternatives? f = some ([(Expr.choice as).append (.choice bs)], h) := by
  simp only [Tree.alternatives?, ha, hb, Option.bind_eq_bind, Option.bind_some]
  rfl

theorem Tree.expr?_whole (t : Tree) (f : Flags) : t.whole.expr? f = (t.expr? f).map Expr.whole := by
  have happly : f.apply [] = f := rfl
  have hlook (a : Assertion) : Tree.alternatives? (.assertion a) f = some ([.look (a.look f)], f) := rfl
  unfold Tree.expr? Tree.whole
  cases h : t.alternatives? f with
  | none => simp [Tree.alternatives?, happly, h]
  | some es =>
    have hgroup : (Tree.group [] t).alternatives? f = some ([.choice es.1], f) := by
      rw [Tree.alternatives?, happly, h]
      rfl
    rw [alternatives?_seq (hlook .textStart) (alternatives?_seq hgroup (hlook .textEnd))]
    rfl

end NamePattern.CharRegex
