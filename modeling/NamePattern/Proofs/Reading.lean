import NamePattern.Proofs.Balance
import NamePattern.Proofs.Compiled

/-! Reading a text that is put together from others. -/
namespace NamePattern

namespace Bracket

variable {o c : Char} {depth : Nat} {s t inside rest : List Char}

/-- What follows a closing bracket does not matter. -/
theorem cut?_append (h : cut? o c depth s = some (inside, rest)) (t : List Char) :
    cut? o c depth (s ++ t) = some (inside, rest ++ t) := by
  induction s generalizing depth inside with
  | nil => simp [cut?] at h
  | cons d s ih =>
    rw [List.cons_append]
    simp only [cut?] at h ⊢
    split at h
    · next hd =>
      obtain ⟨⟨i, r⟩, hc, he⟩ := Option.map_eq_some_iff.mp h
      cases he
      rw [if_pos hd, ih hc]
      rfl
    · next hd =>
      rw [if_neg hd]
      split at h
      · next hd' =>
        rw [if_pos hd']
        cases depth with
        | zero =>
          cases h
          rfl
        | succ depth =>
          obtain ⟨⟨i, r⟩, hc, he⟩ := Option.map_eq_some_iff.mp h
          cases he
          simp only [ih hc, Option.map_some]
      · next hd' =>
        obtain ⟨⟨i, r⟩, hc, he⟩ := Option.map_eq_some_iff.mp h
        cases he
        rw [if_neg hd', ih hc]
        rfl

theorem cut?_append_eq_none (ht : ∀ depth, cut? o c depth t = none) (h : cut? o c depth s = none) :
    cut? o c depth (s ++ t) = none := by
  induction s generalizing depth with
  | nil => exact ht depth
  | cons d s ih =>
    rw [List.cons_append]
    simp only [cut?] at h ⊢
    split at h
    · next hd => rw [if_pos hd, ih (Option.map_eq_none_iff.mp h), Option.map_none]
    · next hd =>
      rw [if_neg hd]
      split at h
      · next hd' =>
        rw [if_pos hd']
        cases depth with
        | zero => simp at h
        | succ depth => simp only [ih (Option.map_eq_none_iff.mp h), Option.map_none]
      · next hd' => rw [if_neg hd', ih (Option.map_eq_none_iff.mp h), Option.map_none]

theorem close?_append (h : close? o c s = some (inside, rest)) (t : List Char) :
    close? o c (s ++ t) = some (inside, rest ++ t) := by
  obtain ⟨hcut, hcountable⟩ := close?_eq_some_iff_cut?.mp h
  exact close?_eq_some_iff_cut?.mpr ⟨cut?_append hcut t, hcountable⟩

theorem close?_append_eq_none (ht : ∀ depth, cut? o c depth t = none) (h : close? o c s = none) :
    close? o c (s ++ t) = none := by
  cases hcut : cut? o c 0 s with
  | none => rw [close?, cut?_append_eq_none ht hcut, Option.filter_none]
  | some parts =>
    have hnot := close?_eq_none_iff.mp h parts.1 parts.2 hcut
    refine close?_eq_none_iff.mpr fun inside rest hparts => ?_
    cases hparts.symm.trans (cut?_append hcut t)
    exact hnot

/-- A text without brackets ends at the first closing one. -/
theorem close?_of_free (hne : o ≠ c) (hfree : ∀ d ∈ s, d ≠ o ∧ d ≠ c) (rest : List Char) :
    close? o c (s ++ c :: rest) = some (s, rest) := by
  refine close?_eq_some_iff_cut?.mpr ⟨?_, .of_not_mem fun ho => (hfree o ho).1 rfl⟩
  induction s with
  | nil => simp [cut?, hne.symm]
  | cons d s ih =>
    obtain ⟨hd, hfree⟩ := List.forall_mem_cons.mp hfree
    rw [List.cons_append, cut?, if_neg hd.1, if_neg hd.2, ih hfree]
    rfl

end Bracket

namespace Pattern

/-- A text that may be put behind others: it closes no bracket of theirs, and it does not begin
with a quantifier. -/
structure Inert (t : List Char) : Prop where
  opens : ∀ {c closing}, Bracket.closing? c = some closing →
    ∀ depth, Bracket.cut? c closing depth t = none
  brace : '}' ∉ t
  quantifier : cutQuantifier? t = some ([], t)

theorem Inert.nil : Inert [] := ⟨fun _ _ => rfl, by simp, rfl⟩

variable {s t q rest : List Char}

/-- A text that does not begin with a quantifier adds nothing to the one in front of it. -/
theorem cutQuantifier?_append (ht : cutQuantifier? t = some ([], t))
    (h : cutQuantifier? s = some (q, rest)) : cutQuantifier? (s ++ t) = some (q, rest ++ t) := by
  unfold cutQuantifier? at h
  split at h
  · cases h
    rfl
  · cases h
    rfl
  · cases h
    rfl
  · next s =>
    split at h
    · simp at h
    · next brace rest' hd =>
      cases h
      have hne : (s.takeWhile (· != '}')).length ≠ s.length := by
        intro hlen
        have happ := congrArg List.length (List.takeWhile_append_dropWhile (p := (· != '}')) (l := s))
        rw [hd, List.length_append, List.length_cons] at happ
        omega
      simp only [List.cons_append, cutQuantifier?, List.dropWhile_append, List.takeWhile_append, hd,
        List.isEmpty_cons, if_neg hne]
      rfl
  · next hplus hopt hstar hbrace =>
    cases h
    cases s with
    | nil => exact ht
    | cons c s =>
      rw [List.cons_append]
      refine cutQuantifier?.eq_5 _ (fun _ he => ?_) (fun _ he => ?_) (fun _ he => ?_)
        (fun _ he => ?_)
      · exact hplus s ((List.cons.inj he).1 ▸ rfl)
      · exact hopt s ((List.cons.inj he).1 ▸ rfl)
      · exact hstar s ((List.cons.inj he).1 ▸ rfl)
      · exact hbrace s ((List.cons.inj he).1 ▸ rfl)

theorem cutQuantifier?_append_eq_none (ht : Inert t) (h : cutQuantifier? s = none) :
    cutQuantifier? (s ++ t) = none := by
  unfold cutQuantifier? at h
  split at h
  · simp at h
  · simp at h
  · simp at h
  · next s =>
    split at h
    · next hd =>
      have ht : t.dropWhile (· != '}') = [] := by
        rw [← List.append_nil t, List.dropWhile_append_of_pos fun c hc => ?_]
        · rfl
        · simpa using fun he : c = '}' => ht.brace (he ▸ hc)
      simp only [List.cons_append, cutQuantifier?, List.dropWhile_append, hd, List.isEmpty_nil,
        if_true, ht]
    · simp at h
  · simp at h

/-- One pattern behind another. Nothing follows a fault. -/
def append : Pattern → Pattern → Pattern
  | .done, p => p
  | .fault f, _ => .fault f
  | .group text inner rest, p => .group text inner (rest.append p)
  | .repeatGroup text atom inner bounds rest, p =>
    .repeatGroup text atom inner bounds (rest.append p)
  | .repeatSet text atom bounds rest, p => .repeatSet text atom bounds (rest.append p)

theorem readItems_nil (ignoreCase : Bool) (whole : List Char) :
    readItems ignoreCase whole [] = .done := by
  rw [readItems]

theorem readItems_cons (ignoreCase : Bool) (whole s : List Char) (c : Char) :
    readItems ignoreCase whole (c :: s) =
      match Bracket.closing? c with
      | none => .fault (.refused (.unexpected whole [c]))
      | some closing =>
        match Bracket.close? c closing s with
        | none => .fault (.unclosed c s whole)
        | some (inside, rest) =>
          match cutQuantifier? rest with
          | none => .fault (.refused (.missingRightBrace whole))
          | some (q, rest) =>
            let atom := c :: inside ++ [closing]
            if c = '(' then
              if q.isEmpty then
                .group (atom ++ q) (readItems ignoreCase inside inside)
                  (readItems ignoreCase whole rest)
              else
                .repeatGroup (atom ++ q) atom (readItems ignoreCase inside inside)
                  (Bounds.read (atom ++ q) q) (readItems ignoreCase whole rest)
            else
              .repeatSet (atom ++ q) (.read ignoreCase atom) (Bounds.read (atom ++ q) q)
                (readItems ignoreCase whole rest) := by
  rw [readItems]
  cases Bracket.closing? c with
  | none => rfl
  | some closing =>
    dsimp only
    split
    · next h => rw [h]
    · next inside rest h =>
      rw [h]
      dsimp only
      split
      · next hq => rw [hq]
      · next q rest' hq => rw [hq]

theorem readItems_item {ignoreCase : Bool} {whole inside rest' : List Char} {c closing : Char}
    (hc : Bracket.closing? c = some closing) (hcut : Bracket.close? c closing s = some (inside, rest))
    (hq : cutQuantifier? rest = some (q, rest')) :
    readItems ignoreCase whole (c :: s) =
      if c = '(' then
        if q.isEmpty then
          .group (c :: inside ++ [closing] ++ q) (readItems ignoreCase inside inside)
            (readItems ignoreCase whole rest')
        else
          .repeatGroup (c :: inside ++ [closing] ++ q) (c :: inside ++ [closing])
            (readItems ignoreCase inside inside) (Bounds.read (c :: inside ++ [closing] ++ q) q)
            (readItems ignoreCase whole rest')
      else
        .repeatSet (c :: inside ++ [closing] ++ q) (.read ignoreCase (c :: inside ++ [closing]))
          (Bounds.read (c :: inside ++ [closing] ++ q) q) (readItems ignoreCase whole rest') := by
  rw [readItems_cons, hc]
  simp only [hcut, hq]

/-- A text behind a complete pattern is read as if it stood alone, if it does not begin with a
quantifier. -/
theorem readItems_append {ignoreCase : Bool} {whole s : List Char}
    (ht : cutQuantifier? t = some ([], t)) (h : (readItems ignoreCase whole s).Sound) :
    readItems ignoreCase whole (s ++ t) =
      (readItems ignoreCase whole s).append (readItems ignoreCase whole t) := by
  fun_induction readItems ignoreCase whole s with
  | case1 whole => rfl
  | case2 whole c s hc => exact h.elim
  | case3 whole c s closing hc hcut => exact h.elim
  | case4 whole c s closing hc inside rest hcut hq => exact h.elim
  | case5 whole s closing inside rest q rest' hq inner hempty hc hcut _ atom text _ ih =>
    rw [List.cons_append, readItems_item hc (Bracket.close?_append hcut t)
      (cutQuantifier?_append ht hq), if_pos rfl, if_pos hempty, ih h.2]
    rfl
  | case6 whole s closing inside rest q rest' hq inner hempty hc hcut _ atom text _ ih =>
    rw [List.cons_append, readItems_item hc (Bracket.close?_append hcut t)
      (cutQuantifier?_append ht hq), if_pos rfl, if_neg hempty, ih h.2.2]
    rfl
  | case7 whole c s closing hc inside rest hcut q rest' hq _ atom text hne ih =>
    rw [List.cons_append, readItems_item hc (Bracket.close?_append hcut t)
      (cutQuantifier?_append ht hq), if_neg hne, ih h.2.2]
    rfl

/-- A text that closes no bracket of another does not complete it. -/
theorem sound_of_append {ignoreCase : Bool} {whole s : List Char} (ht : Inert t)
    (h : (readItems ignoreCase whole (s ++ t)).Sound) : (readItems ignoreCase whole s).Sound := by
  fun_induction readItems ignoreCase whole s with
  | case1 whole => trivial
  | case2 whole c s hc =>
    rw [List.cons_append, readItems_cons, hc] at h
    exact h
  | case3 whole c s closing hc hcut =>
    rw [List.cons_append, readItems_cons, hc] at h
    simp only [Bracket.close?_append_eq_none (ht.opens hc) hcut] at h
    exact h
  | case4 whole c s closing hc inside rest hcut hq =>
    rw [List.cons_append, readItems_cons, hc] at h
    simp only [Bracket.close?_append hcut, cutQuantifier?_append_eq_none ht hq] at h
    exact h
  | case5 whole s closing inside rest q rest' hq inner hempty hc hcut _ atom text _ ih =>
    rw [List.cons_append, readItems_item hc (Bracket.close?_append hcut t)
      (cutQuantifier?_append ht.quantifier hq), if_pos rfl, if_pos hempty] at h
    exact ⟨h.1, ih h.2⟩
  | case6 whole s closing inside rest q rest' hq inner hempty hc hcut _ atom text _ ih =>
    rw [List.cons_append, readItems_item hc (Bracket.close?_append hcut t)
      (cutQuantifier?_append ht.quantifier hq), if_pos rfl, if_neg hempty] at h
    exact ⟨h.1, h.2.1, ih h.2.2⟩
  | case7 whole c s closing hc inside rest hcut q rest' hq _ atom text hne ih =>
    rw [List.cons_append, readItems_item hc (Bracket.close?_append hcut t)
      (cutQuantifier?_append ht.quantifier hq), if_neg hne] at h
    exact ⟨h.1, h.2.1, ih h.2.2⟩

/-- The whole pattern that a text belongs to is only quoted in faults. -/
theorem readItems_of_sound {ignoreCase : Bool} {whole s : List Char}
    (h : (readItems ignoreCase whole s).Sound) (whole' : List Char) :
    readItems ignoreCase whole' s = readItems ignoreCase whole s := by
  fun_induction readItems ignoreCase whole s with
  | case1 whole => exact readItems_nil ..
  | case2 whole c s hc => exact h.elim
  | case3 whole c s closing hc hcut => exact h.elim
  | case4 whole c s closing hc inside rest hcut hq => exact h.elim
  | case5 whole s closing inside rest q rest' hq inner hempty hc hcut _ atom text _ ih =>
    rw [readItems_item hc hcut hq, if_pos rfl, if_pos hempty, ih h.2]
  | case6 whole s closing inside rest q rest' hq inner hempty hc hcut _ atom text _ ih =>
    rw [readItems_item hc hcut hq, if_pos rfl, if_neg hempty, ih h.2.2]
  | case7 whole c s closing hc inside rest hcut q rest' hq _ atom text hne ih =>
    rw [readItems_item hc hcut hq, if_neg hne, ih h.2.2]

/-- What can be read does not begin with a quantifier. -/
theorem cutQuantifier?_of_sound {ignoreCase : Bool} {whole : List Char}
    (h : (readItems ignoreCase whole s).Sound) : cutQuantifier? s = some ([], s) := by
  cases s with
  | nil => rfl
  | cons c s =>
    rw [readItems_cons] at h
    cases hc : Bracket.closing? c with
    | none =>
      rw [hc] at h
      exact h.elim
    | some closing =>
      obtain ⟨rfl, -⟩ | ⟨rfl, -⟩ | ⟨rfl, -⟩ := Bracket.closing?_cases hc
      · rfl
      · rfl
      · rfl

theorem readItems_sound_iff (ignoreCase : Bool) (whole whole' s : List Char) :
    (readItems ignoreCase whole s).Sound ↔ (readItems ignoreCase whole' s).Sound := by
  constructor
  · intro h
    rwa [readItems_of_sound h]
  · intro h
    rwa [readItems_of_sound h]

theorem sound_append {p q : Pattern} : (p.append q).Sound ↔ p.Sound ∧ q.Sound := by
  induction p with
  | done => simp [append, Sound]
  | fault => simp [append, Sound]
  | group text inner rest _ ih => simp only [append, Sound, ih, and_assoc]
  | repeatGroup text atom inner bounds rest _ ih => simp only [append, Sound, ih, and_assoc]
  | repeatSet text atom bounds rest ih => simp only [append, Sound, ih, and_assoc]

theorem eq_of_inside? {text inside : List Char} (h : inside? text = some inside) :
    text = '(' :: inside ++ [')'] := by
  unfold inside? at h
  split at h
  · next s =>
    by_cases hlast : s.getLast? = some ')'
    · rw [if_pos hlast] at h
      obtain ⟨body, hs⟩ := List.getLast?_eq_some_iff.mp hlast
      rw [hs, List.dropLast_concat] at h
      rw [hs, Option.some.inj h]
      rfl
    · rw [if_neg hlast] at h
      cases h
  · cases h

theorem inside?_enclosed (inside : List Char) :
    inside? ('(' :: inside ++ [')']) = some inside := by
  have hlast : (inside ++ [')']).getLast? = some ')' := List.getLast?_concat
  rw [List.cons_append, inside?, if_pos hlast, List.dropLast_concat]

theorem readGroup_enclosed (ignoreCase : Bool) (inside : List Char) :
    readGroup ignoreCase ('(' :: inside ++ [')']) = read ignoreCase inside := by
  rw [readGroup, inside?_enclosed]

end Pattern

end NamePattern
