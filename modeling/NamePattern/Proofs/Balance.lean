import NamePattern.Pattern.Error

/-! A cut ends at the bracket that is closed where a balanced text ends. -/
namespace NamePattern.Bracket

/-- Balanced for a pair of brackets: no beginning of the text closes more brackets than it opens,
and the whole text closes all of them. -/
def Balanced (opening closing : Char) (t : List Char) : Prop :=
  (∀ u, u <+: t → u.count closing ≤ u.count opening) ∧ t.count opening = t.count closing

/-- Behind `depth` open brackets, a text closes these and its own, and no beginning of it closes
more. -/
def Closes (opening closing : Char) (depth : Nat) (t : List Char) : Prop :=
  (∀ u, u <+: t → u.count closing ≤ u.count opening + depth) ∧
    t.count closing = t.count opening + depth

variable {o c d : Char} {depth : Nat} {t inside rest : List Char}

theorem closing?_cases (h : closing? o = some c) :
    (o = '(' ∧ c = ')') ∨ (o = '<' ∧ c = '>') ∨ (o = '[' ∧ c = ']') := by
  unfold closing? at h
  split at h
  · exact .inl ⟨rfl, (Option.some.inj h).symm⟩
  · exact .inr (.inl ⟨rfl, (Option.some.inj h).symm⟩)
  · exact .inr (.inr ⟨rfl, (Option.some.inj h).symm⟩)
  · simp at h

theorem ne_of_closing? (h : closing? o = some c) : o ≠ c := by
  obtain ⟨ho, hc⟩ | ⟨ho, hc⟩ | ⟨ho, hc⟩ := closing?_cases h
  · rw [ho, hc]
    decide
  · rw [ho, hc]
    decide
  · rw [ho, hc]
    decide

theorem balanced_iff_closes : Balanced o c t ↔ Closes o c 0 t :=
  and_congr_right fun _ => eq_comm

theorem closes_nil : Closes o c depth [] ↔ depth = 0 := by
  unfold Closes
  simp [eq_comm]

theorem closes_cons : Closes o c depth (d :: t) ↔
    (∀ u, u <+: t → (d :: u).count c ≤ (d :: u).count o + depth) ∧
      (d :: t).count c = (d :: t).count o + depth := by
  unfold Closes
  refine and_congr_left fun _ => ⟨fun h u hu => ?_, fun h u hu => ?_⟩
  · exact h (d :: u) (List.cons_prefix_cons.mpr ⟨rfl, hu⟩)
  · obtain hnil | ⟨v, hv, hprefix⟩ := List.prefix_cons_iff.mp hu
    · rw [hnil]
      exact Nat.zero_le _
    · rw [hv]
      exact h v hprefix

theorem closes_cons_opening (hne : o ≠ c) :
    Closes o c depth (o :: t) ↔ Closes o c (depth + 1) t := by
  rw [closes_cons]
  unfold Closes
  simp only [List.count_cons_self, List.count_cons_of_ne hne, Nat.add_assoc, Nat.add_comm 1 depth]

theorem closes_cons_closing (hne : o ≠ c) :
    Closes o c (depth + 1) (c :: t) ↔ Closes o c depth t := by
  rw [closes_cons]
  unfold Closes
  simp only [List.count_cons_self, List.count_cons_of_ne hne.symm, ← Nat.add_assoc,
    Nat.add_le_add_iff_right, Nat.add_right_cancel_iff]

/-- Nothing is open that the first bracket could close. -/
theorem not_closes_zero_closing (hne : o ≠ c) : ¬ Closes o c 0 (c :: t) := by
  intro h
  have hfirst := (closes_cons.mp h).1 [] (List.nil_prefix ..)
  simp [hne.symm] at hfirst

theorem closes_cons_other (ho : d ≠ o) (hc : d ≠ c) :
    Closes o c depth (d :: t) ↔ Closes o c depth t := by
  rw [closes_cons]
  unfold Closes
  simp only [List.count_cons_of_ne ho, List.count_cons_of_ne hc]

/-- Cutting the rest of a text, if what comes before the rest is put back in front. -/
private theorem map_cons_eq_some_iff {x : Option (List Char × List Char)} :
    (x.map fun (i, r) => (d :: i, r)) = some (inside, rest) ↔
      ∃ i, inside = d :: i ∧ x = some (i, rest) := by
  constructor
  · intro h
    obtain ⟨⟨i, r⟩, hx, heq⟩ := Option.map_eq_some_iff.mp h
    obtain ⟨hi, hr⟩ := Prod.mk.inj heq
    exact ⟨i, hi.symm, hr ▸ hx⟩
  · intro h
    obtain ⟨i, hi, hx⟩ := h
    rw [hx, hi]
    rfl

/-- A text is divided as its rest is, if the first character is not where it is divided. -/
private theorem divide_cons {depth' : Nat} (hd : d ≠ c ∨ ¬ Closes o c depth [])
    (hrest : ∀ i, Closes o c depth (d :: i) ↔ Closes o c depth' i) :
    (d :: t = inside ++ c :: rest ∧ Closes o c depth inside) ↔
      ∃ i, inside = d :: i ∧ t = i ++ c :: rest ∧ Closes o c depth' i := by
  constructor
  · intro h
    obtain ⟨htext, hcloses⟩ := h
    cases inside with
    | nil =>
      have hdc : d = c := (List.cons.inj htext).1
      exact absurd hcloses (hd.resolve_left fun hne => hne hdc)
    | cons e i =>
      obtain ⟨hde, htail⟩ := List.cons.inj htext
      rw [← hde] at hcloses ⊢
      exact ⟨i, rfl, htail, (hrest i).mp hcloses⟩
  · intro h
    obtain ⟨i, hinside, htail, hcloses⟩ := h
    rw [hinside, htail]
    exact ⟨rfl, (hrest i).mpr hcloses⟩

theorem cut?_eq_some_iff_closes (hne : o ≠ c) :
    cut? o c depth t = some (inside, rest) ↔ t = inside ++ c :: rest ∧ Closes o c depth inside := by
  induction t generalizing depth inside with
  | nil => simp [cut?]
  | cons d t ih =>
    simp only [cut?]
    by_cases ho : d = o
    · have hdc : d ≠ c := fun h => hne (ho.symm.trans h)
      have hrest (i : List Char) : Closes o c depth (d :: i) ↔ Closes o c (depth + 1) i := by
        rw [ho]
        exact closes_cons_opening hne
      rw [if_pos ho, map_cons_eq_some_iff, divide_cons (.inl hdc) hrest]
      simp only [ih]
    rw [if_neg ho]
    by_cases hc : d = c
    · rw [if_pos hc]
      cases depth with
      | zero =>
        constructor
        · intro h
          cases h
          exact ⟨by rw [hc, List.nil_append], closes_nil.mpr rfl⟩
        · intro h
          obtain ⟨htext, hcloses⟩ := h
          cases inside with
          | nil => rw [(List.cons.inj htext).2]
          | cons e i =>
            have hec : e = c := (List.cons.inj htext).1.symm.trans hc
            rw [hec] at hcloses
            exact absurd hcloses (not_closes_zero_closing hne)
      | succ depth =>
        have hnil : ¬ Closes o c (depth + 1) [] := fun h => Nat.succ_ne_zero _ (closes_nil.mp h)
        have hrest (i : List Char) : Closes o c (depth + 1) (d :: i) ↔ Closes o c depth i := by
          rw [hc]
          exact closes_cons_closing hne
        rw [map_cons_eq_some_iff, divide_cons (.inr hnil) hrest]
        simp only [ih]
    · have hrest (i : List Char) : Closes o c depth (d :: i) ↔ Closes o c depth i :=
        closes_cons_other ho hc
      rw [if_neg hc, map_cons_eq_some_iff, divide_cons (.inl hc) hrest]
      simp only [ih]

/-- A cut finds the only balanced beginning that a closing bracket follows. -/
theorem cut?_eq_some_iff (hne : o ≠ c) :
    cut? o c 0 t = some (inside, rest) ↔ t = inside ++ c :: rest ∧ Balanced o c inside := by
  rw [cut?_eq_some_iff_closes hne, balanced_iff_closes]

/-- A balanced text is what is cut off at a closing bracket that is put behind it. -/
theorem balanced_iff_cut? (hne : o ≠ c) : Balanced o c t ↔ cut? o c 0 (t ++ [c]) = some (t, []) := by
  rw [cut?_eq_some_iff hne]
  exact (and_iff_right rfl).symm

theorem enclosed_unique {inside' rest' : List Char} (hne : o ≠ c) (h : Balanced o c inside)
    (h' : Balanced o c inside') (heq : inside ++ c :: rest = inside' ++ c :: rest') :
    inside = inside' ∧ rest = rest' := by
  have hcut := (cut?_eq_some_iff hne).mpr ⟨heq.symm, h⟩
  have hcut' : cut? o c 0 (inside' ++ c :: rest') = some (inside', rest') :=
    (cut?_eq_some_iff hne).mpr ⟨rfl, h'⟩
  exact Prod.mk.inj (Option.some.inj (hcut.symm.trans hcut'))

/-- A reader of patterns finds it if it can count the brackets up to there. -/
theorem close?_eq_some_iff (hne : o ≠ c) : close? o c t = some (inside, rest) ↔
    t = inside ++ c :: rest ∧ Balanced o c inside ∧ Countable o inside := by
  rw [close?_eq_some_iff_cut?, cut?_eq_some_iff hne, and_assoc]

theorem close?_eq_none_iff : close? o c t = none ↔
    ∀ inside rest, cut? o c 0 t = some (inside, rest) → ¬ Countable o inside := by
  rw [close?, Option.filter_eq_none_iff]
  simp

theorem Countable.mono {u : List Char} (h : Countable o t) (hsub : u.Sublist t) : Countable o u :=
  Nat.lt_of_le_of_lt (Nat.succ_le_succ (hsub.count_le o)) h

/-- A text without opening brackets. -/
theorem Countable.of_not_mem (h : o ∉ t) : Countable o t := by
  rw [Countable, List.count_eq_zero_of_not_mem h]
  decide

theorem close?_of_balanced (hne : o ≠ c) (h : Balanced o c inside) (hcountable : Countable o inside)
    (rest : List Char) : close? o c (inside ++ c :: rest) = some (inside, rest) :=
  (close?_eq_some_iff hne).mpr ⟨rfl, h, hcountable⟩

theorem close?_of_not_countable (hne : o ≠ c) (h : Balanced o c inside)
    (hnot : ¬ Countable o inside) (rest : List Char) : close? o c (inside ++ c :: rest) = none := by
  have hcut : cut? o c 0 (inside ++ c :: rest) = some (inside, rest) :=
    (cut?_eq_some_iff hne).mpr ⟨rfl, h⟩
  refine close?_eq_none_iff.mpr fun inside' rest' hcut' => ?_
  cases hcut.symm.trans hcut'
  exact hnot

/-- A counter overflows where there is a closing bracket, but too many opening ones before it. -/
theorem unclosed_of_cut? (hcut : cut? o c 0 t = some (inside, rest)) (h : ¬ Countable o inside)
    (pattern : List Char) : Fault.unclosed o t pattern = .overflow pattern := by
  have hsub : inside.Sublist t := append_of_cut? hcut ▸ List.sublist_append_left ..
  exact Fault.unclosed_of_not_countable (fun ht => h (ht.mono hsub)) pattern

theorem unclosed_of_balanced (hne : o ≠ c) (h : Balanced o c inside) (hnot : ¬ Countable o inside)
    (rest pattern : List Char) :
    Fault.unclosed o (inside ++ c :: rest) pattern = .overflow pattern :=
  unclosed_of_cut? ((cut?_eq_some_iff hne).mpr ⟨rfl, h⟩) hnot pattern

end NamePattern.Bracket
