import NamePattern.Proofs.DotRegex
import NamePattern.Proofs.Meaning

/-! What `^` and `$` mean: where a match begins, and where it ends. -/
namespace NamePattern

open NameRegex (wildcard)

namespace Pattern

/-- A wildcard neither closes what a text leaves open nor repeats its last item. -/
theorem inert_wildcard : Inert wildcard where
  opens {c closing} h depth := by
    unfold Bracket.closing? at h
    split at h
    · cases h
      rfl
    · cases h
      cases depth <;> rfl
    · cases h
      rfl
    · simp at h
  brace := by decide
  quantifier := rfl

/-- Any run, as long as it has no more components than a name can have, and then a pattern. -/
def anything (rest : Pattern) : Pattern :=
  .repeatSet wildcard ⟨['<', '.', '*', '>'], true, [⟨['.', '*'], some CharRegex.dots⟩], none⟩
    (.ok ⟨0, Bounds.unbounded, Nat.zero_le _⟩) rest

theorem read_dots (ignoreCase : Bool) : MemberSet.read ignoreCase ['<', '.', '*', '>'] =
    ⟨['<', '.', '*', '>'], true, [⟨['.', '*'], some CharRegex.dots⟩], none⟩ := by
  have hmember : Member.read ignoreCase ['.', '*'] = .ok ⟨['.', '*'], some CharRegex.dots⟩ := by
    unfold Member.read
    rw [CharRegex.readWhole?_dots]
    rfl
  have hcut : Bracket.close? '<' '>' ['.', '*', '>'] = some (['.', '*'], []) := rfl
  simp only [MemberSet.read, hcut, hmember]

theorem readItems_wildcard (ignoreCase : Bool) (whole s : List Char) :
    readItems ignoreCase whole (wildcard ++ s) = anything (readItems ignoreCase whole s) := by
  have hclosing : Bracket.closing? '<' = some '>' := rfl
  have hcut : Bracket.close? '<' '>' (['.', '*', '>', '*'] ++ s) = some (['.', '*'], '*' :: s) := rfl
  have hquantifier : cutQuantifier? ('*' :: s) = some (['*'], s) := rfl
  have hbounds : Bounds.read wildcard ['*'] = .ok ⟨0, Bounds.unbounded, Nat.zero_le _⟩ := rfl
  refine (readItems_item hclosing hcut hquantifier).trans ?_
  rw [if_neg (by decide)]
  change repeatSet _ (.read ignoreCase ['<', '.', '*', '>']) (Bounds.read wildcard ['*']) _ = _
  rw [read_dots, hbounds]
  rfl

theorem sound_anything {rest : Pattern} : (anything rest).Sound ↔ rest.Sound := by
  simp [anything, Sound]

theorem language_anything {rest : Pattern} {w : List Component} (hw : w.length ≤ Text.maxNumber) :
    (anything rest).Language w ↔ ∃ u v, w = u ++ v ∧ rest.Language v := by
  have haccepts (c : Component) : Member.Accepts ⟨['.', '*'], some CharRegex.dots⟩ c := by
    intro regex hregex
    cases hregex
    exact CharRegex.dots_accepts c
  rw [anything, Language, exists_ok_iff]
  constructor
  · rintro ⟨u, v, rfl, -, hv⟩
    exact ⟨u, v, rfl, hv⟩
  · rintro ⟨u, v, rfl, hv⟩
    rw [List.length_append] at hw
    have hmax : u.length ≤ Bounds.unbounded := Nat.le_trans (Nat.le_add_right ..) hw
    refine ⟨u, v, rfl, Bounds.repeats_one_each.mpr ⟨Nat.zero_le _, hmax, fun c _ => ?_⟩, hv⟩
    simpa using haccepts c

end Pattern

namespace NameRegex

variable {ignoreCase : Bool} {e text template : List Char} {r : NameRegex} {n : Name}

/-- A pattern with the anchors that are asked for. -/
def anchor (opening closing : Bool) (e : List Char) : List Char :=
  (if opening then ['^'] else []) ++ e ++ if closing then ['$'] else []

/-- What stands behind a pattern in place of the anchor at its end. -/
def tail (closing : Bool) : List Char := if closing then [] else wildcard

theorem closeEnd_anchor (hlast : e.getLast? ≠ some '$') (opening closing : Bool) :
    closeEnd (anchor opening closing e) = (if opening then ['^'] else []) ++ (e ++ tail closing) := by
  unfold closeEnd anchor tail
  cases closing with
  | true =>
    rw [if_pos rfl, if_pos List.getLast?_concat, List.dropLast_concat, if_pos rfl, List.append_nil]
  | false =>
    have hopen : ((if opening then ['^'] else []) ++ e ++ []).getLast? ≠ some '$' := by
      cases e with
      | nil => cases opening <;> simp
      | cons c e => cases opening <;> simpa using hlast
    rw [if_neg Bool.false_ne_true, if_neg hopen]
    simp

theorem forms_anchor (hhead : e.head? ≠ some '^') (hlast : e.getLast? ≠ some '$')
    (opening closing : Bool) :
    forms (anchor opening closing e) =
      (e ++ tail closing, if opening then none else some (wildcard ++ (e ++ tail closing))) := by
  unfold forms
  rw [closeEnd_anchor hlast]
  cases opening with
  | true => rfl
  | false =>
    have hne : (e ++ tail closing).head? ≠ some '^' := by
      cases e with
      | nil => cases closing <;> decide
      | cons c e => simpa using hhead
    simp only [Bool.false_eq_true, if_false, List.nil_append]
    split
    · next body h =>
      rw [h] at hne
      exact absurd rfl hne
    · rfl

theorem mapM_some_eq_ok {ε α β : Type} {f : α → Except ε β} {x : α} {y : Option β} :
    (some x).mapM f = .ok y ↔ ∃ v, f x = .ok v ∧ y = some v := by
  cases hf : f x with
  | error e => simp [hf, Functor.map, Except.map]
  | ok v => simp [hf, Functor.map, Except.map, eq_comm]

theorem compile_eq_ok : compile ignoreCase text template = .ok r ↔
    ∃ primary secondary, CompiledPattern.compile ignoreCase (forms text).1 = .ok primary ∧
      (forms text).2.mapM (CompiledPattern.compile ignoreCase) = .ok secondary ∧
        r = ⟨text, template, primary, secondary, .unmatched primary.groups⟩ := by
  unfold compile
  cases hp : CompiledPattern.compile ignoreCase (forms text).1 with
  | error e => simp [hp, bind, Except.bind]
  | ok primary =>
    cases hs : (forms text).2.mapM (CompiledPattern.compile ignoreCase) with
    | error e => simp [hp, hs, bind, Except.bind]
    | ok secondary => simp [hp, hs, bind, Except.bind, pure, Except.pure, eq_comm]

theorem inert_tail (closing : Bool) : Pattern.Inert (tail closing) := by
  cases closing with
  | true => exact .nil
  | false => exact Pattern.inert_wildcard

theorem readItems_tail (ignoreCase : Bool) (whole : List Char) (closing : Bool) :
    Pattern.readItems ignoreCase whole (tail closing) =
      if closing then .done else Pattern.anything .done := by
  cases closing with
  | true => exact Pattern.readItems_nil ..
  | false =>
    rw [tail, if_neg Bool.false_ne_true, ← List.append_nil wildcard, Pattern.readItems_wildcard,
      Pattern.readItems_nil]
    rfl

/-- What stands behind a pattern takes nothing if the end is closed, and anything otherwise. -/
theorem language_tail {whole : List Char} {closing : Bool} {w : List Component}
    (hw : w.length ≤ Text.maxNumber) :
    (Pattern.readItems ignoreCase whole (tail closing)).Language w ↔ (closing = true → w = []) := by
  rw [readItems_tail]
  cases closing with
  | true => simp [Pattern.Language]
  | false =>
    rw [if_neg Bool.false_ne_true, Pattern.language_anything hw]
    simp only [Bool.false_eq_true, false_implies, iff_true]
    exact ⟨w, [], (List.append_nil w).symm, rfl⟩

/-- What stands behind a pattern neither completes nor breaks it. -/
theorem sound_tail {whole : List Char} {closing : Bool} :
    (Pattern.readItems ignoreCase whole (e ++ tail closing)).Sound ↔
      (Pattern.read ignoreCase e).Sound := by
  have hinert := inert_tail closing
  have htail : (if closing then .done else Pattern.anything .done : Pattern).Sound := by
    cases closing with
    | true => trivial
    | false => exact Pattern.sound_anything.mpr trivial
  constructor
  · intro h
    exact (Pattern.readItems_sound_iff ..).mp (Pattern.sound_of_append hinert h)
  · intro h
    have hsound := (Pattern.readItems_sound_iff ignoreCase e whole e).mp h
    rw [Pattern.readItems_append hinert.quantifier hsound, Pattern.sound_append, readItems_tail]
    exact ⟨hsound, htail⟩

/-- A pattern with what stands behind it matches if the pattern matches a beginning, all of the name
if the end is closed. -/
theorem language_append_tail {whole : List Char} {closing : Bool} {w : List Component}
    (hsound : (Pattern.read ignoreCase e).Sound) (hw : w.length ≤ Text.maxNumber) :
    (Pattern.readItems ignoreCase whole (e ++ tail closing)).Language w ↔
      ∃ u v, w = u ++ v ∧ (Pattern.read ignoreCase e).Language u ∧ (closing = true → v = []) := by
  have hsound' := (Pattern.readItems_sound_iff ignoreCase e whole e).mp hsound
  rw [Pattern.readItems_append (inert_tail closing).quantifier hsound', Pattern.language_append,
    Pattern.readItems_of_sound hsound whole]
  constructor
  · rintro ⟨u, v, rfl, hu, hv⟩
    rw [List.length_append] at hw
    exact ⟨u, v, rfl, hu, (language_tail (by omega)).mp hv⟩
  · rintro ⟨u, v, rfl, hu, hv⟩
    rw [List.length_append] at hw
    exact ⟨u, v, rfl, hu, (language_tail (by omega)).mpr hv⟩

/-- From position `i` on, a pattern matches components of a name, and all of them if the end is
closed. -/
def MatchesFrom (p : Pattern) (closing : Bool) (n : Name) (i : Nat) : Prop :=
  ∃ j, i ≤ j ∧ j ≤ n.length ∧ (closing = true → j = n.length) ∧
    p.Language (n.subName i (j - i)).components

theorem matchesFrom_iff {p : Pattern} {closing : Bool} {i : Nat} (hi : i ≤ n.length) :
    MatchesFrom p closing n i ↔
      ∃ u v, n.components.drop i = u ++ v ∧ p.Language u ∧ (closing = true → v = []) := by
  have hlen : (n.components.drop i).length = n.length - i := List.length_drop
  constructor
  · rintro ⟨j, hij, hj, hclosing, hp⟩
    refine ⟨_, _, (List.take_append_drop (j - i) _).symm, hp, fun hc => ?_⟩
    rw [hclosing hc, ← hlen]
    exact List.drop_length
  · rintro ⟨u, v, h, hp, hclosing⟩
    have huv := congrArg List.length h
    rw [hlen, List.length_append] at huv
    refine ⟨i + u.length, Nat.le_add_right .., by omega, fun hc => ?_, ?_⟩
    · rw [hclosing hc, List.length_nil] at huv
      omega
    · unfold Name.subName
      rw [h, Nat.add_sub_cancel_left, List.take_left]
      exact hp

section

variable {opening closing : Bool} (hhead : e.head? ≠ some '^') (hlast : e.getLast? ≠ some '$')

include hhead hlast

theorem forms_of_compile (h : compile ignoreCase (anchor opening closing e) template = .ok r) :
    CompiledPattern.compile ignoreCase (e ++ tail closing) = .ok r.primary ∧
      (opening = true → r.secondary = none) ∧
        (opening = false → ∃ q, r.secondary = some q ∧
          CompiledPattern.compile ignoreCase (wildcard ++ (e ++ tail closing)) = .ok q) := by
  obtain ⟨primary, secondary, hprimary, hsecondary, rfl⟩ := compile_eq_ok.mp h
  rw [forms_anchor hhead hlast] at hprimary hsecondary
  refine ⟨hprimary, fun ho => ?_, fun ho => ?_⟩
  · subst ho
    cases hsecondary
    rfl
  · subst ho
    obtain ⟨q, hq, hsome⟩ := mapM_some_eq_ok.mp hsecondary
    exact ⟨q, hsome, hq⟩

theorem sound_of_compile (h : compile ignoreCase (anchor opening closing e) template = .ok r) :
    (Pattern.read ignoreCase e).Sound := by
  obtain ⟨hprimary, -⟩ := forms_of_compile hhead hlast h
  exact sound_tail.mp ((CompiledPattern.compile_isOk_iff ..).mp ⟨_, hprimary⟩)

/-- Anchors do not decide whether a regex compiles. -/
theorem compile_anchor_isOk_iff :
    (∃ r, compile ignoreCase (anchor opening closing e) template = .ok r) ↔
      (Pattern.read ignoreCase e).Sound := by
  constructor
  · rintro ⟨r, h⟩
    exact sound_of_compile hhead hlast h
  · intro h
    obtain ⟨primary, hprimary⟩ :=
      (CompiledPattern.compile_isOk_iff ignoreCase (e ++ tail closing)).mpr (sound_tail.mpr h)
    have hsound : (Pattern.read ignoreCase (wildcard ++ (e ++ tail closing))).Sound := by
      unfold Pattern.read
      rw [Pattern.readItems_wildcard, Pattern.sound_anything]
      exact sound_tail.mpr h
    obtain ⟨q, hq⟩ := (CompiledPattern.compile_isOk_iff ..).mpr hsound
    refine ⟨_, compile_eq_ok.mpr ⟨primary, if opening then none else some q, ?_, ?_, rfl⟩⟩
    · rw [forms_anchor hhead hlast]
      exact hprimary
    · rw [forms_anchor hhead hlast]
      cases opening with
      | true => rfl
      | false => exact mapM_some_eq_ok.mpr ⟨q, hq, rfl⟩

theorem primary_isSome (h : compile ignoreCase (anchor opening closing e) template = .ok r)
    (hn : n.length ≤ Text.maxNumber) :
    (r.primary.captures n).isSome = true ↔ MatchesFrom (Pattern.read ignoreCase e) closing n 0 := by
  have hsound := sound_of_compile hhead hlast h
  obtain ⟨hprimary, -⟩ := forms_of_compile hhead hlast h
  rw [CompiledPattern.captures_isSome hprimary, matchesFrom_iff (Nat.zero_le _)]
  exact language_append_tail hsound hn

theorem secondary_isSome (h : compile ignoreCase (anchor false closing e) template = .ok r)
    (hn : n.length ≤ Text.maxNumber) :
    ∃ q, r.secondary = some q ∧ ((q.captures n).isSome = true ↔
      ∃ i ≤ n.length, MatchesFrom (Pattern.read ignoreCase e) closing n i) := by
  have hsound := sound_of_compile hhead hlast h
  obtain ⟨-, -, hsecondary⟩ := forms_of_compile hhead hlast h
  obtain ⟨q, hq, hcompile⟩ := hsecondary rfl
  refine ⟨q, hq, ?_⟩
  rw [CompiledPattern.captures_isSome hcompile, Pattern.read, Pattern.readItems_wildcard,
    Pattern.language_anything hn]
  constructor
  · rintro ⟨x, y, hxy, hy⟩
    have hlen := congrArg List.length hxy
    rw [List.length_append] at hlen
    have hlen : x.length + y.length = n.length := hlen.symm
    refine ⟨x.length, by omega, (matchesFrom_iff (by omega)).mpr ?_⟩
    rw [hxy, List.drop_left]
    exact (language_append_tail hsound (by omega)).mp hy
  · -- The wildcard in front takes what stands before position `i`.
    rintro ⟨i, hi, hmatch⟩
    have hlen : (n.components.drop i).length ≤ Text.maxNumber := by
      rw [List.length_drop]
      exact Nat.le_trans (Nat.sub_le ..) hn
    refine ⟨n.components.take i, n.components.drop i, (List.take_append_drop ..).symm, ?_⟩
    exact (language_append_tail hsound hlen).mpr ((matchesFrom_iff hi).mp hmatch)

end

theorem captures_eq_some {c : Captures} (h : r.captures n = some c) :
    r.primary.captures n = some c ∨ r.primary.captures n = none ∧
      ∃ q d, r.secondary = some q ∧ q.captures n = some d ∧ c = { d with secondary := true } := by
  unfold captures at h
  split at h
  · next hc => exact .inl (hc.trans h)
  · next hc =>
    obtain ⟨q, hq, h⟩ := Option.bind_eq_some_iff.mp h
    obtain ⟨d, hd, h⟩ := Option.bind_eq_some_iff.mp h
    cases h
    exact .inr ⟨hc, q, d, hq, hd, rfl⟩

theorem captures_isSome_iff : (r.captures n).isSome = true ↔
    (r.primary.captures n).isSome = true ∨
      ∃ q, r.secondary = some q ∧ (q.captures n).isSome = true := by
  unfold captures
  cases hc : r.primary.captures n with
  | some c => simp
  | none =>
    cases hq : r.secondary with
    | none => simp
    | some q => cases hd : q.captures n <;> simp [hd]

theorem matchesFrom_compiled {p : CompiledPattern} (h : CompiledPattern.compile ignoreCase e = .ok p)
    {closing : Bool} {i : Nat} : MatchesFrom (Pattern.read ignoreCase e) closing n i ↔
      ∃ j, i ≤ j ∧ j ≤ n.length ∧ (closing = true → j = n.length) ∧
        (p.arena.matchAt p.root n i (j - i)).isSome = true := by
  constructor
  · rintro ⟨j, hij, hj, hclosing, hmatch⟩
    exact ⟨j, hij, hj, hclosing, (CompiledPattern.matchAt_isSome h (by omega)).mpr hmatch⟩
  · rintro ⟨j, hij, hj, hclosing, hmatch⟩
    exact ⟨j, hij, hj, hclosing, (CompiledPattern.matchAt_isSome h (by omega)).mp hmatch⟩

/-- With the anchors that it has, a regex matches if the pattern between them does somewhere in the
name. -/
theorem isMatch_anchor {opening closing : Bool} (hhead : e.head? ≠ some '^')
    (hlast : e.getLast? ≠ some '$')
    (h : compile ignoreCase (anchor opening closing e) template = .ok r)
    (hn : n.length ≤ Text.maxNumber) :
    r.isMatch n = true ↔ ∃ i ≤ n.length, (opening = true → i = 0) ∧
      MatchesFrom (Pattern.read ignoreCase e) closing n i := by
  have hprimary := primary_isSome hhead hlast h hn
  unfold isMatch
  rw [captures_isSome_iff, hprimary]
  cases opening with
  | true =>
    obtain ⟨-, hsecondary, -⟩ := forms_of_compile hhead hlast h
    constructor
    · rintro (hmatch | ⟨q, hq, -⟩)
      · exact ⟨0, Nat.zero_le _, fun _ => rfl, hmatch⟩
      · rw [hsecondary rfl] at hq
        cases hq
    · rintro ⟨i, -, hi, hmatch⟩
      exact .inl (hi rfl ▸ hmatch)
  | false =>
    obtain ⟨q, hq, hsecondary⟩ := secondary_isSome hhead hlast h hn
    constructor
    · rintro (hmatch | ⟨q', hq', hmatch⟩)
      · exact ⟨0, Nat.zero_le _, fun _ => rfl, hmatch⟩
      · rw [hq] at hq'
        cases hq'
        obtain ⟨i, hi, hmatch⟩ := hsecondary.mp hmatch
        exact ⟨i, hi, fun ho => absurd ho Bool.false_ne_true, hmatch⟩
    · rintro ⟨i, hi, -, hmatch⟩
      exact .inr ⟨q, hq, hsecondary.mpr ⟨i, hi, hmatch⟩⟩

/-- A match is about the whole name, and secondary if there is none from the first component on. -/
theorem captures_anchor {opening closing : Bool} (hhead : e.head? ≠ some '^')
    (hlast : e.getLast? ≠ some '$')
    (h : compile ignoreCase (anchor opening closing e) template = .ok r)
    (hn : n.length ≤ Text.maxNumber) {c : Captures} (hc : r.captures n = some c) :
    c.result = n.components ∧ (c.secondary = true ↔
      opening = false ∧ ¬ MatchesFrom (Pattern.read ignoreCase e) closing n 0) := by
  have hprimary := primary_isSome hhead hlast h hn
  obtain ⟨-, hnone, -⟩ := forms_of_compile hhead hlast h
  rcases captures_eq_some hc with hp | ⟨hp, q, d, hq, hd, rfl⟩
  · obtain ⟨hresult, hsecondary⟩ := CompiledPattern.result_of_captures hp
    have hmatch := hprimary.mp (Option.isSome_of_eq_some hp)
    refine ⟨hresult, ?_⟩
    simp [hsecondary, hmatch]
  · obtain ⟨hresult, -⟩ := CompiledPattern.result_of_captures hd
    have hmatch : ¬ MatchesFrom (Pattern.read ignoreCase e) closing n 0 := by
      rw [← hprimary, hp]
      exact Bool.false_ne_true
    have hopening : opening = false := by
      cases opening with
      | true =>
        rw [hnone rfl] at hq
        cases hq
      | false => rfl
    exact ⟨hresult, by simp [hopening, hmatch]⟩

theorem matchName_of_isMatch (h : r.isMatch n = true) :
    ∃ c, r.captures n = some c ∧ r.matchName n = (true, { r with last := c }) := by
  obtain ⟨c, hc⟩ := Option.isSome_iff_exists.mp h
  refine ⟨c, hc, ?_⟩
  unfold matchName
  rw [hc]

/-- Anchors say where the match of a pattern begins and ends, and nothing else: the pattern compiles
between any of them, `^` asks for the first component, and `$` for the last. The match is secondary
if it begins behind the first component and could not begin there. No name has more components than
a number can count. -/
theorem matching_between_anchors (ignoreCase opening closing : Bool) (template : List Char)
    (hhead : e.head? ≠ some '^') (hlast : e.getLast? ≠ some '$') :
    ((∃ r, compile ignoreCase (anchor opening closing e) template = .ok r) ↔
        ∃ p, CompiledPattern.compile ignoreCase e = .ok p) ∧
      ∀ r p, compile ignoreCase (anchor opening closing e) template = .ok r →
        CompiledPattern.compile ignoreCase e = .ok p →
        ∀ n : Name, n.length ≤ Text.maxNumber →
          (r.isMatch n = true ↔ ∃ i j, i ≤ j ∧ j ≤ n.length ∧ (opening = true → i = 0) ∧
              (closing = true → j = n.length) ∧
              (p.arena.matchAt p.root n i (j - i)).isSome = true) ∧
            (r.isMatch n = true → ∃ c, r.matchName n = (true, { r with last := c }) ∧
              c.result = n.components ∧
              (c.secondary = true ↔ opening = false ∧
                ¬ ∃ j, j ≤ n.length ∧ (closing = true → j = n.length) ∧
                  (p.arena.matchAt p.root n 0 j).isSome = true)) := by
  refine ⟨?_, fun r p hr hp n hn => ⟨?_, fun hmatch => ?_⟩⟩
  · rw [compile_anchor_isOk_iff hhead hlast, CompiledPattern.compile_isOk_iff]
  · rw [isMatch_anchor hhead hlast hr hn]
    constructor
    · rintro ⟨i, -, hopening, hmatch⟩
      obtain ⟨j, hij, hj, hclosing, hmatch⟩ := (matchesFrom_compiled hp).mp hmatch
      exact ⟨i, j, hij, hj, hopening, hclosing, hmatch⟩
    · rintro ⟨i, j, hij, hj, hopening, hclosing, hmatch⟩
      exact ⟨i, Nat.le_trans hij hj, hopening,
        (matchesFrom_compiled hp).mpr ⟨j, hij, hj, hclosing, hmatch⟩⟩
  · obtain ⟨c, hc, hlast'⟩ := matchName_of_isMatch hmatch
    obtain ⟨hresult, hsecondary⟩ := captures_anchor hhead hlast hr hn hc
    refine ⟨c, hlast', hresult, ?_⟩
    rw [hsecondary, matchesFrom_compiled hp]
    simp

/-- The pattern `<>$` matches the second of two components, and only behind the first. -/
theorem matching_between_anchors_last : ∃ r c, compile false ['<', '>', '$'] [] = .ok r ∧
    r.matchName ⟨[⟨[97]⟩, ⟨[98]⟩]⟩ = (true, { r with last := c }) ∧
      c.result = [⟨[97]⟩, ⟨[98]⟩] ∧ c.secondary = true := by
  let n : Name := ⟨[⟨[97]⟩, ⟨[98]⟩]⟩
  have hread : Pattern.read false ['<', '>'] = .member ⟨[], none⟩ .done := by
    have h : Pattern.readItems false ['<', '>'] ('<' :: [] ++ ['>'] ++ []) =
        .member ⟨[], none⟩ (Pattern.readItems false ['<', '>'] []) :=
      Pattern.readItems_member (m := ⟨[], none⟩) (by simp) rfl rfl
    rw [Pattern.readItems_nil] at h
    exact h
  obtain ⟨p, hp⟩ := (CompiledPattern.compile_isOk_iff false ['<', '>']).mpr
    (hread ▸ Pattern.sound_member.mpr trivial)
  have hall := matching_between_anchors (e := ['<', '>']) false false true [] (by decide) (by decide)
  obtain ⟨r, hr⟩ := hall.1.mpr ⟨p, hp⟩
  obtain ⟨hmatch, hcaptures⟩ := hall.2 r p hr hp n (by decide)
  have hsecond : (p.arena.matchAt p.root n 1 1).isSome = true := by
    rw [CompiledPattern.matchAt_isSome hp (by decide), hread, Pattern.language_member]
    exact ⟨⟨[98]⟩, [], rfl, fun _ h => (by cases h), rfl⟩
  have hfirst : ¬ (p.arena.matchAt p.root n 0 2).isSome = true := by
    rw [CompiledPattern.matchAt_isSome hp (by decide), hread, Pattern.language_member]
    rintro ⟨c, v, hv, -, hdone⟩
    cases hv
    cases hdone
  obtain ⟨c, hc, hresult, hsecondary⟩ := hcaptures (hmatch.mpr ⟨1, 2, by decide, by decide,
    fun h => absurd h Bool.false_ne_true, fun _ => rfl, hsecond⟩)
  refine ⟨r, c, hr, hc, hresult, hsecondary.mpr ⟨rfl, ?_⟩⟩
  rintro ⟨j, -, hj, hmatch⟩
  obtain rfl : j = 2 := hj rfl
  exact hfirst hmatch

end NameRegex

end NamePattern
