import NamePattern.Proofs.Quantifiers
import NamePattern.Proofs.Templates

/-! Quantifiers that are refused, each with the one fault that is reported, and bounds that are
written and read back. -/
namespace NamePattern

theorem Text.numeral_toDigits {n : Nat} (h : n < 2 ^ 64) : Numeral (Nat.toDigits 10 n) n where
  ne_nil := Nat.toDigits_ne_nil
  digits c hc := Nat.isDigit_of_mem_toDigits (by decide) (by decide) hc
  value := by
    have hvalue : Nat.ofDigitChars 10 (Nat.toDigits 10 n) 0 = n :=
      Nat.ofDigitChars_toDigits (by decide) (by decide)
    rw [← numeralValue_eq_ofDigits, numeralValue_eq_ofDigitChars, hvalue]
  lt := h

namespace Bounds

/-- Least and greatest number in decimal digits. -/
def render (b : Bounds) : List Char :=
  '{' :: (Nat.toDigits 10 b.min ++ ',' :: Nat.toDigits 10 b.max) ++ ['}']

/-- What is wrong with one bound: it is not one or more digits, or its number takes more than 64
bits. -/
inductive Bad (pattern q : List Char) : List Char → CompileError → Prop
  | shape {s : List Char} (h : ¬ (s ≠ [] ∧ ∀ c ∈ s, c.isDigit = true)) :
      Bad pattern q s (.quantifier pattern q)
  | large {s : List Char} (hne : s ≠ []) (hdigits : ∀ c ∈ s, c.isDigit = true)
      (hvalue : 2 ^ 64 ≤ Nat.ofDigits 10 (s.reverse.map fun c => c.toNat - '0'.toNat)) :
      Bad pattern q s (.overflow pattern s)

/-- The first bad bound of several decides. -/
inductive FirstBad (pattern q : List Char) : List (List Char) → CompileError → Prop
  | here {s : List Char} {e : CompileError} (h : Bad pattern q s e) (later : List (List Char)) :
      FirstBad pattern q (s :: later) e
  | later {s : List Char} {n : Nat} {texts : List (List Char)} {e : CompileError}
      (hs : Text.Numeral s n) (h : FirstBad pattern q texts e) : FirstBad pattern q (s :: texts) e

/-- The bounds in a body, which is divided at its first comma. An empty one is left out if the other
one is there. -/
inductive Divides : List Char → List (List Char) → Prop
  | whole {s : List Char} (hs : ',' ∉ s) : Divides s [s]
  | right (t : List Char) : Divides (',' :: t) [t]
  | left {s : List Char} (hne : s ≠ []) (hs : ',' ∉ s) : Divides (s ++ [',']) [s]
  | both {s t : List Char} (hne : s ≠ []) (hs : ',' ∉ s) (ht : t ≠ []) :
      Divides (s ++ ',' :: t) [s, t]

/-- What is wrong with a quantifier. -/
inductive Refused (pattern q : List Char) : CompileError → Prop
  | shape (hsign : q ∉ [[], ['?'], ['+'], ['*']]) (hbraces : ∀ body, q ≠ '{' :: body ++ ['}']) :
      Refused pattern q (.quantifier pattern q)
  | bound {body : List Char} {texts : List (List Char)} {e : CompileError}
      (hq : q = '{' :: body ++ ['}']) (hbody : Divides body texts)
      (hbad : FirstBad pattern q texts e) : Refused pattern q e
  | reversed {n m : Nat} (hq : Written q n m) (hlt : m < n) : Refused pattern q (.bounds pattern n m)

variable {pattern q s t body : List Char} {texts : List (List Char)} {n m : Nat} {e : CompileError}

theorem readBound_eq_error_iff : readBound pattern q s = .error e ↔ Bad pattern q s e := by
  have hvalue := Text.numeralValue_eq_ofDigits s
  have hmax : Text.maxNumber + 1 = 2 ^ 64 := rfl
  unfold readBound
  by_cases hnum : Text.isNumeral s = true
  · have hdigits := Text.isNumeral_iff.mp hnum
    rw [hnum, if_neg (by decide)]
    by_cases hlarge : Text.maxNumber < Text.numeralValue s
    · rw [if_pos hlarge]
      constructor
      · intro h
        have he : CompileError.overflow pattern s = e := Except.error.inj h
        rw [← he]
        exact .large hdigits.1 hdigits.2 (by omega)
      · intro h
        cases h with
        | shape hshape => exact absurd hdigits hshape
        | large => rfl
    · rw [if_neg hlarge]
      constructor
      · intro h
        cases h
      · intro h
        cases h with
        | shape hshape => exact absurd hdigits hshape
        | large _ _ hle => omega
  · have hshape : ¬ (s ≠ [] ∧ ∀ c ∈ s, c.isDigit = true) := fun h => hnum (Text.isNumeral_iff.mpr h)
    have hnot : (!Text.isNumeral s) = true := by simpa using hnum
    rw [if_pos hnot]
    constructor
    · intro h
      have he : CompileError.quantifier pattern q = e := Except.error.inj h
      rw [← he]
      exact .shape hshape
    · intro h
      cases h with
      | shape => rfl
      | large hne hdigits _ => exact absurd ⟨hne, hdigits⟩ hshape

theorem map_eq_error {ε α β : Type} {x : Except ε α} {f : α → β} {e : ε} :
    x.map f = .error e ↔ x = .error e := by
  cases x <;> simp [Except.map]

theorem firstBad_singleton : FirstBad pattern q [s] e ↔ Bad pattern q s e := by
  constructor
  · intro h
    cases h with
    | here hbad => exact hbad
    | later hs h => cases h
  · intro h
    exact .here h []

theorem no_comma_iff : (∀ c ∈ s, (c != ',') = true) ↔ ',' ∉ s := by
  simp only [bne_iff_ne]
  constructor
  · intro h hmem
    exact h ',' hmem rfl
  · intro h c hc heq
    exact h (heq ▸ hc)

theorem exists_divides (body : List Char) : ∃ texts, Divides body texts := by
  obtain hbody | ⟨s, t, hbody, hs⟩ := body_cases body
  · exact ⟨[body], .whole (no_comma_iff.mp hbody)⟩
  have hcomma := no_comma_iff.mp hs
  rw [hbody]
  by_cases hne : s = []
  · rw [hne]
    exact ⟨[t], .right t⟩
  by_cases ht : t = []
  · rw [ht]
    exact ⟨[s], .left hne hcomma⟩
  · exact ⟨[s, t], .both hne hcomma ht⟩

/-- The bounds of a body are read from left to right. -/
theorem Divides.readBody_eq_error_iff (h : Divides body texts) :
    readBody pattern q body = .error e ↔ FirstBad pattern q texts e := by
  cases h with
  | whole hs =>
    rw [readBody_exactly (no_comma_iff.mpr hs), map_eq_error, readBound_eq_error_iff, firstBad_singleton]
  | right t => rw [readBody_atMost, map_eq_error, readBound_eq_error_iff, firstBad_singleton]
  | left hne hs =>
    rw [readBody_atLeast hne (no_comma_iff.mpr hs), map_eq_error, readBound_eq_error_iff, firstBad_singleton]
  | @both s t hne hs ht =>
    rw [readBody_between hne (no_comma_iff.mpr hs) ht]
    cases hfirst : readBound pattern q s with
    | error e' =>
      have hbad : Bad pattern q s e' := readBound_eq_error_iff.mp hfirst
      constructor
      · intro h
        have he : e' = e := Except.error.inj h
        rw [← he]
        exact .here hbad [t]
      · intro h
        cases h with
        | here hbad' =>
          rw [← hfirst, readBound_eq_error_iff.mpr hbad']
          rfl
        | later hs' _ =>
          rw [readBound_eq_ok_iff.mpr hs'] at hfirst
          cases hfirst
    | ok n =>
      have hnumeral : Text.Numeral s n := readBound_eq_ok_iff.mp hfirst
      have hsecond : ((Except.ok n : Except CompileError Nat).bind fun n =>
          (readBound pattern q t).map fun m => (n, m)) = .error e ↔ Bad pattern q t e :=
        map_eq_error.trans readBound_eq_error_iff
      rw [hsecond]
      constructor
      · intro h
        exact .later hnumeral (firstBad_singleton.mpr h)
      · intro h
        cases h with
        | here hbad =>
          rw [readBound_eq_error_iff.mpr hbad] at hfirst
          cases hfirst
        | later _ h => exact firstBad_singleton.mp h

theorem readPair_of_shape (hsign : q ∉ [[], ['?'], ['+'], ['*']])
    (hbraces : ∀ body, q ≠ '{' :: body ++ ['}']) :
    readPair pattern q = .error (.quantifier pattern q) := by
  have hbody : body? q = none := by
    cases hbody : body? q with
    | none => rfl
    | some body => exact absurd (eq_braces_of_body? hbody) (hbraces body)
  unfold readPair
  split
  · simp at hsign
  · simp at hsign
  · simp at hsign
  · simp at hsign
  · rw [hbody]

/-- A quantifier is one of the signs, has a body in braces, or has the wrong shape. -/
theorem shape_cases (q : List Char) : q ∈ [[], ['?'], ['+'], ['*']] ∨
    (∃ body, q = '{' :: body ++ ['}']) ∨
      (q ∉ [[], ['?'], ['+'], ['*']] ∧ ∀ body, q ≠ '{' :: body ++ ['}']) := by
  by_cases hsign : q ∈ [[], ['?'], ['+'], ['*']]
  · exact .inl hsign
  by_cases hbraces : ∃ body, q = '{' :: body ++ ['}']
  · exact .inr (.inl hbraces)
  · exact .inr (.inr ⟨hsign, fun body hq => hbraces ⟨body, hq⟩⟩)

/-- The signs stand for two numbers each. -/
theorem exists_written_of_sign (h : q ∈ [[], ['?'], ['+'], ['*']]) :
    ∃ n m, n ≤ m ∧ Written q n m := by
  simp only [List.mem_cons, List.not_mem_nil, or_false] at h
  obtain hq | hq | hq | hq := h
  · rw [hq]
    exact ⟨1, 1, le_rfl, .once⟩
  · rw [hq]
    exact ⟨0, 1, by decide, .optional⟩
  · rw [hq]
    exact ⟨1, 2 ^ 64 - 1, by decide, .repeated⟩
  · rw [hq]
    exact ⟨0, 2 ^ 64 - 1, by decide, .any⟩

theorem read_of_written (h : Written q n m) : read pattern q =
    if hle : n ≤ m then .ok ⟨n, m, hle⟩ else .error (.bounds pattern n m) := by
  unfold read
  rw [readPair_eq_ok_iff.mpr h]
  rfl

theorem read_of_readPair_error (h : readPair pattern q = .error e) : read pattern q = .error e := by
  unfold read
  rw [h]
  rfl

theorem read_of_refused (h : Refused pattern q e) : read pattern q = .error e := by
  cases h with
  | shape hsign hbraces => exact read_of_readPair_error (readPair_of_shape hsign hbraces)
  | bound hq hbody hbad =>
    have hread := hbody.readBody_eq_error_iff.mpr hbad
    refine read_of_readPair_error ?_
    rw [hq] at hread ⊢
    rw [readPair_braces]
    exact hread
  | reversed hq hlt => rw [read_of_written hq, dif_neg (Nat.not_le_of_lt hlt)]

/-- What is not refused names two numbers in the right order. -/
theorem written_or_refused (pattern q : List Char) :
    (∃ n m, n ≤ m ∧ Written q n m) ∨ ∃ e, Refused pattern q e := by
  obtain hsign | ⟨body, hq⟩ | ⟨hsign, hbraces⟩ := shape_cases q
  · exact .inl (exists_written_of_sign hsign)
  · cases hread : readBody pattern q body with
    | error e =>
      obtain ⟨texts, htexts⟩ := exists_divides body
      exact .inr ⟨e, .bound hq htexts (htexts.readBody_eq_error_iff.mp hread)⟩
    | ok pair =>
      have hwritten : Written q pair.1 pair.2 := by
        rw [hq]
        exact written_of_readBody hread
      by_cases hle : pair.1 ≤ pair.2
      · exact .inl ⟨pair.1, pair.2, hle, hwritten⟩
      · exact .inr ⟨_, .reversed hwritten (Nat.lt_of_not_le hle)⟩
  · exact .inr ⟨_, .shape hsign hbraces⟩

theorem read_eq_error_iff : read pattern q = .error e ↔ Refused pattern q e := by
  constructor
  · intro h
    obtain ⟨n, m, hle, hwritten⟩ | ⟨e', hrefused⟩ := written_or_refused pattern q
    · rw [read_of_written hwritten, dif_pos hle] at h
      cases h
    · rw [read_of_refused hrefused] at h
      have he : e' = e := Except.error.inj h
      exact he ▸ hrefused
  · exact read_of_refused

/-- The numbers of a quantifier fit into 64 bits. -/
theorem Written.lt (h : Written q n m) : n < 2 ^ 64 ∧ m < 2 ^ 64 := by
  cases h with
  | once => decide
  | optional => decide
  | repeated => decide
  | any => decide
  | exactly hs => exact ⟨hs.lt, hs.lt⟩
  | atLeast hs => exact ⟨hs.lt, by decide⟩
  | atMost ht => exact ⟨by decide, ht.lt⟩
  | between hs ht => exact ⟨hs.lt, ht.lt⟩

/-- A quantifier is read if it names or stands for two numbers, the first not greater than the other,
and these are its bounds. Every other text has exactly one fault, which is reported. Bounds that have
been read are read again from their decimal digits. -/
theorem read_outcome (pattern q : List Char) :
    (∀ n m, (∃ hle : n ≤ m, read pattern q = .ok ⟨n, m, hle⟩) ↔ Written q n m ∧ n ≤ m) ∧
      (∀ e, read pattern q = .error e ↔ Refused pattern q e) ∧
      ((¬ ∃ n m, Written q n m ∧ n ≤ m) → ∃! e, Refused pattern q e) ∧
      ∀ b, read pattern q = .ok b → ∀ pattern', read pattern' b.render = .ok b := by
  refine ⟨fun n m => ?_, fun e => read_eq_error_iff, fun hnone => ?_, fun b hb pattern' => ?_⟩
  · constructor
    · intro h
      obtain ⟨hle, hread⟩ := h
      exact ⟨read_eq_ok_iff.mp hread, hle⟩
    · intro h
      obtain ⟨hwritten, hle⟩ := h
      exact ⟨hle, read_eq_ok_iff.mpr hwritten⟩
  · obtain ⟨n, m, hle, hwritten⟩ | ⟨e, hrefused⟩ := written_or_refused pattern q
    · exact absurd ⟨n, m, hwritten, hle⟩ hnone
    · refine ⟨e, hrefused, fun e' hrefused' => ?_⟩
      have herror := (read_of_refused hrefused').symm.trans (read_of_refused hrefused)
      exact Except.error.inj herror
  · have hlt := (read_eq_ok_iff.mp hb).lt
    have hmin : Text.Numeral (Nat.toDigits 10 b.min) b.min := Text.numeral_toDigits hlt.1
    have hmax : Text.Numeral (Nat.toDigits 10 b.max) b.max := Text.numeral_toDigits hlt.2
    exact read_eq_ok_iff.mpr (.between hmin hmax)

/-- The number that is too large is reported, and not the bound behind it that is no number. -/
example : read [] "{18446744073709551616,x}".toList =
    .error (.overflow [] "18446744073709551616".toList) := by
  cbv

end Bounds

end NamePattern
