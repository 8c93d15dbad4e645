import Mathlib.Data.List.Basic
import Mathlib.Data.List.TakeWhile
import Mathlib.Data.Nat.Digits.Defs
import NamePattern.Pattern.Quantifier

/-! Quantifiers as they are written, and the bounds that they are read as. -/
namespace NamePattern

namespace Text

/-- One or more digits write a number of 64 bits. Zeros may stand in front. -/
structure Numeral (s : List Char) (n : Nat) : Prop where
  ne_nil : s ≠ []
  digits : ∀ c ∈ s, c.isDigit = true
  value : Nat.ofDigits 10 (s.reverse.map fun c => c.toNat - '0'.toNat) = n
  lt : n < 2 ^ 64

theorem numeralValue_eq_ofDigits (s : List Char) :
    numeralValue s = Nat.ofDigits 10 (s.reverse.map fun c => c.toNat - '0'.toNat) := by
  have hfold (s : List Char) (n : Nat) : s.foldl (fun n c => n * 10 + (c.toNat - 48)) n =
      Nat.ofDigits 10 (s.reverse.map fun c => c.toNat - '0'.toNat) + 10 ^ s.length * n := by
    induction s generalizing n with
    | nil => simp
    | cons c s ih =>
      have hzero : '0'.toNat = 48 := rfl
      rw [List.foldl_cons, ih, List.reverse_cons, List.map_append, Nat.ofDigits_append, hzero]
      simp only [List.map_cons, List.map_nil, Nat.ofDigits_singleton, List.length_map,
        List.length_reverse, List.length_cons, Nat.pow_succ]
      ring
  unfold numeralValue
  rw [hfold, Nat.mul_zero, Nat.add_zero]

theorem isNumeral_iff {s : List Char} :
    isNumeral s = true ↔ s ≠ [] ∧ ∀ c ∈ s, c.isDigit = true := by
  simp [isNumeral]

/-- Digits are no commas. -/
theorem Numeral.no_comma {s : List Char} {n : Nat} (h : Numeral s n) :
    ∀ c ∈ s, (c != ',') = true := by
  intro c hc
  have hdigit := h.digits c hc
  rw [bne_iff_ne]
  intro hcomma
  rw [hcomma] at hdigit
  exact absurd hdigit (by decide)

end Text

namespace Bounds

/-- The quantifiers, each with the least and the greatest number that it names or stands for. -/
inductive Written : List Char → Nat → Nat → Prop
  | once : Written [] 1 1
  | optional : Written ['?'] 0 1
  | repeated : Written ['+'] 1 (2 ^ 64 - 1)
  | any : Written ['*'] 0 (2 ^ 64 - 1)
  | exactly {s : List Char} {n : Nat} (hs : Text.Numeral s n) : Written ('{' :: s ++ ['}']) n n
  | atLeast {s : List Char} {n : Nat} (hs : Text.Numeral s n) :
      Written ('{' :: (s ++ [',']) ++ ['}']) n (2 ^ 64 - 1)
  | atMost {t : List Char} {m : Nat} (ht : Text.Numeral t m) :
      Written ('{' :: (',' :: t) ++ ['}']) 0 m
  | between {s t : List Char} {n m : Nat} (hs : Text.Numeral s n) (ht : Text.Numeral t m) :
      Written ('{' :: (s ++ ',' :: t) ++ ['}']) n m

variable {pattern q s t body : List Char} {n m : Nat}

theorem readBound_eq_ok_iff : readBound pattern q s = .ok n ↔ Text.Numeral s n := by
  have hvalue := Text.numeralValue_eq_ofDigits s
  have hmax : Text.maxNumber + 1 = 2 ^ 64 := rfl
  unfold readBound
  by_cases hnum : Text.isNumeral s = true
  · obtain ⟨hne, hdigits⟩ := Text.isNumeral_iff.mp hnum
    rw [hnum, if_neg (by decide)]
    by_cases hlarge : Text.maxNumber < Text.numeralValue s
    · rw [if_pos hlarge]
      constructor
      · intro h
        cases h
      · intro h
        have hlt := h.lt
        have heq := h.value
        omega
    · rw [if_neg hlarge]
      constructor
      · intro h
        cases h
        exact ⟨hne, hdigits, hvalue.symm, by omega⟩
      · intro h
        rw [hvalue, h.value]
  · have hnot : (!Text.isNumeral s) = true := by simpa using hnum
    rw [if_pos hnot]
    constructor
    · intro h
      cases h
    · intro h
      exact absurd (Text.isNumeral_iff.mpr ⟨h.ne_nil, h.digits⟩) hnum

/-- The bounds between braces. -/
def readBody (pattern q body : List Char) : Except CompileError (Nat × Nat) :=
  match body.takeWhile (· != ','), body.dropWhile (· != ',') with
  | n, [] => do
    let n ← readBound pattern q n
    return (n, n)
  | [], _ :: m => do
    let m ← readBound pattern q m
    return (0, m)
  | n, [_] => do
    let n ← readBound pattern q n
    return (n, unbounded)
  | n, _ :: m => do
    let n ← readBound pattern q n
    let m ← readBound pattern q m
    return (n, m)

theorem body?_braces (body : List Char) : body? ('{' :: body ++ ['}']) = some body := by
  rw [List.cons_append, body?, if_pos List.getLast?_concat, List.dropLast_concat]

theorem eq_braces_of_body? (h : body? q = some body) : q = '{' :: body ++ ['}'] := by
  unfold body? at h
  split at h
  · next s =>
    split at h
    · next hlast =>
      have hs := List.dropLast_append_getLast? '}' (Option.mem_def.mpr hlast)
      rw [← Option.some.inj h, List.cons_append, hs]
    · simp at h
  · simp at h

theorem readPair_braces (pattern body : List Char) :
    readPair pattern ('{' :: body ++ ['}']) = readBody pattern ('{' :: body ++ ['}']) body := by
  have hbody := body?_braces body
  have hhead : ('{' :: body ++ ['}']).head? = some '{' := rfl
  generalize '{' :: body ++ ['}'] = q at hbody hhead
  unfold readPair
  split
  · simp at hhead
  · simp at hhead
  · simp at hhead
  · simp at hhead
  · rw [hbody]
    rfl

/-- A body is cut at its first comma. -/
theorem takeWhile_comma (hs : ∀ c ∈ s, (c != ',') = true) (t : List Char) :
    (s ++ ',' :: t).takeWhile (· != ',') = s ∧ (s ++ ',' :: t).dropWhile (· != ',') = ',' :: t := by
  rw [List.takeWhile_append_of_pos hs, List.dropWhile_append_of_pos hs]
  simp

theorem readBody_exactly (hs : ∀ c ∈ s, (c != ',') = true) :
    readBody pattern q s = (readBound pattern q s).map fun n => (n, n) := by
  have htake : s.takeWhile (· != ',') = s := List.takeWhile_eq_self_iff.mpr hs
  have hdrop : s.dropWhile (· != ',') = [] := List.dropWhile_eq_nil_iff.mpr hs
  unfold readBody
  rw [htake, hdrop]
  cases s with
  | nil => rfl
  | cons c s =>
    dsimp only
    cases readBound pattern q (c :: s) <;> rfl

theorem readBody_atMost :
    readBody pattern q (',' :: t) = (readBound pattern q t).map fun m => (0, m) := by
  unfold readBody
  rw [List.takeWhile_cons_of_neg (by decide), List.dropWhile_cons_of_neg (by decide)]
  dsimp only
  cases readBound pattern q t <;> rfl

theorem readBody_atLeast (hne : s ≠ []) (hs : ∀ c ∈ s, (c != ',') = true) :
    readBody pattern q (s ++ [',']) = (readBound pattern q s).map fun n => (n, unbounded) := by
  obtain ⟨htake, hdrop⟩ := takeWhile_comma hs []
  obtain ⟨c, s, rfl⟩ := List.exists_cons_of_ne_nil hne
  unfold readBody
  rw [htake, hdrop]
  dsimp only
  cases readBound pattern q (c :: s) <;> rfl

theorem readBody_between (hne : s ≠ []) (hs : ∀ c ∈ s, (c != ',') = true) (ht : t ≠ []) :
    readBody pattern q (s ++ ',' :: t) = (readBound pattern q s).bind fun n =>
      (readBound pattern q t).map fun m => (n, m) := by
  obtain ⟨htake, hdrop⟩ := takeWhile_comma hs t
  obtain ⟨c, s, rfl⟩ := List.exists_cons_of_ne_nil hne
  obtain ⟨d, t, rfl⟩ := List.exists_cons_of_ne_nil ht
  unfold readBody
  rw [htake, hdrop]
  dsimp only
  cases readBound pattern q (c :: s) <;> cases readBound pattern q (d :: t) <;> rfl

/-- A body has no comma, or it is cut at the first one. -/
theorem body_cases (body : List Char) : (∀ c ∈ body, (c != ',') = true) ∨
    ∃ s t, body = s ++ ',' :: t ∧ ∀ c ∈ s, (c != ',') = true := by
  have happend := List.takeWhile_append_dropWhile (p := (· != ',')) (l := body)
  have htake : ∀ c ∈ body.takeWhile (· != ','), (c != ',') = true := by
    intro c hc
    exact List.mem_takeWhile_imp (p := (· != ',')) hc
  have hhead := List.head?_dropWhile_not (· != ',') body
  cases hdrop : body.dropWhile (· != ',') with
  | nil =>
    left
    intro c hc
    rw [hdrop, List.append_nil] at happend
    apply htake c
    rw [happend]
    exact hc
  | cons d t =>
    right
    rw [hdrop] at happend hhead
    have hd : d = ',' := by simpa using hhead
    exact ⟨body.takeWhile (· != ','), t, hd ▸ happend.symm, htake⟩

theorem map_eq_ok {ε α β : Type} {x : Except ε α} {f : α → β} {b : β} :
    x.map f = .ok b ↔ ∃ a, x = .ok a ∧ f a = b := by
  cases x <;> simp [Except.map]

theorem written_of_readBody (h : readBody pattern q body = .ok (n, m)) :
    Written ('{' :: body ++ ['}']) n m := by
  obtain hbody | ⟨s, t, hbody, hs⟩ := body_cases body
  · rw [readBody_exactly hbody] at h
    obtain ⟨k, hk, hpair⟩ := map_eq_ok.mp h
    cases hpair
    exact .exactly (readBound_eq_ok_iff.mp hk)
  rw [hbody] at h ⊢
  by_cases hne : s = []
  · rw [hne, List.nil_append] at h ⊢
    rw [readBody_atMost] at h
    obtain ⟨k, hk, hpair⟩ := map_eq_ok.mp h
    cases hpair
    exact .atMost (readBound_eq_ok_iff.mp hk)
  by_cases ht : t = []
  · rw [ht] at h ⊢
    rw [readBody_atLeast hne hs] at h
    obtain ⟨k, hk, hpair⟩ := map_eq_ok.mp h
    cases hpair
    exact .atLeast (readBound_eq_ok_iff.mp hk)
  · rw [readBody_between hne hs ht] at h
    cases hk : readBound pattern q s with
    | error e => simp [hk, Except.bind] at h
    | ok k =>
      rw [hk] at h
      obtain ⟨l, hl, hpair⟩ := map_eq_ok.mp h
      cases hpair
      exact .between (readBound_eq_ok_iff.mp hk) (readBound_eq_ok_iff.mp hl)

/-- The texts that are read as two numbers are the quantifiers that name or stand for them. -/
theorem readPair_eq_ok_iff : readPair pattern q = .ok (n, m) ↔ Written q n m := by
  constructor
  · intro h
    have hread := h
    unfold readPair at h
    split at h
    · cases h
      exact .once
    · cases h
      exact .optional
    · cases h
      exact .repeated
    · cases h
      exact .any
    · split at h
      · cases h
      · next body hbody =>
        have hq := eq_braces_of_body? hbody
        rw [hq, readPair_braces] at hread
        rw [hq]
        exact written_of_readBody hread
  · intro h
    cases h with
    | once => rfl
    | optional => rfl
    | repeated => rfl
    | any => rfl
    | exactly hs =>
      rw [readPair_braces, readBody_exactly hs.no_comma, readBound_eq_ok_iff.mpr hs]
      rfl
    | atLeast hs =>
      rw [readPair_braces, readBody_atLeast hs.ne_nil hs.no_comma, readBound_eq_ok_iff.mpr hs]
      rfl
    | atMost ht =>
      rw [readPair_braces, readBody_atMost, readBound_eq_ok_iff.mpr ht]
      rfl
    | between hs ht =>
      rw [readPair_braces, readBody_between hs.ne_nil hs.no_comma ht.ne_nil,
        readBound_eq_ok_iff.mpr hs, readBound_eq_ok_iff.mpr ht]
      rfl

theorem read_eq_ok_iff {b : Bounds} : read pattern q = .ok b ↔ Written q b.min b.max := by
  have hwritten : Written q b.min b.max ↔ readPair pattern q = .ok (b.min, b.max) :=
    readPair_eq_ok_iff.symm
  rw [hwritten]
  unfold read
  cases hpair : readPair pattern q with
  | error e => simp [bind, Except.bind]
  | ok p =>
    obtain ⟨min, max⟩ := p
    simp only [bind, Except.bind, Except.ok.injEq, Prod.mk.injEq]
    by_cases hle : min ≤ max
    · rw [dif_pos hle]
      constructor
      · intro h
        cases h
        exact ⟨rfl, rfl⟩
      · intro h
        obtain ⟨rfl, rfl⟩ := h
        rfl
    · rw [dif_neg hle]
      constructor
      · intro h
        cases h
      · intro h
        obtain ⟨rfl, rfl⟩ := h
        exact absurd b.min_le_max hle

end Bounds

end NamePattern
