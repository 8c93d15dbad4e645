import NamePattern.Proofs.Enclosed

/-! Readers that take a text alone as they take it with the closing `)\z` behind it. -/
namespace NamePattern.CharRegex

variable {α β : Type} {k n : Nat}

/-- The answers to a text alone and to the same text with the closing behind it. What is read alone
is read again, and the closing is left, unless a comment swallows it. What leaves all of the closing
is read alone as well, unless the text left before the closing is too `short` for that. -/
structure Agrees (short : α → List Char → Prop) (alone closed : Option (α × List Char)) : Prop where
  extend {v : α} {r : List Char} (h : alone = some (v, r)) :
    closed = some (v, r ++ closing) ∨ r = [] ∧ closed = some (v, [])
  restrict {v : α} {r : List Char} (h : closed = some (v, r)) (hr : closing.length ≤ r.length) :
    ∃ r', r = r' ++ closing ∧ (alone = some (v, r') ∨ short v r')

/-- On some text a reader consumes at least `k` characters, and does not look behind the text. -/
structure SteadyAt (k : Nat) (short : α → List Char → Prop)
    (f : List Char → Option (α × List Char)) (s : List Char) : Prop where
  taken {v : α} {r : List Char} (h : f s = some (v, r)) : ∃ u, s = u ++ r ∧ k ≤ u.length
  agrees : Agrees short (f s) (f (s ++ closing))

def Steady (k : Nat) (short : α → List Char → Prop) (f : List Char → Option (α × List Char)) : Prop :=
  ∀ s, SteadyAt k short f s

/-- Nothing is too short. -/
def never (_ : α) (_ : List Char) : Prop := False

variable {short : α → List Char → Prop} {short' : β → List Char → Prop}
  {f g : List Char → Option (α × List Char)} {s : List Char} {c : Char}

theorem Agrees.answer (v : α) (s : List Char) :
    Agrees short (some (v, s)) (some (v, s ++ closing)) where
  extend h := by
    cases h
    exact .inl rfl
  restrict h _ := by
    cases h
    exact ⟨s, rfl, .inl rfl⟩

/-- Nothing is left of the text nor of the closing. -/
theorem Agrees.swallowed {a : Option (α × List Char)} (h : ∀ {v r}, a = some (v, r) → r = []) :
    Agrees short a a where
  extend {v r} ha := by
    have hr := h ha
    rw [hr] at ha
    exact .inr ⟨hr, ha⟩
  restrict {v r} ha hr := by
    rw [h ha] at hr
    simp [closing] at hr

/-- The closing begins with a parenthesis, so a text with the closing behind it begins with any other
character only if the text does. -/
theorem head?_append_closing (hc : c ≠ ')') (hs : s.head? ≠ some c) :
    (s ++ closing).head? ≠ some c := by
  cases s with
  | nil => simpa [closing] using Ne.symm hc
  | cons d s => exact hs

namespace SteadyAt

theorem shrinks {v : α} {r : List Char} (h : SteadyAt k short f s) (hs : f s = some (v, r)) :
    r.length + k ≤ s.length := by
  obtain ⟨u, hu, hk⟩ := h.taken hs
  rw [hu, List.length_append]
  omega

theorem mono (h : SteadyAt k short f s) (hn : n ≤ k) : SteadyAt n short f s where
  taken hs := by
    obtain ⟨u, hu, hk⟩ := h.taken hs
    exact ⟨u, hu, Nat.le_trans hn hk⟩
  agrees := h.agrees

theorem congr (h : SteadyAt k short g s) (hs : f s = g s)
    (hclosed : f (s ++ closing) = g (s ++ closing)) : SteadyAt k short f s where
  taken hf := h.taken (hs ▸ hf)
  agrees := by
    rw [hs, hclosed]
    exact h.agrees

/-- A first character that is consumed before anything else. -/
theorem cons (h : SteadyAt k short g s) (hf : ∀ r, f (c :: r) = g r) :
    SteadyAt (k + 1) short f (c :: s) where
  taken hs := by
    rw [hf] at hs
    obtain ⟨u, hu, hk⟩ := h.taken hs
    exact ⟨c :: u, by rw [hu]; rfl, Nat.succ_le_succ hk⟩
  agrees := by
    rw [List.cons_append, hf, hf]
    exact h.agrees

theorem cons_cons {d : Char} (h : SteadyAt k short g s) (hf : ∀ r, f (c :: d :: r) = g r) :
    SteadyAt (k + 2) short f (c :: d :: s) := by
  have hfirst : SteadyAt (k + 1) short (fun r => f (c :: r)) (d :: s) := h.cons hf
  exact hfirst.cons fun _ => rfl

theorem answer {v : α} {u r : List Char} (hs : f s = some (v, r))
    (hclosed : f (s ++ closing) = some (v, r ++ closing)) (hu : s = u ++ r) (hk : k ≤ u.length) :
    SteadyAt k short f s where
  taken h := by
    rw [hs] at h
    cases h
    exact ⟨u, hu, hk⟩
  agrees := by
    rw [hs, hclosed]
    exact .answer v r

/-- A text that is left as it is. -/
theorem stay {v : α} (hs : f s = some (v, s)) (hclosed : f (s ++ closing) = some (v, s ++ closing)) :
    SteadyAt 0 short f s :=
  answer hs hclosed (List.nil_append s).symm (Nat.le_refl 0)

/-- A text that is not read alone: what is left with the closing behind it must be too short. -/
theorem ofNone (hs : f s = none) (h : ∀ {v r}, f (s ++ closing) = some (v, r) →
    closing.length ≤ r.length → ∃ r', r = r' ++ closing ∧ short v r') : SteadyAt k short f s where
  taken ho := by
    rw [hs] at ho
    cases ho
  agrees := by
    refine ⟨fun ho => ?_, fun ho hr => ?_⟩
    · rw [hs] at ho
      cases ho
    · obtain ⟨r', hr', hshort⟩ := h ho hr
      exact ⟨r', hr', .inr hshort⟩

theorem refuse (hs : f s = none) (hclosed : f (s ++ closing) = none) : SteadyAt k short f s :=
  ofNone hs fun h => by
    rw [hclosed] at h
    cases h

end SteadyAt

namespace Steady

theorem mono (h : Steady k short f) (hn : n ≤ k) : Steady n short f :=
  fun s => (h s).mono hn

/-- Where nothing is too short, no exceptions are needed. -/
theorem weaken (h : Steady k never f) : Steady k short f := fun s =>
  ⟨(h s).taken, (h s).agrees.extend, fun hclosed hr => by
    obtain ⟨r, hr, halone⟩ := (h s).agrees.restrict hclosed hr
    exact ⟨r, hr, .inl (halone.resolve_right id)⟩⟩

theorem none : Steady k short fun _ => Option.none := fun _ => .refuse rfl rfl

theorem pure (v : α) : Steady 0 short fun s => some (v, s) := fun _ => .stay rfl rfl

/-- A reader that fails without a first character and consumes it otherwise. -/
theorem ofCons (hnil : f [] = Option.none) (hcons : ∀ c s, SteadyAt (k + 1) short f (c :: s)) :
    Steady (k + 1) short f := by
  intro s
  cases s with
  | cons c s => exact hcons c s
  | nil =>
    refine .ofNone hnil fun h hr => ?_
    have hlength := (hcons ')' ['\\', 'z']).shrinks h
    have hclosing : closing.length = 3 := rfl
    simp only [List.length_cons, List.length_nil] at hlength
    omega

/-- One reader after the other. On a text that was too short for the first one alone, the second one
must not leave all of the closing. -/
theorem bind_short {p : α × List Char → Option (β × List Char)} (hf : Steady k short f)
    (hp : ∀ v, Steady n short' fun s => p (v, s))
    (hshort : ∀ v r, short v r → ∀ w r', p (v, r ++ closing) = some (w, r') →
      r'.length < closing.length) :
    Steady (k + n) short' fun s => f s >>= p := by
  intro s
  refine ⟨fun {w r} h => ?_, fun {w r} h => ?_, fun {w r} h hr => ?_⟩
  · obtain ⟨⟨v, u⟩, hu, hw⟩ := Option.bind_eq_some_iff.mp h
    obtain ⟨a, ha, hk⟩ := (hf s).taken hu
    obtain ⟨b, hb, hn⟩ := (hp v u).taken hw
    refine ⟨a ++ b, by rw [ha, hb, List.append_assoc], ?_⟩
    rw [List.length_append]
    exact Nat.add_le_add hk hn
  · obtain ⟨⟨v, u⟩, hu, hw⟩ := Option.bind_eq_some_iff.mp h
    obtain hclosed | ⟨hnil, hclosed⟩ := (hf s).agrees.extend hu
    · rw [hclosed]
      exact (hp v u).agrees.extend hw
    · have hlength := (hp v u).shrinks hw
      rw [hnil] at hw hlength
      have hr : r = [] := List.eq_nil_of_length_eq_zero (Nat.le_zero.mp (Nat.le_of_add_right_le hlength))
      rw [hr] at hw
      rw [hclosed]
      exact .inr ⟨hr, hw⟩
  · obtain ⟨⟨v, u⟩, hu, hw⟩ := Option.bind_eq_some_iff.mp h
    have hlength := (hp v u).shrinks hw
    obtain ⟨u', hu', halone⟩ := (hf s).agrees.restrict hu (by omega)
    rw [hu'] at hw
    obtain halone | hbad := halone
    · obtain ⟨r', hr', hsecond⟩ := (hp v u').agrees.restrict hw hr
      refine ⟨r', hr', ?_⟩
      rw [halone]
      exact hsecond
    · have hlt := hshort _ _ hbad _ _ hw
      omega

theorem bind {p : α × List Char → Option (β × List Char)} (hf : Steady k never f)
    (hp : ∀ v, Steady 0 short' fun s => p (v, s)) : Steady k short' fun s => f s >>= p :=
  hf.bind_short hp fun _ _ h => h.elim

/-- One reader after the other, the second of which consumes something. -/
theorem bind_consuming {p : α × List Char → Option (β × List Char)} (hf : Steady 0 never f)
    (hp : ∀ v, Steady k short' fun s => p (v, s)) : Steady k short' fun s => f s >>= p :=
  fun s => (hf.bind_short hp (fun _ _ h => h.elim) s).mono (Nat.le_add_left _ _)

/-- A first character that decides how to go on. It is not the closing parenthesis. -/
theorem onHead {h : List Char → Option (α × List Char)} (c : Char) (hc : c ≠ ')')
    (hcons : ∀ r, f (c :: r) = g r) (hg : Steady k short g) (hh : Steady n short h) (hn : n ≤ k + 1)
    (hnil : f [] = h []) (hother : ∀ d r, d ≠ c → f (d :: r) = h (d :: r)) : Steady n short f := by
  have hsame (s : List Char) (hs : s.head? ≠ some c) : f s = h s := by
    cases s with
    | nil => exact hnil
    | cons d r => exact hother d r (by simpa using hs)
  intro s
  by_cases hs : s.head? = some c
  · obtain ⟨r, hr⟩ := List.head?_eq_some_iff.mp hs
    rw [hr]
    exact ((hg r).cons hcons).mono hn
  · exact (hh s).congr (hsame s hs) (hsame _ (head?_append_closing hc hs))

/-- A first character that must be there. -/
theorem expect (c : Char) (hcons : ∀ r, f (c :: r) = g r) (hnil : f [] = Option.none)
    (hother : ∀ d r, d ≠ c → f (d :: r) = Option.none) (hg : Steady k short g) :
    Steady (k + 1) short f := by
  refine .ofCons hnil fun d s => ?_
  by_cases hd : d = c
  · rw [hd]
    exact (hg s).cons hcons
  · exact .refuse (hother d s hd) (hother d _ hd)

/-- A value that does not depend on the text. -/
theorem option {γ : Type} {o : Option γ} {p : γ → List Char → Option (β × List Char)}
    (hp : ∀ w, Steady k short' (p w)) : Steady k short' fun s => o >>= fun w => p w s := by
  cases o with
  | none => exact .none
  | some w => exact hp w

theorem ite {b : Prop} [Decidable b] (hf : Steady k short f) (hg : Steady k short g) :
    Steady k short fun s => if b then f s else g s := by
  by_cases h : b
  · simp only [if_pos h]
    exact hf
  · simp only [if_neg h]
    exact hg

theorem map_short (φ : α → β) (hf : Steady k short f)
    (hshort : ∀ v r, short v r → short' (φ v) r) :
    Steady k short' fun s => (f s).map fun p => (φ p.1, p.2) := by
  intro s
  refine ⟨fun h => ?_, fun h => ?_, fun h hr => ?_⟩
  · obtain ⟨p, hp, hv⟩ := Option.map_eq_some_iff.mp h
    cases hv
    exact (hf s).taken hp
  · obtain ⟨p, hp, hv⟩ := Option.map_eq_some_iff.mp h
    cases hv
    obtain hclosed | ⟨hnil, hclosed⟩ := (hf s).agrees.extend hp
    · exact .inl (by rw [hclosed]; rfl)
    · exact .inr ⟨hnil, by rw [hclosed]; rfl⟩
  · obtain ⟨p, hp, hv⟩ := Option.map_eq_some_iff.mp h
    cases hv
    obtain ⟨r, hr, halone⟩ := (hf s).agrees.restrict hp hr
    exact ⟨r, hr, halone.imp (fun h => by rw [h]; rfl) (hshort _ _)⟩

theorem map (φ : α → β) (hf : Steady k never f) :
    Steady k short' fun s => (f s).map fun p => (φ p.1, p.2) :=
  hf.map_short φ fun _ _ h => h.elim

end Steady

section

variable {x : Bool}

/-- Blanks and comments are skipped alike, but a comment swallows the closing. -/
theorem skipBlanks_closing (inComment : Bool) (s : List Char) :
    skipBlanks inComment (s ++ closing) = skipBlanks inComment s ++ closing ∨
      skipBlanks inComment s = [] ∧ skipBlanks inComment (s ++ closing) = [] := by
  induction s generalizing inComment with
  | nil =>
    cases inComment with
    | true => exact .inr ⟨rfl, by decide⟩
    | false => exact .inl (by decide)
  | cons c s ih =>
    simp only [List.cons_append, skipBlanks]
    split
    · exact ih _
    · split
      · exact ih _
      · split
        · exact ih _
        · exact .inl rfl

theorem skipBlanks_suffix (inComment : Bool) (s : List Char) :
    ∃ u, s = u ++ skipBlanks inComment s := by
  induction s generalizing inComment with
  | nil => exact ⟨[], rfl⟩
  | cons c s ih =>
    have hskipped (b : Bool) : ∃ u, c :: s = u ++ skipBlanks b s := by
      obtain ⟨u, hu⟩ := ih b
      exact ⟨c :: u, by rw [List.cons_append, ← hu]⟩
    simp only [skipBlanks]
    split
    · exact hskipped _
    · split
      · exact hskipped _
      · split
        · exact hskipped _
        · exact ⟨[], rfl⟩

theorem skip_closing (x : Bool) (s : List Char) :
    skip x (s ++ closing) = skip x s ++ closing ∨ skip x s = [] ∧ skip x (s ++ closing) = [] := by
  cases x with
  | true => exact skipBlanks_closing false s
  | false => exact .inl rfl

theorem skip_suffix (x : Bool) (s : List Char) : ∃ u, s = u ++ skip x s := by
  cases x with
  | true => exact skipBlanks_suffix false s
  | false => exact ⟨[], rfl⟩

theorem skip_length_le (x : Bool) (s : List Char) : (skip x s).length ≤ s.length := by
  obtain ⟨u, hu⟩ := skip_suffix x s
  have hlength := congrArg List.length hu
  rw [List.length_append] at hlength
  omega

/-- A reader that skips blanks and comments first. -/
theorem Steady.skip (hf : Steady k short f) : Steady k short fun s => f (skip x s) := by
  intro s
  refine ⟨fun h => ?_, ?_⟩
  · obtain ⟨a, ha⟩ := skip_suffix x s
    obtain ⟨b, hb, hk⟩ := (hf _).taken h
    refine ⟨a ++ b, by rw [List.append_assoc, ← hb]; exact ha, ?_⟩
    rw [List.length_append]
    exact Nat.le_trans hk (Nat.le_add_left _ _)
  · obtain hclosed | ⟨hnil, hclosed⟩ := skip_closing x s
    · rw [hclosed]
      exact (hf _).agrees
    · rw [hnil, hclosed]
      refine .swallowed fun h => ?_
      have hr := (hf []).shrinks h
      exact List.eq_nil_of_length_eq_zero (Nat.le_zero.mp (Nat.le_of_add_right_le hr))

theorem dropWhile_isWhitespace_closing (s : List Char) :
    (s ++ closing).dropWhile Text.isWhitespace = s.dropWhile Text.isWhitespace ++ closing := by
  have hclosing : closing.dropWhile Text.isWhitespace = closing := by decide
  rw [List.dropWhile_append, hclosing]
  split
  · next h => rw [List.isEmpty_iff.mp h, List.nil_append]
  · rfl

theorem Steady.blanks (hf : Steady k short f) :
    Steady k short fun s => f (s.dropWhile Text.isWhitespace) := by
  intro s
  refine ⟨fun h => ?_, ?_⟩
  · obtain ⟨b, hb, hk⟩ := (hf _).taken h
    refine ⟨s.takeWhile Text.isWhitespace ++ b, ?_, ?_⟩
    · rw [List.append_assoc, ← hb, List.takeWhile_append_dropWhile]
    · rw [List.length_append]
      exact Nat.le_trans hk (Nat.le_add_left _ _)
  · rw [dropWhile_isWhitespace_closing]
    exact (hf _).agrees

/-- What is left stands behind what is taken. -/
theorem takeSkipping_suffix (x : Bool) (p : Char → Bool) (inComment : Bool) (s : List Char) :
    ∃ u, s = u ++ (takeSkipping x p inComment s).2 := by
  induction s generalizing inComment with
  | nil => exact ⟨[], rfl⟩
  | cons c s ih =>
    have htaken (b : Bool) : ∃ u, c :: s = u ++ (takeSkipping x p b s).2 := by
      obtain ⟨u, hu⟩ := ih b
      exact ⟨c :: u, by rw [List.cons_append, ← hu]⟩
    simp only [takeSkipping]
    split
    · exact htaken _
    · split
      · exact htaken _
      · split
        · exact htaken _
        · split
          · exact htaken _
          · exact ⟨[], rfl⟩

/-- A run ends before the closing in the same way, unless it goes on to the end of the text: then it
can also take characters of the closing, or be inside a comment. -/
theorem takeSkipping_closing {p : Char → Bool} {inComment : Bool} {v r : List Char}
    (h : takeSkipping x p inComment s = (v, r)) :
    takeSkipping x p inComment (s ++ closing) = (v, r ++ closing) ∨
      r = [] ∧ (takeSkipping x p inComment (s ++ closing)).2.length < closing.length ∧
        (p ')' = false → takeSkipping x p inComment (s ++ closing) = (v, [])) := by
  induction s generalizing inComment v with
  | nil =>
    cases h
    cases inComment with
    | true =>
      have hclosing : takeSkipping x p true closing = ([], []) := by simp [closing, takeSkipping]
      exact .inr ⟨rfl, by rw [List.nil_append, hclosing]; decide, fun _ => hclosing⟩
    | false =>
      have hblank : Text.isWhitespace ')' = false := by decide
      by_cases hp : p ')' = true
      · obtain ⟨u, hu⟩ := takeSkipping_suffix x p false ['\\', 'z']
        have hlength := congrArg List.length hu
        have hclosing : takeSkipping x p false closing =
            (')' :: (takeSkipping x p false ['\\', 'z']).1, (takeSkipping x p false ['\\', 'z']).2) := by
          rw [closing, takeSkipping]
          simp [hblank, hp]
        refine .inr ⟨rfl, ?_, fun h => absurd hp (by rw [h]; exact Bool.false_ne_true)⟩
        rw [List.nil_append, hclosing]
        simp only [List.length_append, List.length_cons, List.length_nil, closing] at hlength ⊢
        omega
      · have hclosing : takeSkipping x p false closing = ([], closing) := by
          rw [closing, takeSkipping]
          simp [hblank, hp]
        exact .inl hclosing
  | cons c s ih =>
    simp only [List.cons_append, takeSkipping] at h ⊢
    split at h
    · next hc =>
      rw [if_pos hc]
      exact ih h
    · next hc =>
      rw [if_neg hc]
      split at h
      · next hc =>
        rw [if_pos hc]
        exact ih h
      · next hc =>
        rw [if_neg hc]
        split at h
        · next hc =>
          rw [if_pos hc]
          exact ih h
        · next hc =>
          rw [if_neg hc]
          split at h
          · next hc =>
            rw [if_pos hc]
            obtain ⟨hv, hr⟩ := Prod.mk.inj h
            rw [← hv]
            obtain hclosed | ⟨hnil, hlt, hclosed⟩ := ih (Prod.ext rfl hr)
            · rw [hclosed]
              exact .inl rfl
            · refine .inr ⟨hnil, hlt, fun hp => ?_⟩
              rw [hclosed hp]
          · next hc =>
            rw [if_neg hc]
            cases h
            exact .inl rfl

/-- A run of characters, a closing parenthesis not among them. -/
theorem Steady.take {p : Char → Bool} (hp : p ')' = false) :
    Steady 0 never fun s => some (takeSkipping x p false s) := by
  intro s
  refine ⟨fun {v r} h => ?_, ?_⟩
  · obtain ⟨u, hu⟩ := takeSkipping_suffix x p false s
    rw [Option.some.inj h] at hu
    exact ⟨u, hu, Nat.zero_le _⟩
  · obtain hclosed | ⟨hnil, -, hclosed⟩ := takeSkipping_closing (Prod.eta (takeSkipping x p false s)).symm
    · rw [hclosed]
      exact .answer _ _
    · rw [hclosed hp, ← hnil]
      refine .swallowed fun h => ?_
      rw [← (Prod.mk.inj (Option.some.inj h)).2, hnil]

end

end NamePattern.CharRegex
