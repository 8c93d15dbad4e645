import NamePattern.Proofs.Openings

/-! Regexes are read token by token, and alike with the closing behind the text. -/
namespace NamePattern.CharRegex

/-- What one step of reading takes from a text. -/
inductive Token where
  /-- The end of an alternative. -/
  | stop
  /-- A part, with the setting behind it. -/
  | part (t : Tree) (σ : Setting)
  | repetition (min : Nat) (max : Option Nat) (greedy : Bool)
  /-- The start of a group, with what becomes of its body and the setting inside it. -/
  | group (wrap : Tree → Tree) (inner : Setting)

/-- What is opened by a parenthesis, as a token. Flags last to the end of what they stand in. -/
def Opening.token (x : Bool) (σ : Setting) : Opening → Token
  | .flags change =>
    .part (.flags change) ⟨σ.groups, σ.names, (change.get? .extended).getD x⟩
  | .group change =>
    .group (.group change) ⟨σ.groups, σ.names, (change.get? .extended).getD x⟩
  | .capture index => .group (.capture index) σ

def Escape.tree : Escape → Tree
  | .literal l => .literal l
  | .assertion a => .assertion a
  | .shorthand negated k => .shorthand negated k
  | .property negated q => .property negated q

/-- A repetition, made lazy by a question mark behind it. -/
def readRepetition (min : Nat) (max : Option Nat) (s : List Char) : Option (Token × List Char) :=
  some (.repetition min max (readGreedy s).1, (readGreedy s).2)

/-- The next token. A class takes at most `n` steps. -/
def readToken (n : Nat) (σ : Setting) : List Char → Option (Token × List Char)
  | [] => some (.stop, [])
  | ')' :: s => some (.stop, ')' :: s)
  | '|' :: s => some (.stop, '|' :: s)
  | '(' :: s => (readOpened σ (skip σ.extended s)).map fun o => (o.1.1.token σ.extended o.1.2, o.2)
  | '?' :: s => readRepetition 0 (some 1) s
  | '*' :: s => readRepetition 0 none s
  | '+' :: s => readRepetition 1 none s
  | '{' :: s => readBounds σ.extended s >>= fun (bounds, s) =>
    readRepetition bounds.1 bounds.2 (skip σ.extended s)
  | '[' :: s => (readClass σ.extended n s).map fun (t, s) => (.part t σ, s)
  | '.' :: s => some (.part .any σ, s)
  | '^' :: s => some (.part (.assertion .lineStart) σ, s)
  | '$' :: s => some (.part (.assertion .lineEnd) σ, s)
  | '\\' :: s => (readEscape σ.extended s).map fun (e, s) => (.part e.tree σ, s)
  | c :: s => some (.part (.literal ⟨c, false⟩) σ, s)

/-- How reading a sequence goes on after a token. -/
def afterToken (n : Nat) (parts : List Tree) (σ : Setting) :
    Token × List Char → Option (Tree × Progress)
  | (.stop, s) => some (.ofParts parts.reverse, σ.on s)
  | (.part t σ, s) => readSequence n (t :: parts) (σ.on s)
  | (.repetition min max greedy, s) =>
    match parts with
    | [] => none
    | t :: ts =>
      if t.repeatable then readSequence n (.repeated min max greedy t :: ts) (σ.on s) else none
  | (.group wrap inner, s) => do
    let (body, q) ← readAlternatives n (inner.on s)
    match q.rest with
    | ')' :: s =>
      readSequence n (wrap body :: parts) ⟨s, q.groups, q.names, σ.extended⟩
    | _ => none

theorem readSequence_succ (n : Nat) (parts : List Tree) (p : Progress) :
    readSequence (n + 1) parts p =
      readToken n p.setting (skip p.extended p.rest) >>= afterToken n parts p.setting := by
  have hopened (s : List Char) := readOpening_eq p s
  obtain ⟨rest, groups, names, x⟩ := p
  rw [readSequence]
  simp only [Progress.setting] at hopened ⊢
  generalize skip x rest = s
  split
  case h_4 s =>
    simp only [readToken, ← hopened]
    cases readOpening ⟨rest, groups, names, x⟩ s with
    | none => rfl
    | some o =>
      obtain ⟨opening, q⟩ := o
      cases opening <;> rfl
  case h_8 s =>
    simp only [readToken]
    cases readBounds x s with
    | none => rfl
    | some o => cases parts <;> rfl
  case h_9 s =>
    simp only [readToken]
    cases readClass x n s <;> rfl
  case h_13 s =>
    simp only [readToken]
    cases readEscape x s with
    | none => rfl
    | some o =>
      obtain ⟨e, u⟩ := o
      cases e <;> rfl
  case h_14 c s _ _ _ _ _ _ _ _ _ _ _ _ =>
    have hliteral : readToken n ⟨groups, names, x⟩ (c :: s) =
        some (.part (.literal ⟨c, false⟩) ⟨groups, names, x⟩, s) := by
      unfold readToken
      split <;> simp_all
    rw [hliteral]
    rfl
  all_goals rfl

/-- The characters that have a meaning of their own at the start of a token. -/
def meaningful : List Char := [')', '|', '(', '?', '*', '+', '{', '[', '.', '^', '$', '\\']

theorem readToken_literal {c : Char} (hc : c ∉ meaningful) (n : Nat) (σ : Setting) (s : List Char) :
    readToken n σ (c :: s) = some (.part (.literal ⟨c, false⟩) σ, s) := by
  unfold readToken
  split
  case h_1 h => cases h
  case h_14 =>
    cases ‹c :: s = _›
    rfl
  all_goals
    cases ‹c :: s = _›
    exact absurd (by decide) hc

theorem readRepetition_steady (min : Nat) (max : Option Nat) :
    Steady 0 never (readRepetition min max) := by
  have h : Steady 0 never fun s => (some (readGreedy s)).map fun p => (Token.repetition min max p.1, p.2) :=
    readGreedy_steady.map _
  exact h

/-- A word boundary in front of braces that hold nothing yet. -/
def OpenToken (σ : Setting) (t : Token) (r : List Char) : Prop :=
  ∃ a, t = .part (.assertion a) σ ∧ OpenBraces σ.extended a r

/-- A token that does not end an alternative consumes its first character. -/
theorem readToken_cons {c : Char} (hc : c ≠ ')' ∧ c ≠ '|') (n : Nat) (σ : Setting) :
    Steady 0 (OpenToken σ) fun s => readToken n σ (c :: s) := by
  by_cases hmeaning : c ∈ meaningful
  · simp only [meaningful, List.mem_cons, List.not_mem_nil, or_false] at hmeaning
    obtain h | h | h | h | h | h | h | h | h | h | h | h := hmeaning
    · exact absurd h hc.1
    · exact absurd h hc.2
    · rw [h]
      exact (readOpened_steady σ).skip.map fun o => o.1.token σ.extended o.2
    · rw [h]
      exact (readRepetition_steady 0 (some 1)).weaken
    · rw [h]
      exact (readRepetition_steady 0 none).weaken
    · rw [h]
      exact (readRepetition_steady 1 none).weaken
    · rw [h]
      exact (readBounds_steady σ.extended).bind fun bounds =>
        (readRepetition_steady bounds.1 bounds.2).skip.weaken
    · rw [h]
      exact ((readClass_steady σ.extended n).map fun t => Token.part t σ).mono (Nat.zero_le _)
    · rw [h]
      exact .pure _
    · rw [h]
      exact .pure _
    · rw [h]
      exact .pure _
    · rw [h]
      have hescape : Steady 1 (OpenToken σ) fun s =>
          (readEscape σ.extended s).map fun p => (Token.part p.1.tree σ, p.2) :=
        (readEscape_steady σ.extended).map_short (fun e => Token.part e.tree σ) fun e r hopen => by
          obtain ⟨a, ha, hbraces⟩ := hopen
          exact ⟨a, by rw [ha]; rfl, hbraces⟩
      exact hescape.mono (Nat.zero_le _)
  · simp only [readToken_literal hmeaning n σ]
    exact .pure _

theorem readToken_steady (n : Nat) (σ : Setting) :
    Steady 0 (OpenToken σ) (readToken n σ) := by
  intro s
  cases s with
  | nil => exact .stay rfl rfl
  | cons c s =>
    by_cases hclose : c = ')'
    · rw [hclose]
      exact .stay rfl rfl
    by_cases hbar : c = '|'
    · rw [hbar]
      exact .stay rfl rfl
    · exact ((readToken_cons ⟨hclose, hbar⟩ n σ s).cons fun _ => rfl).mono (Nat.zero_le _)

theorem readToken_length_lt {n : Nat} {σ : Setting} {s r : List Char} {t : Token}
    (h : readToken n σ s = some (t, r)) : t = .stop ∨ r.length < s.length := by
  cases s with
  | nil =>
    cases h
    exact .inl rfl
  | cons c s =>
    by_cases hclose : c = ')'
    · rw [hclose] at h
      cases h
      exact .inl rfl
    by_cases hbar : c = '|'
    · rw [hbar] at h
      cases h
      exact .inl rfl
    · exact .inr (Nat.lt_succ_of_le ((readToken_cons ⟨hclose, hbar⟩ n σ s).shrinks h))

theorem readToken_enough {n m : Nat} {σ : Setting} {s : List Char} {o : Token × List Char}
    (h : readToken n σ s = some o) (hm : s.length ≤ m) : readToken m σ s = some o := by
  by_cases hclass : s.head? = some '['
  · obtain ⟨r, hr⟩ := List.head?_eq_some_iff.mp hclass
    rw [hr] at h hm ⊢
    obtain ⟨p, hp, ho⟩ := Option.map_eq_some_iff.mp h
    exact Option.map_eq_some_iff.mpr ⟨p, readClass_enough hp hm, ho⟩
  · have hsame : readToken n σ s = readToken m σ s := by
      unfold readToken
      split
      case h_9 => exact absurd rfl hclass
      all_goals rfl
    rw [← hsame]
    exact h

/-- What has been read, with the text that is left apart. -/
def outcome (o : Option (Tree × Progress)) : Option ((Tree × Setting) × List Char) :=
  o.map fun p => ((p.1, p.2.setting), p.2.rest)

/-- The other parts of a sequence, whose first parts have been read. -/
def readParts (n : Nat) (parts : List Tree) (σ : Setting) (s : List Char) :
    Option ((Tree × Setting) × List Char) :=
  outcome (readSequence n parts (σ.on s))

def readChoice (n : Nat) (σ : Setting) (s : List Char) : Option ((Tree × Setting) × List Char) :=
  outcome (readAlternatives n (σ.on s))

/-- The end of a group, and the parts behind it. -/
def readGroupEnd (n : Nat) (parts : List Tree) (σ : Setting) :
    List Char → Option ((Tree × Setting) × List Char)
  | ')' :: s => readParts n parts σ s
  | _ => none

/-- The other alternatives behind the first. -/
def readOthers (n : Nat) (first : Tree) (σ : Setting) :
    List Char → Option ((Tree × Setting) × List Char)
  | '|' :: s => (readChoice n σ s).map fun p => ((.alt first p.1.1, p.1.2), p.2)
  | s => some ((first, σ), s)

theorem readParts_succ (n : Nat) (parts : List Tree) (σ : Setting) (s : List Char) :
    readParts (n + 1) parts σ s = readToken n σ (skip σ.extended s) >>= fun p =>
      outcome (afterToken n parts σ p) := by
  unfold readParts outcome
  rw [readSequence_succ]
  exact Option.map_bind

theorem outcome_group (n : Nat) (parts : List Tree) (σ : Setting) (wrap : Tree → Tree)
    (inner : Setting) (s : List Char) : outcome (afterToken n parts σ (.group wrap inner, s)) =
      readChoice n inner s >>= fun p =>
        readGroupEnd n (wrap p.1.1 :: parts) ⟨p.1.2.groups, p.1.2.names, σ.extended⟩ p.2 := by
  simp only [afterToken, readChoice, outcome]
  cases readAlternatives n (inner.on s) with
  | none => rfl
  | some o =>
    obtain ⟨body, rest, groups, names, x⟩ := o
    simp only [Option.bind_eq_bind, Option.bind_some, Option.map_some]
    unfold readGroupEnd
    split <;> rfl

theorem readOthers_last {s : List Char} (hs : s.head? ≠ some '|') (n : Nat) (first : Tree)
    (σ : Setting) : readOthers n first σ s = some ((first, σ), s) := by
  unfold readOthers
  split
  · exact absurd rfl hs
  · rfl

theorem readChoice_succ (n : Nat) (σ : Setting) (s : List Char) : readChoice (n + 1) σ s =
    readParts n [] σ s >>= fun p => readOthers n p.1.1 p.1.2 p.2 := by
  unfold readChoice readParts
  rw [readAlternatives]
  cases readSequence n [] (σ.on s) with
  | none => rfl
  | some o =>
    obtain ⟨first, rest, groups, names, x⟩ := o
    by_cases hbar : rest.head? = some '|'
    · obtain ⟨r, hr⟩ := List.head?_eq_some_iff.mp hbar
      have hothers : readOthers n first ⟨groups, names, x⟩ ('|' :: r) =
          (outcome (readAlternatives n ⟨r, groups, names, x⟩)).map fun p =>
            ((.alt first p.1.1, p.1.2), p.2) := rfl
      rw [hr]
      refine Eq.trans ?_ hothers.symm
      simp only [Option.bind_eq_bind, Option.bind_some]
      cases readAlternatives n ⟨r, groups, names, x⟩ <;> rfl
    · have hothers := readOthers_last hbar n first ⟨groups, names, x⟩
      refine Eq.trans ?_ hothers.symm
      simp only [Option.bind_eq_bind, Option.bind_some]
      split
      · exact absurd rfl hbar
      · rfl

/-- Braces that hold nothing are no bounds. -/
theorem readBounds_open {x : Bool} {s : List Char} (h : skip x s = []) :
    readBounds x (s ++ closing) = none := by
  obtain hclosed | ⟨-, hclosed⟩ := skip_closing x s
  · unfold readBounds
    rw [hclosed, h]
    cases x <;> rfl
  · unfold readBounds
    rw [hclosed]
    cases x <;> rfl

theorem readParts_open {σ : Setting} {s : List Char} (h : skip σ.extended s = []) (n : Nat)
    (parts : List Tree) : readParts n parts σ ('{' :: s ++ closing) = none := by
  cases n with
  | zero => rfl
  | succ n =>
    have hskip : skip σ.extended ('{' :: s ++ closing) = '{' :: (s ++ closing) := by
      cases σ.extended with
      | false => rfl
      | true =>
        have hblank : Text.isWhitespace '{' = false := by decide
        simp [skip, skipBlanks, hblank]
    rw [readParts_succ, hskip]
    simp only [readToken, readBounds_open h]
    rfl

theorem readRepeated_steady {n : Nat} (h : ∀ parts σ, Steady 0 never (readParts n parts σ))
    (parts : List Tree) (σ : Setting) (min : Nat) (max : Option Nat) (greedy : Bool) :
    Steady 0 never fun s => outcome (afterToken n parts σ (.repetition min max greedy, s)) := by
  cases parts with
  | nil => exact .none
  | cons t ts =>
    by_cases ht : t.repeatable = true
    · have hrepeated (s : List Char) :
          outcome (afterToken n (t :: ts) σ (.repetition min max greedy, s)) =
            readParts n (.repeated min max greedy t :: ts) σ s := by
        simp only [afterToken, if_pos ht]
        rfl
      simp only [hrepeated]
      exact h _ _
    · have hnone (s : List Char) :
          outcome (afterToken n (t :: ts) σ (.repetition min max greedy, s)) = none := by
        simp only [afterToken, if_neg ht]
        rfl
      simp only [hnone]
      exact .none

theorem readGroupEnd_steady {n : Nat} (h : ∀ parts σ, Steady 0 never (readParts n parts σ))
    (parts : List Tree) (σ : Setting) : Steady 1 never (readGroupEnd n parts σ) := by
  refine .expect ')' (fun _ => rfl) rfl ?_ (h parts σ)
  intro c s hc
  simp [readGroupEnd, hc]

theorem readOthers_steady {n : Nat} (h : ∀ σ, Steady 0 never (readChoice n σ)) (first : Tree)
    (σ : Setting) : Steady 0 never (readOthers n first σ) :=
  .onHead '|' (by decide) (fun _ => rfl) ((h σ).map fun p => (Tree.alt first p.1, p.2))
    (.pure (first, σ)) (Nat.zero_le _) rfl
    fun _ _ hc => readOthers_last (by simpa using hc) n first σ

/-- Parts and alternatives are read alike with the closing behind the text. -/
theorem reading_steady (n : Nat) :
    (∀ parts σ, Steady 0 never (readParts n parts σ)) ∧ ∀ σ, Steady 0 never (readChoice n σ) := by
  induction n with
  | zero => exact ⟨fun _ _ => .none, fun _ => .none⟩
  | succ n ih =>
    obtain ⟨hparts, hchoice⟩ := ih
    constructor
    · intro parts σ
      have hstep : Steady 0 never fun s =>
          readToken n σ s >>= fun p => outcome (afterToken n parts σ p) := by
        refine (readToken_steady n σ).bind_short (n := 0) (fun t => ?_) fun t r hopen w r' h => ?_
        · cases t with
          | stop => exact .pure (Tree.ofParts parts.reverse, σ)
          | part t σ => exact hparts _ _
          | repetition min max greedy => exact readRepeated_steady hparts parts σ min max greedy
          | group wrap inner =>
            simp only [outcome_group]
            exact (hchoice inner).bind fun p => (readGroupEnd_steady hparts (wrap p.1 :: parts)
              ⟨p.2.groups, p.2.names, σ.extended⟩).mono (Nat.zero_le _)
        · obtain ⟨a, ht, -, u, hr, hskip⟩ := hopen
          have hnone : outcome (afterToken n parts σ (t, r ++ closing)) = none := by
            rw [ht, hr]
            exact readParts_open hskip n _
          rw [hnone] at h
          cases h
      intro s
      exact (hstep.skip s).congr (readParts_succ ..) (readParts_succ ..)
    · intro σ s
      have hstep : Steady 0 never fun s =>
          readParts n [] σ s >>= fun p => readOthers n p.1.1 p.1.2 p.2 :=
        (hparts [] σ).bind fun p => readOthers_steady hchoice p.1 p.2
      exact (hstep s).congr (readChoice_succ ..) (readChoice_succ ..)

section

variable {n m : Nat} {o : (Tree × Setting) × List Char}
  (hparts : ∀ parts σ (u : List Char) o, 2 * u.length + 1 ≤ m →
    readParts n parts σ u = some o → readParts m parts σ u = some o)
  (hchoice : ∀ σ (u : List Char) o, 2 * u.length + 2 ≤ m →
    readChoice n σ u = some o → readChoice m σ u = some o)

include hparts

theorem readGroupEnd_enough {parts : List Tree} {σ : Setting} {s : List Char}
    (hm : 2 * s.length ≤ m + 1) (h : readGroupEnd n parts σ s = some o) :
    readGroupEnd m parts σ s = some o := by
  unfold readGroupEnd at h ⊢
  split at h
  · rw [List.length_cons] at hm
    exact hparts _ _ _ _ (by omega) h
  · cases h

include hchoice

theorem afterToken_enough {parts : List Tree} {σ : Setting} {t : Token} {s : List Char}
    (hm : t = .stop ∨ 2 * s.length + 2 ≤ m) (h : outcome (afterToken n parts σ (t, s)) = some o) :
    outcome (afterToken m parts σ (t, s)) = some o := by
  have hroom (ht : t ≠ .stop) : 2 * s.length + 2 ≤ m := hm.resolve_left ht
  cases t with
  | stop => exact h
  | part t σ => exact hparts _ _ _ _ (Nat.le_of_succ_le (hroom (by simp))) h
  | repetition min max greedy =>
    cases parts with
    | nil => exact h
    | cons t ts =>
      simp only [afterToken] at h ⊢
      split at h
      · next ht =>
        rw [if_pos ht]
        exact hparts _ _ _ _ (Nat.le_of_succ_le (hroom (by simp))) h
      · cases h
  | group wrap inner =>
    rw [outcome_group] at h ⊢
    obtain ⟨p, hp, hend⟩ := Option.bind_eq_some_iff.mp h
    have hlength := ((reading_steady n).2 inner s).shrinks hp
    have hs := hroom (by simp)
    refine Option.bind_eq_some_iff.mpr ⟨p, hchoice _ _ _ hs hp, ?_⟩
    exact readGroupEnd_enough hparts (by omega) hend

end

/-- Two steps for each character, and one or two more, are enough. -/
theorem reading_enough (n : Nat) :
    (∀ m parts σ (s : List Char) o, 2 * s.length + 1 ≤ m →
      readParts n parts σ s = some o → readParts m parts σ s = some o) ∧
      ∀ m σ (s : List Char) o, 2 * s.length + 2 ≤ m →
        readChoice n σ s = some o → readChoice m σ s = some o := by
  induction n with
  | zero => exact ⟨fun _ _ _ _ _ _ h => (by cases h), fun _ _ _ _ _ h => (by cases h)⟩
  | succ n ih =>
    obtain ⟨hparts, hchoice⟩ := ih
    constructor
    · intro m parts σ s o hm h
      obtain ⟨m, hsucc⟩ := Nat.exists_eq_succ_of_ne_zero (Nat.ne_zero_of_lt hm)
      have hskip := skip_length_le σ.extended s
      rw [hsucc, Nat.succ_eq_add_one] at hm ⊢
      rw [readParts_succ] at h ⊢
      obtain ⟨⟨t, r⟩, ht, ho⟩ := Option.bind_eq_some_iff.mp h
      have ht' := readToken_enough ht (m := m) (by omega)
      refine Option.bind_eq_some_iff.mpr ⟨_, ht', afterToken_enough (hparts m) (hchoice m) ?_ ho⟩
      exact (readToken_length_lt ht).imp_right fun hr => by omega
    · intro m σ s o hm h
      obtain ⟨m, hsucc⟩ := Nat.exists_eq_succ_of_ne_zero (Nat.ne_zero_of_lt hm)
      rw [hsucc, Nat.succ_eq_add_one] at hm ⊢
      rw [readChoice_succ] at h ⊢
      obtain ⟨p, hp, ho⟩ := Option.bind_eq_some_iff.mp h
      have hlength := ((reading_steady n).1 [] σ s).shrinks hp
      refine Option.bind_eq_some_iff.mpr ⟨p, hparts m [] σ s p (by omega) hp, ?_⟩
      by_cases hbar : p.2.head? = some '|'
      · obtain ⟨r, hr⟩ := List.head?_eq_some_iff.mp hbar
        rw [hr] at ho hlength ⊢
        rw [List.length_cons] at hlength
        obtain ⟨q, hq, ho⟩ := Option.map_eq_some_iff.mp ho
        exact Option.map_eq_some_iff.mpr ⟨q, hchoice m _ _ _ (by omega) hq, ho⟩
      · rw [readOthers_last hbar] at ho ⊢
        exact ho

end NamePattern.CharRegex
