import NamePattern.Proofs.Escapes

/-! Bracketed classes are read alike with the closing behind the text. -/
namespace NamePattern.CharRegex

variable {x : Bool} {c : Char} {s : List Char}

/-- A run of characters that goes on to the end of the text goes on to the end of the closing. -/
theorem span_closing {p : Char → Bool} (hp : closing.all p = true) (s : List Char) :
    (s.dropWhile p = [] ∧ (s ++ closing).dropWhile p = []) ∨
      (∃ c r, s.dropWhile p = c :: r ∧ (s ++ closing).dropWhile p = c :: (r ++ closing) ∧
        (s ++ closing).takeWhile p = s.takeWhile p) := by
  induction s with
  | nil =>
    refine .inl ⟨rfl, ?_⟩
    simp [closing] at hp ⊢
    simp [hp]
  | cons c s ih =>
    simp only [List.cons_append, List.dropWhile_cons, List.takeWhile_cons]
    by_cases hc : p c = true
    · simp only [if_pos hc]
      obtain ih | ⟨d, r, hs, hclosed, htake⟩ := ih
      · exact .inl ih
      · exact .inr ⟨d, r, hs, hclosed, by rw [htake]⟩
    · simp only [if_neg hc]
      exact .inr ⟨c, s, rfl, rfl, trivial⟩

/-- The name of an ASCII class up to its two closing characters. -/
def readAsciiName (negated : Bool) (s : List Char) : Option (ClassTree × List Char) :=
  match asciiRuns? (String.ofList (s.takeWhile (· != ':'))), s.dropWhile (· != ':') with
  | some runs, ':' :: ']' :: s => some (.ascii negated runs, s)
  | _, _ => none

theorem readAsciiName_closing (negated : Bool) (s : List Char) :
    readAsciiName negated (s ++ closing) =
      (readAsciiName negated s).map fun p => (p.1, p.2 ++ closing) := by
  have hp : closing.all (· != ':') = true := by decide
  unfold readAsciiName
  obtain ⟨hs, hclosed⟩ | ⟨c, r, hs, hclosed, htake⟩ := span_closing hp s
  · rw [hs, hclosed]
    simp
  · rw [hs, hclosed, htake]
    cases asciiRuns? (String.ofList (s.takeWhile (· != ':'))) with
    | none => rfl
    | some runs =>
      cases r with
      | nil => simp [closing]
      | cons d r =>
        by_cases hc : c = ':'
        · by_cases hd : d = ']'
          · rw [hc, hd]
            rfl
          · simp [hd]
        · simp [hc]

theorem readAsciiName_suffix {negated : Bool} {v : ClassTree} {r : List Char}
    (h : readAsciiName negated s = some (v, r)) : ∃ u, s = u ++ r := by
  have hs := (List.takeWhile_append_dropWhile (p := (· != ':')) (l := s)).symm
  unfold readAsciiName at h
  split at h
  · next hdrop =>
    cases h
    rw [hdrop] at hs
    exact ⟨_ ++ [':', ']'], by rw [List.append_assoc]; exact hs⟩
  · cases h

theorem readAsciiClass_colon (s : List Char) : readAsciiClass (':' :: s) =
    if s.head? = some '^' then readAsciiName true s.tail else readAsciiName false s := by
  cases s with
  | nil => rfl
  | cons c s =>
    by_cases hc : c = '^'
    · rw [hc]
      rfl
    · simp [readAsciiClass, hc]
      rfl

/-- A class such as `[:alpha:]` is recognized or not, whatever stands behind the text. -/
theorem readAsciiClass_closing (s : List Char) : readAsciiClass (s ++ closing) =
    (readAsciiClass s).map fun p => (p.1, p.2 ++ closing) := by
  cases s with
  | nil => rfl
  | cons c s =>
    by_cases hc : c = ':'
    · rw [hc, List.cons_append, readAsciiClass_colon, readAsciiClass_colon]
      cases s with
      | nil => rfl
      | cons d s =>
        by_cases hd : d = '^'
        · rw [hd]
          exact readAsciiName_closing true s
        · simpa [hd] using readAsciiName_closing false (d :: s)
    · simp [readAsciiClass, hc]

theorem readAsciiClass_suffix {v : ClassTree} {r : List Char}
    (h : readAsciiClass s = some (v, r)) : ∃ c u, s = c :: u ++ r := by
  cases s with
  | nil => cases h
  | cons c s =>
    refine ⟨c, ?_⟩
    simp only [List.cons_append, List.cons.injEq, true_and]
    by_cases hc : c = ':'
    · rw [hc, readAsciiClass_colon] at h
      split at h
      · next hnegated =>
        obtain ⟨t, ht⟩ := List.head?_eq_some_iff.mp hnegated
        obtain ⟨u, hu⟩ := readAsciiName_suffix h
        rw [ht] at hu ⊢
        exact ⟨'^' :: u, congrArg _ hu⟩
      · exact readAsciiName_suffix h
    · simp [readAsciiClass, hc] at h

theorem readAsciiClass_length_lt {v : ClassTree} {r : List Char}
    (h : readAsciiClass s = some (v, r)) : r.length < s.length := by
  obtain ⟨c, u, hs⟩ := readAsciiClass_suffix h
  have hlength : s.length = u.length + r.length + 1 := by
    rw [hs, List.length_append, List.length_cons, Nat.succ_add]
  omega

theorem readClassItem_steady (x : Bool) : Steady 1 (OpenEscape x) (readClassItem x) := by
  refine .ofCons rfl fun c s => ?_
  by_cases hc : c = '\\'
  · rw [hc]
    exact (((readEscape_steady x).mono (Nat.zero_le _)) s).cons fun _ => rfl
  · have hliteral : Steady 0 (OpenEscape x) fun s => some (.literal ⟨c, false⟩, s) := .pure _
    exact (hliteral s).cons fun _ => by simp [readClassItem]

/-- Whether a hyphen makes no range, given what follows it. -/
def HyphenAlone (x : Bool) (s : List Char) : Prop :=
  afterHyphen? x s = some ']' ∨ afterHyphen? x s = some '-'

instance (x : Bool) (s : List Char) : Decidable (HyphenAlone x s) :=
  inferInstanceAs (Decidable (_ ∨ _))

/-- With the closing behind the text, the character that decides what a hyphen means is the same one,
or a parenthesis in place of a blank, of a `#` or of none. -/
theorem afterHyphen?_closing (x : Bool) (s : List Char) :
    afterHyphen? x (s ++ closing) = afterHyphen? x s ∨
      afterHyphen? x (s ++ closing) = some ')' ∧
        ∀ d, afterHyphen? x s = some d → Text.isWhitespace d = true ∨ d = '#' := by
  cases x with
  | false =>
    cases s with
    | nil => exact .inr ⟨rfl, fun d h => by cases h⟩
    | cons d s => exact .inl rfl
  | true =>
    unfold afterHyphen?
    rw [if_pos rfl, if_pos rfl, dropWhile_isWhitespace_closing]
    have hfirst {r : List Char} (hr : s.dropWhile Text.isWhitespace = r) (hhead : ∀ d ∈ r.head?, d = '#')
        (d : Char) (hd : s.head? = some d) : Text.isWhitespace d = true ∨ d = '#' := by
      by_cases hblank : Text.isWhitespace d = true
      · exact .inl hblank
      · obtain ⟨t, ht⟩ := List.head?_eq_some_iff.mp hd
        rw [ht, List.dropWhile_cons, if_neg hblank] at hr
        rw [← hr] at hhead
        exact .inr (hhead d rfl)
    cases hs : s.dropWhile Text.isWhitespace with
    | nil => exact .inr ⟨rfl, hfirst hs (by simp)⟩
    | cons c t =>
      by_cases hc : c = '#'
      · rw [hc] at hs ⊢
        simp only [List.cons_append, dropWhile_isWhitespace_closing]
        cases ht : t.dropWhile Text.isWhitespace with
        | nil => exact .inr ⟨rfl, hfirst hs (by simp)⟩
        | cons d u => exact .inl rfl
      · refine .inl ?_
        simp [hc]

theorem hyphenAlone_closing (x : Bool) (s : List Char) :
    HyphenAlone x (s ++ closing) ↔ HyphenAlone x s := by
  unfold HyphenAlone
  obtain h | ⟨hclosed, h⟩ := afterHyphen?_closing x s
  · rw [h]
  · have hnot {d : Char} (hd : Text.isWhitespace d = false) (hne : d ≠ '#') :
        afterHyphen? x s ≠ some d := by
      intro hs
      obtain hblank | hhash := h d hs
      · rw [hd] at hblank
        cases hblank
      · exact hne hhash
    rw [hclosed]
    simp [hnot (d := ']') (by decide) (by decide), hnot (d := '-') (by decide) (by decide)]

/-- The item that stands alone in a class, if there is one. -/
def Escape.single? : Escape → Option ClassTree
  | .literal l => some (.literal l)
  | .shorthand n k => some (.shorthand n k)
  | .property n q => some (.property n q)
  | .assertion _ => none

/-- The end of a range. -/
def readRangeEnd (x : Bool) (first : Escape) (s : List Char) : Option (ClassTree × List Char) := do
  let (last, s) ← readClassItem x (skip x s)
  match first, last with
  | .literal a, .literal b => if a.char ≤ b.char then return (.range a b, s) else none
  | _, _ => none

/-- What follows the first item of a class or of a range. -/
def readAfterItem (x : Bool) (first : Escape) : List Char → Option (ClassTree × List Char)
  | [] => none
  | '-' :: s =>
    if HyphenAlone x s then first.single?.bind fun t => some (t, '-' :: s) else readRangeEnd x first s
  | s => first.single?.bind fun t => some (t, s)

/-- A text that ends where more has to come. -/
def AtEnd (_ : ClassTree) (r : List Char) : Prop := r = []

theorem readRangeEnd_steady (x : Bool) (first : Escape) : Steady 1 AtEnd (readRangeEnd x first) := by
  refine (readClassItem_steady x).skip.bind_short (n := 0) (fun last => ?_) fun last r hopen w r' h => ?_
  · cases first with
    | literal a =>
      cases last with
      | literal b => exact .ite (.pure _) .none
      | _ => exact .none
    | _ => exact .none
  · obtain ⟨a, ha, -⟩ := hopen
    rw [ha] at h
    cases first <;> cases h

theorem readAfterItem_stay (x : Bool) (first : Escape) (hs : s ≠ []) (hc : s.head? ≠ some '-') :
    readAfterItem x first s = first.single?.bind fun t => some (t, s) := by
  cases s with
  | nil => exact absurd rfl hs
  | cons c s =>
    simp at hc
    simp [readAfterItem, hc]

theorem readAfterItem_steady (x : Bool) (first : Escape) :
    Steady 0 AtEnd (readAfterItem x first) := by
  have hstay : Steady 0 AtEnd fun s => first.single?.bind fun t => some (t, s) := .option fun t => .pure t
  intro s
  cases s with
  | nil =>
    refine .ofNone rfl fun h _ => ?_
    obtain ⟨t, -, ht⟩ := Option.bind_eq_some_iff.mp h
    cases ht
    exact ⟨[], rfl, rfl⟩
  | cons c s =>
    by_cases hc : c = '-'
    · rw [hc]
      by_cases halone : HyphenAlone x s
      · have hclosed := (hyphenAlone_closing x s).mpr halone
        exact (hstay ('-' :: s)).congr (if_pos halone) (if_pos hclosed)
      · have hclosed := mt (hyphenAlone_closing x s).mp halone
        have hrange : SteadyAt 2 AtEnd (fun s => readRangeEnd x first s.tail) ('-' :: s) :=
          (readRangeEnd_steady x first s).cons fun _ => rfl
        exact (hrange.mono (Nat.zero_le _)).congr (if_neg halone) (if_neg hclosed)
    · exact (hstay (c :: s)).congr (readAfterItem_stay x first (by simp) (by simpa using hc))
        (readAfterItem_stay x first (by simp) (by simpa using hc))

theorem readAfterItem_assertion (x : Bool) (a : Assertion) (s : List Char) :
    readAfterItem x (.assertion a) s = none := by
  have hrange (s : List Char) : readRangeEnd x (.assertion a) s = none := by
    unfold readRangeEnd
    cases readClassItem x (skip x s) <;> rfl
  unfold readAfterItem
  split
  · rfl
  · split
    · rfl
    · exact hrange _
  · rfl

theorem readClassRange_steady (x : Bool) : Steady 1 AtEnd (readClassRange x) := by
  refine (readClassItem_steady x).bind_short (p := fun (first, s) => readAfterItem x first (skip x s))
    (fun first => (readAfterItem_steady x first).skip) fun _ _ hopen w r' h => ?_
  obtain ⟨a, ha, -⟩ := hopen
  rw [ha] at h
  simp only [readAfterItem_assertion] at h
  cases h

/-- Whether a class is negated. -/
def readNegation (x : Bool) : List Char → Bool × List Char
  | '^' :: s => (true, skip x s)
  | s => (false, s)

theorem readNegation_steady (x : Bool) : Steady 0 never fun s => some (readNegation x s) := by
  have hnegated : Steady 0 never fun s => some (true, skip x s) := (Steady.pure true).skip
  refine .onHead '^' (by decide) (fun _ => rfl) hnegated (.pure false) (Nat.zero_le _) rfl ?_
  intro c s hc
  simp [readNegation, hc]

/-- What follows the hyphens at the front of a class: a bracket is a literal if there were none. -/
def readFrontEnd (x negated : Bool) (hyphens s : List Char) : (Bool × List ClassTree) × List Char :=
  match hyphens, s with
  | [], ']' :: s => ((negated, [.literal ⟨']', false⟩]), skip x s)
  | hyphens, s => ((negated, hyphens.map fun c => .literal ⟨c, false⟩), s)

theorem readFrontEnd_steady (x negated : Bool) (hyphens : List Char) :
    Steady 0 never fun s => some (readFrontEnd x negated hyphens s) := by
  cases hyphens with
  | cons c hyphens => exact .pure _
  | nil =>
    have hbracket : Steady 0 never fun s =>
        some ((negated, [ClassTree.literal ⟨']', false⟩]), skip x s) := (Steady.pure _).skip
    refine .onHead ']' (by decide) (fun _ => rfl) hbracket (.pure (negated, [])) (Nat.zero_le _) rfl ?_
    intro c s hc
    simp [readFrontEnd, hc]

/-- The front of a class, with what is left apart. -/
def readFront (x : Bool) (s : List Char) : Option ((Bool × List ClassTree) × List Char) :=
  some (readNegation x (skip x s)) >>= fun (negated, s) =>
    some (takeSkipping x (· == '-') false s) >>= fun (hyphens, s) =>
      some (readFrontEnd x negated hyphens s)

theorem readFront_steady (x : Bool) : Steady 0 never (readFront x) :=
  (readNegation_steady x).skip.bind fun negated =>
    (Steady.take (by decide)).bind fun hyphens => readFrontEnd_steady x negated hyphens

theorem readClassFront_eq (x : Bool) (s : List Char) : readClassFront x s =
    match readNegation x (skip x s) with
    | (negated, s) =>
      match takeSkipping x (· == '-') false s with
      | ([], ']' :: s) => (negated, [.literal ⟨']', false⟩], skip x s)
      | (hyphens, s) => (negated, hyphens.map fun c => .literal ⟨c, false⟩, s) := rfl

theorem readFront_eq (x : Bool) (s : List Char) : readFront x s =
    some (((readClassFront x s).1, (readClassFront x s).2.1), (readClassFront x s).2.2) := by
  rw [readClassFront_eq]
  unfold readFront
  cases readNegation x (skip x s) with
  | mk negated r =>
    simp only [Option.bind_eq_bind, Option.bind_some]
    cases takeSkipping x (· == '-') false r with
    | mk hyphens u =>
      cases hyphens with
      | cons c hyphens => rfl
      | nil =>
        cases u with
        | nil => rfl
        | cons c u =>
          by_cases hc : c = ']'
          · rw [hc]
            rfl
          · simp [readFrontEnd, hc]

/-- A class in brackets, after the opening one, given how its items are read. -/
def readBracketed (x : Bool)
    (items : List ClassTree → List Char → Option (ClassTree × List Char)) (s : List Char) :
    Option ((Bool × ClassTree) × List Char) :=
  readFront x s >>= fun (front, s) => items front.2.reverse s >>= fun (body, s) =>
    some ((front.1, body), s)

theorem readBracketed_steady {items : List ClassTree → List Char → Option (ClassTree × List Char)}
    (x : Bool) (h : ∀ ts, Steady 1 never (items ts)) : Steady 1 never (readBracketed x items) :=
  (readFront_steady x).bind_consuming fun _ => (h _).bind fun _ => .pure _

section

variable (x : Bool) (rec : List ClassTree → Pending → List Char → Option (ClassTree × List Char))
  (items : List ClassTree) (left : Pending)

/-- A range or an item, and the other items behind it. -/
def readRangeStep (s : List Char) : Option (ClassTree × List Char) :=
  readClassRange x s >>= fun (item, s) => rec (item :: items) left s

/-- What an opening bracket within a class begins, and the other items behind it. -/
def readNested (s : List Char) : Option (ClassTree × List Char) :=
  match readAsciiClass s with
  | some (item, s) => rec (item :: items) left s
  | none => readBracketed x (fun ts s => rec ts none s) s >>= fun (b, s) =>
    rec (.bracketed b.1 b.2 :: items) left s

/-- One step through the items of a class, given how to go on. -/
def classStep (s : List Char) : Option (ClassTree × List Char) :=
  let operator (op : SetOperator) (s : List Char) :=
    rec [] (some (op, left.close (.ofItems items.reverse))) s
  match s with
  | [] => none
  | ']' :: s => some (left.close (.ofItems items.reverse), s)
  | '&' :: '&' :: s => operator .intersection s
  | '-' :: '-' :: s => operator .difference s
  | '~' :: '~' :: s => operator .symmetricDifference s
  | '[' :: s => readNested x rec items left s
  | s => readRangeStep x rec items left s

/-- Characters that are an operator of a class when written twice. -/
def doubled : List Char := ['&', '-', '~']

theorem classStep_range {c : Char} {s : List Char} (hbracket : c ≠ ']') (hnested : c ≠ '[')
    (hdoubled : c ∈ doubled → s.head? ≠ some c) :
    classStep x rec items left (c :: s) = readRangeStep x rec items left (c :: s) := by
  have hother (d : Char) (hd : d ∈ doubled) (r : List Char) : c :: s ≠ d :: d :: r := by
    intro h
    cases h
    exact hdoubled hd rfl
  unfold classStep
  split
  · cases ‹c :: s = []›
  · cases ‹c :: s = _›
    exact absurd rfl hbracket
  · exact absurd ‹_› (hother '&' (by decide) _)
  · exact absurd ‹_› (hother '-' (by decide) _)
  · exact absurd ‹_› (hother '~' (by decide) _)
  · cases ‹c :: s = _›
    exact absurd rfl hnested
  · rfl

end

theorem readClassItems_succ (x : Bool) (n : Nat) (items : List ClassTree) (left : Pending)
    (s : List Char) : readClassItems x (n + 1) items left s =
      classStep x (readClassItems x n) items left (skip x s) := by
  rw [readClassItems]
  unfold classStep readNested readBracketed
  simp only [readFront_eq, Option.bind_eq_bind, Option.bind_assoc, Option.bind_some]
  rfl

section

variable {rec : List ClassTree → Pending → List Char → Option (ClassTree × List Char)}
  (h : ∀ ts p, Steady 1 never (rec ts p)) (items : List ClassTree) (left : Pending)

include h

theorem readRangeStep_steady (x : Bool) : Steady 1 never (readRangeStep x rec items left) := by
  refine Steady.mono ((readClassRange_steady x).bind_short (n := 1) (fun item => h _ _) ?_) (by decide)
  -- What is left when the text ends after an item is the closing, and some of it is then consumed.
  intro item r hr w r' hw
  rw [hr] at hw
  exact Nat.lt_of_succ_le ((h _ _ _).shrinks hw)

theorem readNested_steady (x : Bool) : Steady 1 never (readNested x rec items left) := by
  have hbracketed : Steady 1 never fun s =>
      readBracketed x (fun ts s => rec ts none s) s >>= fun (b, s) =>
        rec (.bracketed b.1 b.2 :: items) left s :=
    (readBracketed_steady x fun ts => h ts none).bind fun b => (h _ _).mono (Nat.zero_le _)
  intro s
  have hclosed := readAsciiClass_closing s
  cases hascii : readAsciiClass s with
  | none =>
    rw [hascii] at hclosed
    refine (hbracketed s).congr ?_ ?_
    · simp only [readNested, hascii]
    · simp only [readNested, hclosed, Option.map_none]
  | some p =>
    rw [hascii] at hclosed
    obtain ⟨c, u, hs⟩ := readAsciiClass_suffix hascii
    have hrec := h (p.1 :: items) left p.2
    have halone : readNested x rec items left s = rec (p.1 :: items) left p.2 := by
      simp only [readNested, hascii]
    have hbehind : readNested x rec items left (s ++ closing) =
        rec (p.1 :: items) left (p.2 ++ closing) := by
      simp only [readNested, hclosed, Option.map_some]
    refine ⟨fun ho => ?_, ?_⟩
    · rw [halone] at ho
      obtain ⟨v, hv, -⟩ := hrec.taken ho
      exact ⟨c :: u ++ v, by rw [List.append_assoc, ← hv]; exact hs, by simp⟩
    · rw [halone, hbehind]
      exact hrec.agrees

theorem classStep_steady (x : Bool) : Steady 1 never (classStep x rec items left) := by
  refine .ofCons rfl fun c s => ?_
  by_cases hbracket : c = ']'
  · rw [hbracket]
    exact (Steady.pure (left.close (.ofItems items.reverse)) s).cons fun _ => rfl
  by_cases hnested : c = '['
  · rw [hnested]
    exact (((readNested_steady h items left x).mono (Nat.zero_le _)) s).cons fun _ => rfl
  by_cases hdoubled : c ∈ doubled ∧ s.head? = some c
  · obtain ⟨hc, hs⟩ := hdoubled
    obtain ⟨r, hr⟩ := List.head?_eq_some_iff.mp hs
    have hoperator (op : SetOperator) :
        Steady 1 never (rec [] (some (op, left.close (.ofItems items.reverse)))) := h _ _
    rw [hr]
    refine SteadyAt.mono (k := 3) ?_ (by decide)
    simp only [doubled, List.mem_cons, List.not_mem_nil, or_false] at hc
    obtain hc | hc | hc := hc
    · rw [hc]
      exact (hoperator .intersection r).cons_cons fun _ => rfl
    · rw [hc]
      exact (hoperator .difference r).cons_cons fun _ => rfl
    · rw [hc]
      exact (hoperator .symmetricDifference r).cons_cons fun _ => rfl
  · have hrange (r : List Char) (hr : c ∈ doubled → r.head? ≠ some c) :=
      classStep_range x rec items left hbracket hnested hr
    have hs : c ∈ doubled → s.head? ≠ some c := fun hc hs => hdoubled ⟨hc, hs⟩
    refine (readRangeStep_steady h items left x (c :: s)).congr (hrange s hs) (hrange _ fun hc => ?_)
    cases s with
    | nil =>
      intro hs
      cases hs
      exact absurd hc (by decide)
    | cons d s => exact hs hc

end

theorem readClassItems_steady (x : Bool) (n : Nat) (items : List ClassTree) (left : Pending) :
    Steady 1 never (readClassItems x n items left) := by
  induction n generalizing items left with
  | zero => exact .none
  | succ n ih =>
    intro s
    exact ((classStep_steady ih items left x).skip s).congr (readClassItems_succ ..)
      (readClassItems_succ ..)

theorem readClass_eq (x : Bool) (n : Nat) (s : List Char) : readClass x n s =
    (readBracketed x (fun ts s => readClassItems x n ts none s) s).map fun p =>
      (.bracketed p.1.1 p.1.2, p.2) := by
  unfold readClass readBracketed
  simp only [readFront_eq, Option.bind_eq_bind, Option.bind_some, Option.map_bind]
  rfl

theorem readClass_steady (x : Bool) (n : Nat) : Steady 1 never (readClass x n) := by
  have h : Steady 1 never fun s =>
      (readBracketed x (fun ts s => readClassItems x n ts none s) s).map fun p =>
        ((Tree.bracketed p.1.1 p.1.2), p.2) :=
    (readBracketed_steady x fun ts => readClassItems_steady x n ts none).map fun b =>
      Tree.bracketed b.1 b.2
  intro s
  exact (h s).congr (readClass_eq ..) (readClass_eq ..)

section

variable {rec rec' : List ClassTree → Pending → List Char → Option (ClassTree × List Char)}
  {items : List ClassTree} {left : Pending} {o : ClassTree × List Char}

theorem readRangeStep_mono
    (hrec : ∀ ts p (u : List Char) o, u.length < s.length → rec ts p u = some o → rec' ts p u = some o)
    (h : readRangeStep x rec items left s = some o) : readRangeStep x rec' items left s = some o := by
  obtain ⟨⟨item, u⟩, hu, ho⟩ := Option.bind_eq_some_iff.mp h
  have hlength := (readClassRange_steady x s).shrinks hu
  unfold readRangeStep
  rw [hu]
  exact hrec _ _ _ _ hlength ho

theorem readBracketed_mono {items items' : List ClassTree → List Char → Option (ClassTree × List Char)}
    {o : (Bool × ClassTree) × List Char}
    (hitems : ∀ ts (u : List Char) o, u.length ≤ s.length → items ts u = some o → items' ts u = some o)
    (h : readBracketed x items s = some o) : readBracketed x items' s = some o := by
  unfold readBracketed at h ⊢
  cases hfront : readFront x s with
  | none =>
    rw [hfront] at h
    cases h
  | some p =>
    rw [hfront] at h
    have hu := (readFront_steady x s).shrinks hfront
    simp only [Option.bind_eq_bind, Option.bind_some] at h ⊢
    cases hbody : items p.1.2.reverse p.2 with
    | none =>
      rw [hbody] at h
      cases h
    | some q =>
      rw [hbody] at h
      rw [hitems _ _ _ hu hbody]
      exact h

theorem readNested_mono (hsteady : ∀ ts p, Steady 1 never (rec ts p))
    (hrec : ∀ ts p (u : List Char) o, u.length ≤ s.length → rec ts p u = some o → rec' ts p u = some o)
    (h : readNested x rec items left s = some o) : readNested x rec' items left s = some o := by
  unfold readNested at h ⊢
  cases hascii : readAsciiClass s with
  | some p =>
    rw [hascii] at h
    exact hrec _ _ _ _ (Nat.le_of_lt (readAsciiClass_length_lt hascii)) h
  | none =>
    rw [hascii] at h
    obtain ⟨⟨b, r⟩, hb, ho⟩ := Option.bind_eq_some_iff.mp h
    have hlength := (readBracketed_steady x (fun ts => hsteady ts none) s).shrinks hb
    have hb' := readBracketed_mono (fun ts u o hu => hrec ts none u o hu) hb
    exact Option.bind_eq_some_iff.mpr ⟨_, hb', hrec _ _ _ _ (by omega) ho⟩

theorem classStep_mono (hsteady : ∀ ts p, Steady 1 never (rec ts p))
    (hrec : ∀ ts p (u : List Char) o, u.length < s.length → rec ts p u = some o → rec' ts p u = some o)
    (h : classStep x rec items left s = some o) : classStep x rec' items left s = some o := by
  cases s with
  | nil => cases h
  | cons c s =>
    by_cases hbracket : c = ']'
    · rw [hbracket] at h ⊢
      exact h
    by_cases hnested : c = '['
    · rw [hnested] at h ⊢
      exact readNested_mono hsteady (fun ts p u o hu => hrec ts p u o (Nat.lt_succ_of_le hu)) h
    by_cases hdoubled : c ∈ doubled ∧ s.head? = some c
    · obtain ⟨hc, hs⟩ := hdoubled
      obtain ⟨r, hr⟩ := List.head?_eq_some_iff.mp hs
      have hlength : r.length < (c :: s).length := by
        rw [hr, List.length_cons, List.length_cons]
        omega
      have hoperator (op : SetOperator) := hrec [] (some (op, left.close (.ofItems items.reverse))) r o hlength
      rw [hr] at h ⊢
      simp only [doubled, List.mem_cons, List.not_mem_nil, or_false] at hc
      obtain hc | hc | hc := hc
      · rw [hc] at h ⊢
        exact hoperator _ h
      · rw [hc] at h ⊢
        exact hoperator _ h
      · rw [hc] at h ⊢
        exact hoperator _ h
    · have hs : c ∈ doubled → s.head? ≠ some c := fun hc hs => hdoubled ⟨hc, hs⟩
      rw [classStep_range _ _ _ _ hbracket hnested hs] at h ⊢
      exact readRangeStep_mono hrec h

end

/-- The items of a class need no more steps than there are characters, and one. -/
theorem readClassItems_enough {n m : Nat} {items : List ClassTree} {left : Pending}
    {o : ClassTree × List Char} (h : readClassItems x n items left s = some o) (hm : s.length < m) :
    readClassItems x m items left s = some o := by
  induction n generalizing m items left s o with
  | zero => cases h
  | succ n ih =>
    obtain ⟨m, hsucc⟩ := Nat.exists_eq_succ_of_ne_zero (Nat.ne_zero_of_lt hm)
    have hskip := skip_length_le x s
    rw [hsucc, Nat.succ_eq_add_one] at hm ⊢
    rw [readClassItems_succ] at h ⊢
    refine classStep_mono (readClassItems_steady x n) (fun ts p u o hu h => ih h ?_) h
    omega

theorem readClass_enough {n m : Nat} {o : Tree × List Char} (h : readClass x n s = some o)
    (hm : s.length < m) : readClass x m s = some o := by
  rw [readClass_eq] at h ⊢
  obtain ⟨p, hp, ho⟩ := Option.map_eq_some_iff.mp h
  have hp' := readBracketed_mono
    (fun ts u o hu h => readClassItems_enough h (Nat.lt_of_le_of_lt hu hm)) hp
  exact Option.map_eq_some_iff.mpr ⟨p, hp', ho⟩

end NamePattern.CharRegex
