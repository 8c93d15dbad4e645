import NamePattern.Proofs.Steady

/-! Numbers, bounds and escapes are read alike with the closing behind the text. -/
namespace NamePattern.CharRegex
variable {x : Bool} {c : Char} {s : List Char}

/-- Digits, with the blanks behind them. -/
theorem readDigits_steady (x : Bool) : Steady 0 never fun s =>
    some (takeSkipping x Char.isDigit false s) >>= fun (digits, s) =>
      if digits.isEmpty ∨ boundLimit ≤ ofDigits 10 digits then none
      else some (ofDigits 10 digits, s.dropWhile Text.isWhitespace) :=
  (Steady.take (by decide)).bind fun _ => .ite .none (Steady.pure _).blanks

theorem readDecimal_steady (x : Bool) : Steady 0 never (readDecimal x) :=
  (readDigits_steady x).blanks

/-- The upper bound of a repetition up to the closing brace. -/
def readUpper (x : Bool) (min : Nat) (s : List Char) : Option ((Nat × Option Nat) × List Char) := do
  let (max, s) ← readDecimal x s
  match s with
  | '}' :: s => if min ≤ max then return ((min, some max), s) else none
  | _ => none

theorem readUpper_steady (x : Bool) (min : Nat) : Steady 0 never (readUpper x min) := by
  refine (readDecimal_steady x).bind fun max => ?_
  refine (Steady.expect (k := 0) '}' (fun _ => rfl) rfl ?_ (.ite (.pure _) .none)).mono
    (Nat.zero_le _)
  intro c s hc
  simp [hc]

/-- What follows the comma of a repetition. -/
def readAfterComma (x : Bool) (min : Nat) : List Char → Option ((Nat × Option Nat) × List Char)
  | '}' :: s => some ((min, none), s)
  | s => readUpper x min s

theorem readAfterComma_steady (x : Bool) (min : Nat) : Steady 0 never (readAfterComma x min) := by
  refine .onHead '}' (by decide) (fun _ => rfl) (.pure (min, none)) (readUpper_steady x min)
    (Nat.zero_le _) rfl ?_
  intro c s hc
  simp [readAfterComma, hc]

/-- What follows the lower bound of a repetition. -/
def readRange (x : Bool) (min : Nat) : List Char → Option ((Nat × Option Nat) × List Char)
  | '}' :: s => some ((min, some min), s)
  | ',' :: s => readAfterComma x min (skip x s)
  | _ => none

theorem readRange_steady (x : Bool) (min : Nat) : Steady 1 never (readRange x min) := by
  have hcomma := (readAfterComma_steady x min).skip (x := x)
  refine .ofCons rfl fun c s => ?_
  by_cases hbrace : c = '}'
  · rw [hbrace]
    exact (Steady.pure (min, some min) s).cons fun _ => rfl
  by_cases hcomma' : c = ','
  · rw [hcomma']
    exact (hcomma s).cons fun _ => rfl
  · have hnone (r : List Char) : readRange x min (c :: r) = none := by simp [readRange, hbrace, hcomma']
    exact .refuse (hnone s) (hnone _)

theorem readBounds_steady (x : Bool) : Steady 0 never (readBounds x) :=
  (readDecimal_steady x).skip.bind fun min => (readRange_steady x min).mono (Nat.zero_le _)

theorem readGreedy_steady : Steady 0 never fun s => some (readGreedy s) := by
  refine .onHead '?' (by decide) (fun _ => rfl) (.pure false) (.pure true) (Nat.zero_le _) rfl ?_
  intro c s hc
  simp [readGreedy, hc]

theorem readHexDigits_steady (x : Bool) (n : Nat) : Steady 0 never (readHexDigits x n) := by
  induction n with
  | zero => exact .pure []
  | succ n ih =>
    refine (Steady.ofCons (k := 0) rfl fun c s => ?_).mono (Nat.zero_le _)
    have hmore : Steady 0 never fun s =>
        if isHexDigit c then (readHexDigits x n (skip x s)).map fun p => (c :: p.1, p.2) else none :=
      .ite (ih.skip.map fun ds => c :: ds) .none
    exact (hmore s).cons fun _ => rfl

/-- The end of a number in braces. -/
def readBraceEnd (x : Bool) (digits : List Char) : List Char → Option (Literal × List Char)
  | '}' :: s =>
    if digits.isEmpty then none
    else
      (scalar? (ofDigits 16 digits)).bind fun c => some (⟨c, false⟩, skip x s)
  | _ => none

theorem readBraceEnd_steady (x : Bool) (digits : List Char) :
    Steady 1 never (readBraceEnd x digits) := by
  have hscalar : Steady 0 never fun s => (scalar? (ofDigits 16 digits)).bind fun c =>
      some ((⟨c, false⟩ : Literal), skip x s) :=
    .option fun c => (Steady.pure _).skip
  refine .expect '}' (fun _ => rfl) rfl ?_ (.ite .none hscalar)
  intro c s hc
  simp [readBraceEnd, hc]

/-- A number in braces, or one of a fixed width. -/
theorem readHexBody_steady (x : Bool) (width : Nat) : Steady 0 never fun s => match s with
    | '{' :: s => some (takeSkipping x isHexDigit false (skip x s)) >>= fun (digits, s) =>
        readBraceEnd x digits s
    | s => readHexDigits x width s >>= fun (digits, s) =>
        scalar? (ofDigits 16 digits) >>= fun c => some ((⟨c, width == 2⟩ : Literal), s) := by
  have hbrace : Steady 0 never fun s =>
      some (takeSkipping x isHexDigit false (skip x s)) >>= fun (digits, s) => readBraceEnd x digits s :=
    ((Steady.take (by decide)).bind fun digits => (readBraceEnd_steady x digits).mono (Nat.zero_le _)).skip
  have hfixed : Steady 0 never fun s => readHexDigits x width s >>= fun (digits, s) =>
      scalar? (ofDigits 16 digits) >>= fun c => some ((⟨c, width == 2⟩ : Literal), s) :=
    (readHexDigits_steady x width).bind fun digits => .option fun c => .pure _
  refine .onHead '{' (by decide) (fun _ => rfl) hbrace hfixed (Nat.zero_le _) rfl ?_
  intro c s hc
  simp [hc]

theorem readHex_steady (x : Bool) (width : Nat) : Steady 0 never (readHex x width) :=
  (readHexBody_steady x width).skip

/-- A query up to the closing brace. -/
def readQuery (x : Bool) (s : List Char) : Option ((Bool × PropertyQuery) × List Char) :=
  let (query, s) := takeSkipping x (· != '}') false s
  match s with
  | _ :: s => some (PropertyQuery.ofText query, s)
  | [] => none

theorem readQuery_steady (x : Bool) : Steady 0 never (readQuery x) := by
  intro s
  obtain ⟨u, hu⟩ := takeSkipping_suffix x (· != '}') false s
  cases h : takeSkipping x (· != '}') false s with
  | mk query r =>
    rw [h] at hu
    have hclosed := takeSkipping_closing h
    cases r with
    | nil =>
      refine .ofNone (by simp [readQuery, h]) fun {v r} hs hr => ?_
      have hshort : r.length < closing.length := by
        unfold readQuery at hs
        obtain hclosed | ⟨-, hlt, -⟩ := hclosed
        · rw [hclosed] at hs
          cases hs
          decide
        · cases hrest : takeSkipping x (· != '}') false (s ++ closing) with
          | mk query' u =>
            rw [hrest] at hs hlt
            cases u with
            | nil => cases hs
            | cons d u =>
              cases hs
              exact Nat.lt_of_succ_lt hlt
      omega
    | cons c r =>
      obtain hclosed | ⟨hnil, -⟩ := hclosed
      · have hs : readQuery x s = some (PropertyQuery.ofText query, r) := by simp [readQuery, h]
        have hsclosed : readQuery x (s ++ closing) =
            some (PropertyQuery.ofText query, r ++ closing) := by
          simp [readQuery, hclosed]
        have htaken : s = (u ++ [c]) ++ r := by simpa using hu
        exact .answer hs hsclosed htaken (Nat.zero_le _)
      · cases hnil

/-- A property in braces, or one of a single letter. -/
theorem readPropertyBody_steady (x : Bool) : Steady 1 never fun s => match s with
    | [] => none
    | '{' :: s => readQuery x (skip x s)
    | c :: s => if c = '\\' then none else some ((false, .named [c]), skip x s) := by
  refine .ofCons rfl fun c s => ?_
  by_cases hc : c = '{'
  · rw [hc]
    exact ((readQuery_steady x).skip s).cons fun _ => rfl
  · have hnamed : Steady 0 never fun s =>
        if c = '\\' then none else some ((false, PropertyQuery.named [c]), skip x s) :=
      .ite .none (Steady.pure _).skip
    exact (hnamed s).cons fun _ => by simp

theorem readProperty_steady (x : Bool) : Steady 0 never (readProperty x) :=
  ((readPropertyBody_steady x).skip (x := x)).mono (Nat.zero_le _)

/-- A boundary whose braces hold nothing yet: with a closing parenthesis behind them, they are left
for a repetition. -/
def OpenBraces (x : Bool) (a : Assertion) (r : List Char) : Prop :=
  a = .wordBoundary ∧ ∃ s, r = '{' :: s ∧ skip x s = []

def isBoundaryChar (c : Char) : Bool := c.isAlpha || c == '-'

def boundaryNamed? : String → Option Assertion
  | "start" => some .wordStart
  | "end" => some .wordEnd
  | "start-half" => some .wordStartHalf
  | "end-half" => some .wordEndHalf
  | _ => none

/-- The end of the name of a boundary. -/
def readBoundaryEnd (name : String) : List Char → Option (Assertion × List Char)
  | '}' :: s => (boundaryNamed? name).map fun a => (a, s)
  | _ => none

theorem readBoundaryEnd_steady (name : String) : Steady 1 never (readBoundaryEnd name) := by
  have hname : Steady 0 never fun s => (boundaryNamed? name).map fun a => (a, s) := by
    cases boundaryNamed? name with
    | none => exact .none
    | some a => exact .pure a
  refine .expect '}' (fun _ => rfl) rfl ?_ hname
  intro c s hc
  simp [readBoundaryEnd, hc]

/-- The name of a boundary up to the closing brace. -/
def readBoundaryName (x : Bool) (s : List Char) : Option (Assertion × List Char) :=
  let (name, s) := takeSkipping x isBoundaryChar false s
  readBoundaryEnd (String.ofList name) s

theorem readBoundaryName_steady (x : Bool) : Steady 0 never (readBoundaryName x) := by
  have h : Steady 0 never fun s => some (takeSkipping x isBoundaryChar false s) >>=
      fun (name, s) => readBoundaryEnd (String.ofList name) s :=
    (Steady.take (by decide)).bind fun name => (readBoundaryEnd_steady _).mono (Nat.zero_le _)
  exact h

theorem readBoundaryEnd_eq (name : String) (s : List Char) : readBoundaryEnd name s =
    match name, s with
    | "start", '}' :: t => some (.wordStart, t)
    | "end", '}' :: t => some (.wordEnd, t)
    | "start-half", '}' :: t => some (.wordStartHalf, t)
    | "end-half", '}' :: t => some (.wordEndHalf, t)
    | _, _ => none := by
  unfold readBoundaryEnd boundaryNamed?
  split
  · split <;> simp_all
  · split <;> simp_all

theorem readBoundary_brace (x : Bool) (s : List Char) : readBoundary x ('{' :: s) =
    match skip x s with
    | [] => none
    | c :: t =>
      if isBoundaryChar c then readBoundaryName x (c :: t) else some (.wordBoundary, '{' :: s) := by
  unfold readBoundaryName
  simp only [readBoundaryEnd_eq]
  rfl

theorem readBoundary_name {t : List Char} (h : skip x s = c :: t) (hc : isBoundaryChar c = true) :
    readBoundary x ('{' :: s) = readBoundaryName x (skip x s) := by
  rw [readBoundary_brace, h]
  exact if_pos hc

theorem readBoundary_left {t : List Char} (h : skip x s = c :: t) (hc : ¬isBoundaryChar c = true) :
    readBoundary x ('{' :: s) = some (.wordBoundary, '{' :: s) := by
  rw [readBoundary_brace, h]
  exact if_neg hc

theorem readBoundary_other {s : List Char} (hs : s.head? ≠ some '{') :
    readBoundary x s = some (.wordBoundary, s) := by
  cases s with
  | nil => rfl
  | cons c s =>
    simp at hs
    simp [readBoundary, hs]

theorem readBoundary_steady (x : Bool) : Steady 0 (OpenBraces x) (readBoundary x) := by
  intro s
  by_cases hs : s.head? = some '{'
  · obtain ⟨r, hr⟩ := List.head?_eq_some_iff.mp hs
    rw [hr]
    cases hskip : skip x r with
    | nil =>
      have halone : readBoundary x ('{' :: r) = none := by rw [readBoundary_brace, hskip]
      obtain hclosed | ⟨-, hclosed⟩ := skip_closing x r
      · have hopen : readBoundary x ('{' :: r ++ closing) =
            some (.wordBoundary, '{' :: r ++ closing) :=
          readBoundary_left (hclosed.trans (by rw [hskip]; rfl)) (by decide)
        refine .ofNone halone fun h _ => ?_
        rw [hopen] at h
        cases h
        exact ⟨'{' :: r, rfl, rfl, r, rfl, hskip⟩
      · exact .refuse halone (by rw [List.cons_append, readBoundary_brace, hclosed])
    | cons c t =>
      have hclosed : skip x (r ++ closing) = c :: (t ++ closing) := by
        obtain hclosed | ⟨hnil, -⟩ := skip_closing x r
        · rw [hclosed, hskip, List.cons_append]
        · rw [hskip] at hnil
          cases hnil
      by_cases hc : isBoundaryChar c = true
      · have hname : SteadyAt 1 (OpenBraces x) (fun s => readBoundaryName x (skip x s.tail)) ('{' :: r) :=
          ((readBoundaryName_steady x).skip.weaken r).cons fun _ => rfl
        exact (hname.mono (Nat.zero_le _)).congr (readBoundary_name hskip hc)
          (readBoundary_name hclosed hc)
      · exact .stay (readBoundary_left hskip hc) (readBoundary_left hclosed hc)
  · have hclosed := head?_append_closing (by decide) hs
    exact .stay (readBoundary_other hs) (readBoundary_other hclosed)

/-- Escapes that are longer than one character. -/
def longEscapes : List Char := ['x', 'u', 'U', 'p', 'P', 'b']

theorem readEscape_short (hc : c ∉ longEscapes) (s : List Char) :
    readEscape x (c :: s) = (readEscape x [c]).map fun p => (p.1, s) := by
  simp only [longEscapes, List.mem_cons, List.not_mem_nil, or_false, not_or] at hc
  unfold readEscape
  simp only
  split
  case h_24 => split <;> rfl
  all_goals first | rfl | simp at hc

def OpenEscape (x : Bool) (e : Escape) (r : List Char) : Prop :=
  ∃ a, e = .assertion a ∧ OpenBraces x a r

theorem readEscape_steady (x : Bool) : Steady 1 (OpenEscape x) (readEscape x) := by
  refine .ofCons rfl fun c s => ?_
  by_cases hc : c ∈ longEscapes
  · simp only [longEscapes, List.mem_cons, List.not_mem_nil, or_false] at hc
    obtain hc | hc | hc | hc | hc | hc := hc
    · rw [hc]
      exact ((readHex_steady x 2).map Escape.literal s).cons fun _ => rfl
    · rw [hc]
      exact ((readHex_steady x 4).map Escape.literal s).cons fun _ => rfl
    · rw [hc]
      exact ((readHex_steady x 8).map Escape.literal s).cons fun _ => rfl
    · rw [hc]
      exact ((readProperty_steady x).map (fun q => Escape.property q.1 q.2) s).cons fun _ => rfl
    · rw [hc]
      exact ((readProperty_steady x).map (fun q => Escape.property (!q.1) q.2) s).cons fun _ => rfl
    · rw [hc]
      have hassertion : Steady 0 (OpenEscape x) fun s =>
          (readBoundary x s).map fun p => (Escape.assertion p.1, p.2) :=
        (readBoundary_steady x).map_short Escape.assertion fun _ _ h => ⟨_, rfl, h⟩
      exact (hassertion s).cons fun _ => rfl
  · have hshort : Steady 0 (OpenEscape x) fun s => (readEscape x [c]).map fun p => (p.1, s) := by
      cases readEscape x [c] with
      | none => exact .none
      | some p => exact .pure p.1
    exact (hshort s).cons (readEscape_short hc)

end NamePattern.CharRegex
