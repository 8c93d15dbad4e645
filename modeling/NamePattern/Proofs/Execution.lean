import NamePattern.CharRegex
import NamePattern.Proofs.Exploration

/-! A search succeeds if some way through the program accepts. -/
namespace NamePattern.CharRegex

variable {prog : Program} {position : Nat} {before : Option Char} {text : List Char}
  {r : Reached}

/-- Following threads keeps those that wait already, and adds none that does not come from the
stack. -/
theorem followAll_live (prog : Program) (position : Nat) (before : Option Char) (text : List Char)
    (n : Nat) (stack : List Thread) (r : Reached) :
    let r' := followAll prog ⟨position, before, text.head?⟩ n stack r
    (Live prog before text r.threads → Live prog before text r'.threads) ∧
      (Live prog before text r'.threads →
        Live prog before text r.threads ∨ Live prog before text stack) := by
  induction n generalizing stack r with
  | zero => exact ⟨id, .inl⟩
  | succ n ih =>
    cases stack with
    | nil => exact ⟨id, .inl⟩
    | cons t others =>
      rw [live_cons]
      by_cases hmark : r.marks.has t.pc = true
      · rw [followAll_of_marked hmark]
        obtain ⟨hkeep, hsound⟩ := ih others r
        exact ⟨hkeep, fun hl => (hsound hl).imp_right .inr⟩
      have hmark : r.marks.has t.pc = false := by simpa using hmark
      cases hins : prog[t.pc]? with
      | none =>
        rw [followAll_of_none hmark hins]
        obtain ⟨hkeep, hsound⟩ := ih others ⟨r.marks.add t.pc, r.threads⟩
        exact ⟨hkeep, fun hl => (hsound hl).imp_right .inr⟩
      | some ins =>
        obtain ⟨pushed, hpushed, hstep⟩ :=
          followAll_of_some ⟨position, before, text.head?⟩ n others hmark hins
        have hsucc : Live prog before text pushed → Accepts prog before text t.pc := by
          rintro ⟨u, hu, ha⟩
          have hmem := hpushed ▸ List.mem_map_of_mem hu
          rw [Instruction.successors_position] at hmem
          exact .pass hins hmem ha
        have hin : Live prog before text r.threads →
            Live prog before text (if ins.waits then t :: r.threads else r.threads) := by
          intro hl
          split
          · exact live_cons.mpr (.inr hl)
          · exact hl
        have hout : Live prog before text (if ins.waits then t :: r.threads else r.threads) →
            Accepts prog before text t.pc ∨ Live prog before text r.threads := by
          intro hl
          split at hl
          · exact live_cons.mp hl
          · exact .inr hl
        rw [hstep]
        obtain ⟨hkeep, hsound⟩ := ih (pushed ++ others)
          ⟨r.marks.add t.pc, if ins.waits then t :: r.threads else r.threads⟩
        refine ⟨fun hl => hkeep (hin hl), fun hl => ?_⟩
        rcases hsound hl with hl | hl
        · exact (hout hl).symm.imp_right .inl
        · rcases live_append.mp hl with hl | hl
          · exact .inr (.inl (hsucc hl))
          · exact .inr (.inr hl)

theorem follow_spec (h : Explored prog ⟨position, before, text.head?⟩ r []) (t : Thread) :
    let r' := follow prog ⟨position, before, text.head?⟩ t r
    Explored prog ⟨position, before, text.head?⟩ r' [] ∧
      (Live prog before text r'.threads ↔
        Live prog before text r.threads ∨ Accepts prog before text t.pc) := by
  have hstack : Explored prog ⟨position, before, text.head?⟩ r [t] := by
    refine ⟨h.size, h.waits, h.waiting, fun pc ins hpc hins pc' hpc' => ?_⟩
    rcases h.closed pc ins hpc hins pc' hpc' with hmark | hmem | hnone
    · exact .inl hmark
    · simp at hmem
    · exact .inr (.inr hnone)
  have hcount : ((List.range prog.size).countP fun i => !r.marks.has i) ≤ prog.size := by
    have hle := List.countP_le_length (p := fun i => !r.marks.has i) (l := List.range prog.size)
    rwa [List.length_range] at hle
  obtain ⟨hexp, -, hmarked⟩ := followAll_explored hstack (n := 2 * prog.size + 2) (by
    rw [List.length_singleton]
    omega)
  obtain ⟨hkeep, hsound⟩ := followAll_live prog position before text (2 * prog.size + 2) [t] r
  refine ⟨hexp, fun hl => ?_, fun hl => ?_⟩
  · rcases hsound hl with hold | ⟨u, hu, ha⟩
    · exact .inl hold
    · exact .inr (List.mem_singleton.mp hu ▸ ha)
  · rcases hl with hold | ha
    · exact hkeep hold
    · rcases hmarked t (List.mem_singleton_self t) with hmark | hnone
      · exact hexp.live hmark ha
      · obtain ⟨ins, hins⟩ := ha.exists_instruction
        rw [hnone] at hins
        simp at hins

/-- Moving the threads over a character finds a match or leaves threads behind, if there was a match
or one of the threads leads to acceptance. -/
theorem advance_spec (before : Option Char) {ts : List Thread} (found : Option Saves)
    (hts : ∀ t ∈ ts, ∃ ins, prog[t.pc]? = some ins ∧ ins.waits = true)
    (h : Explored prog ⟨position, text.head?, text.tail.head?⟩ r []) :
    let a := advance prog ⟨position, text.head?, text.tail.head?⟩ text.head? ts found r
    Explored prog ⟨position, text.head?, text.tail.head?⟩ a.2 [] ∧
      (a.1.isSome = true ∨ Live prog text.head? text.tail a.2.threads ↔
        found.isSome = true ∨ Live prog text.head? text.tail r.threads ∨
          Live prog before text ts) := by
  induction ts generalizing found r with
  | nil => exact ⟨h, by simp [advance, Live]⟩
  | cons t ts ih =>
    obtain ⟨⟨ins, hins, hw⟩, hts⟩ := List.forall_mem_cons.mp hts
    rw [live_cons]
    cases ins with
    | accept =>
      have ha : Accepts prog before text t.pc := .accept hins
      have hadv : advance prog ⟨position, text.head?, text.tail.head?⟩ text.head? (t :: ts) found r =
          (some t.saves, r) := by
        simp only [advance, hins]
      rw [hadv]
      exact ⟨h, by simp [ha]⟩
    | chars s =>
      rw [accepts_chars hins]
      by_cases hc : text.head?.any s.contains = true
      · have hadv : advance prog ⟨position, text.head?, text.tail.head?⟩ text.head? (t :: ts) found r =
            advance prog ⟨position, text.head?, text.tail.head?⟩ text.head? ts found
              (follow prog ⟨position, text.head?, text.tail.head?⟩ ⟨t.pc + 1, t.saves⟩ r) := by
          simp only [advance, hins, hc, if_true]
        rw [hadv]
        obtain ⟨hexp, hlive⟩ := follow_spec h ⟨t.pc + 1, t.saves⟩
        obtain ⟨hexp', hlive'⟩ := ih found hts hexp
        refine ⟨hexp', hlive'.trans ?_⟩
        rw [hlive]
        grind
      · have hadv : advance prog ⟨position, text.head?, text.tail.head?⟩ text.head? (t :: ts) found r =
            advance prog ⟨position, text.head?, text.tail.head?⟩ text.head? ts found r := by
          simp only [advance, hins, hc]
          rfl
        rw [hadv]
        obtain ⟨hexp, hlive⟩ := ih found hts h
        refine ⟨hexp, hlive.trans ?_⟩
        simp [hc]
    | _ => simp [Instruction.waits] at hw

theorem advance_none (next : Place) (ts : List Thread) (found : Option Saves) (r : Reached) :
    (advance prog next none ts found r).2 = r := by
  induction ts generalizing found with
  | nil => rfl
  | cons t ts ih =>
    unfold advance
    split
    · rfl
    · exact ih found
    · exact ih found

theorem start_spec (found : Option Saves) (h : Explored prog ⟨position, before, text.head?⟩ r []) :
    let r₁ := if found.isNone then follow prog ⟨position, before, text.head?⟩ ⟨0, []⟩ r else r
    Explored prog ⟨position, before, text.head?⟩ r₁ [] ∧
      (found.isSome = true ∨ Live prog before text r₁.threads ↔
        found.isSome = true ∨ Live prog before text r.threads ∨ Accepts prog before text 0) := by
  cases found with
  | none =>
    obtain ⟨hexp, hlive⟩ := follow_spec h ⟨0, []⟩
    exact ⟨hexp, by simpa using hlive⟩
  | some saves => exact ⟨h, by simp⟩

/-- One step of a search: starting at a place if there is no match, and moving on to the next. -/
def step (prog : Program) (position : Nat) (before : Option Char) (text : List Char)
    (found : Option Saves) (r : Reached) : Option Saves × Reached :=
  let r := if found.isNone then follow prog ⟨position, before, text.head?⟩ ⟨0, []⟩ r else r
  advance prog ⟨position + 1, text.head?, text.tail.head?⟩ text.head? r.threads.reverse found
    ⟨r.marks.wipe, []⟩

theorem searchFrom_nil (found : Option Saves) (r : Reached) :
    searchFrom prog position before [] found r = (step prog position before [] found r).1 := by
  rw [searchFrom]
  rfl

theorem searchFrom_cons (c : Char) (text : List Char) (found : Option Saves) (r : Reached) :
    searchFrom prog position before (c :: text) found r =
      if (step prog position before (c :: text) found r).1.isSome &&
          (step prog position before (c :: text) found r).2.threads.isEmpty then
        (step prog position before (c :: text) found r).1
      else
        searchFrom prog (position + 1) (some c) text (step prog position before (c :: text) found r).1
          (step prog position before (c :: text) found r).2 := by
  rw [searchFrom]
  rfl

theorem step_spec (found : Option Saves) (h : Explored prog ⟨position, before, text.head?⟩ r []) :
    Explored prog ⟨position + 1, text.head?, text.tail.head?⟩
        (step prog position before text found r).2 [] ∧
      ((step prog position before text found r).1.isSome = true ∨
          Live prog text.head? text.tail (step prog position before text found r).2.threads ↔
        found.isSome = true ∨ Live prog before text r.threads ∨ Accepts prog before text 0) := by
  obtain ⟨hexp₁, hlive₁⟩ := start_spec found h
  obtain ⟨hexp₂, hlive₂⟩ := advance_spec before found
    (fun t ht => hexp₁.waits t (List.mem_reverse.mp ht))
    (hexp₁.wipe ⟨position + 1, text.head?, text.tail.head?⟩)
  refine ⟨hexp₂, hlive₂.trans ?_⟩
  rw [← hlive₁]
  simp [Live]

/-- Some way accepts that begins at one of the places of a text. -/
def Starts (prog : Program) (before : Option Char) (text : List Char) : Prop :=
  ∃ front back, text = front ++ back ∧ Accepts prog (front.getLast?.or before) back 0

theorem starts_nil : Starts prog before [] ↔ Accepts prog before [] 0 := by
  unfold Starts
  simp only [List.nil_eq_append_iff]
  constructor
  · rintro ⟨_, _, ⟨rfl, rfl⟩, ha⟩
    exact ha
  · exact fun ha => ⟨[], [], ⟨rfl, rfl⟩, ha⟩

theorem starts_cons {c : Char} :
    Starts prog before (c :: text) ↔ Accepts prog before (c :: text) 0 ∨ Starts prog (some c) text := by
  constructor
  · rintro ⟨front, back, h, ha⟩
    cases front with
    | nil =>
      obtain rfl : c :: text = back := h
      exact .inl ha
    | cons d front =>
      obtain ⟨rfl, rfl⟩ := List.cons.inj h
      refine .inr ⟨front, back, rfl, ?_⟩
      cases front <;> simpa [List.getLast?_cons] using ha
  · rintro (ha | ⟨front, back, rfl, ha⟩)
    · exact ⟨[], c :: text, rfl, ha⟩
    · refine ⟨c :: front, back, rfl, ?_⟩
      cases front <;> simpa [List.getLast?_cons] using ha

/-- A search from a place on succeeds if there has been a match, if a thread leads to acceptance,
or if a way from there or from a later place does. -/
theorem searchFrom_spec {found : Option Saves}
    (h : Explored prog ⟨position, before, text.head?⟩ r []) :
    (searchFrom prog position before text found r).isSome = true ↔
      found.isSome = true ∨ Live prog before text r.threads ∨ Starts prog before text := by
  induction text generalizing position before found r with
  | nil =>
    obtain ⟨-, hlive⟩ := step_spec found h
    have hthreads : (step prog position before [] found r).2.threads = [] := by
      unfold step
      rw [List.head?_nil, advance_none]
    rw [hthreads] at hlive
    rw [searchFrom_nil, starts_nil, ← hlive]
    simp [Live]
  | cons c text ih =>
    obtain ⟨hexp, hlive⟩ := step_spec found h
    have hmove : found.isSome = true ∨ Live prog before (c :: text) r.threads ∨
          Starts prog before (c :: text) ↔
        (step prog position before (c :: text) found r).1.isSome = true ∨
          Live prog (some c) text (step prog position before (c :: text) found r).2.threads ∨
            Starts prog (some c) text := by
      rw [starts_cons, ← or_assoc, ← or_assoc, or_assoc (a := found.isSome = true), ← hlive, or_assoc]
      rfl
    rw [searchFrom_cons, hmove]
    split
    · next hdone =>
      have hsome := (Bool.and_eq_true_iff.mp hdone).1
      simp [hsome]
    · exact ih hexp

theorem search_isSome (prog : Program) (text : List Char) :
    (search prog text).isSome = true ↔ Starts prog none text := by
  unfold search
  rw [searchFrom_spec (.start prog _)]
  simp [Live, Reached.none]

theorem captures_isSome (r : CharRegex) (text : List Char) :
    (r.captures text).isSome = true ↔ Starts r.program none text := by
  unfold captures
  rw [Option.isSome_map, search_isSome]

end NamePattern.CharRegex
