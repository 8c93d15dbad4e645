import NamePattern.CharRegex.Search

/-! Following the ways through a program at one place finds all instructions that wait there. -/
namespace NamePattern.CharRegex

/-- Where an instruction leads that consumes nothing. -/
def Instruction.successors (place : Place) (pc : Nat) : Instruction → List Nat
  | .chars _ => []
  | .accept => []
  | .look l => if l.holds place then [pc + 1] else []
  | .save _ => [pc + 1]
  | .jump target => [target]
  | .split first second => [first, second]

/-- Instructions at which threads wait. -/
def Instruction.waits : Instruction → Bool
  | .chars _ => true
  | .accept => true
  | _ => false

/-- Some way through a program accepts, from an instruction on and from a place on. -/
inductive Accepts (prog : Program) : Option Char → List Char → Nat → Prop
  | accept {before : Option Char} {text : List Char} {pc : Nat}
      (h : prog[pc]? = some .accept) : Accepts prog before text pc
  | chars {before : Option Char} {text : List Char} {pc : Nat} {c : Char} {s : CharSet}
      (h : prog[pc]? = some (.chars s)) (hc : s.contains c = true)
      (hnext : Accepts prog (some c) text (pc + 1)) : Accepts prog before (c :: text) pc
  | pass {before : Option Char} {text : List Char} {pc pc' : Nat} {ins : Instruction}
      (h : prog[pc]? = some ins) (hpc : pc' ∈ ins.successors ⟨0, before, text.head?⟩ pc)
      (hnext : Accepts prog before text pc') : Accepts prog before text pc

/-- One of some threads leads to acceptance. -/
def Live (prog : Program) (before : Option Char) (text : List Char) (ts : List Thread) : Prop :=
  ∃ t ∈ ts, Accepts prog before text t.pc

variable {prog : Program} {place : Place} {before : Option Char} {text : List Char}
  {ins : Instruction} {pc : Nat}

theorem Accepts.exists_instruction (h : Accepts prog before text pc) : ∃ ins, prog[pc]? = some ins := by
  cases h with
  | accept h => exact ⟨_, h⟩
  | chars h => exact ⟨_, h⟩
  | pass h => exact ⟨_, h⟩

theorem Instruction.successors_position (ins : Instruction) (position pc : Nat)
    (before after : Option Char) :
    ins.successors ⟨position, before, after⟩ pc = ins.successors ⟨0, before, after⟩ pc := by
  cases ins with
  | look l => cases l <;> rfl
  | _ => rfl

theorem accepts_chars {s : CharSet} (h : prog[pc]? = some (.chars s)) :
    Accepts prog before text pc ↔
      text.head?.any s.contains = true ∧ Accepts prog text.head? text.tail (pc + 1) := by
  constructor
  · intro ha
    cases ha with
    | accept h' =>
      rw [h] at h'
      simp at h'
    | chars h' hc hnext =>
      rw [h] at h'
      cases h'
      exact ⟨hc, hnext⟩
    | pass h' hpc =>
      rw [h] at h'
      cases h'
      simp [Instruction.successors] at hpc
  · rintro ⟨hc, hnext⟩
    cases text with
    | nil => simp at hc
    | cons c text => exact .chars h hc hnext

theorem live_cons {t : Thread} {ts : List Thread} :
    Live prog before text (t :: ts) ↔ Accepts prog before text t.pc ∨ Live prog before text ts := by
  simp [Live]

theorem live_append {ts us : List Thread} :
    Live prog before text (ts ++ us) ↔ Live prog before text ts ∨ Live prog before text us := by
  simp only [Live, List.mem_append]
  grind

/-- What holds while the threads of a stack are still to be followed: marks lead to marks or to
the stack, and a thread waits at every instruction that is marked and waits. -/
structure Explored (prog : Program) (place : Place) (r : Reached) (stack : List Thread) : Prop where
  size : r.marks.stamps.size = prog.size
  waits : ∀ t ∈ r.threads, ∃ ins, prog[t.pc]? = some ins ∧ ins.waits = true
  waiting : ∀ pc ins, r.marks.has pc = true → prog[pc]? = some ins → ins.waits = true →
    ∃ t ∈ r.threads, t.pc = pc
  closed : ∀ pc ins, r.marks.has pc = true → prog[pc]? = some ins →
    ∀ pc' ∈ ins.successors place pc,
      r.marks.has pc' = true ∨ pc' ∈ stack.map Thread.pc ∨ prog[pc']? = none

theorem Explored.wipe {r : Reached} {stack : List Thread} (h : Explored prog place r stack)
    (place' : Place) : Explored prog place' ⟨r.marks.wipe, []⟩ [] where
  size := h.size
  waits := by simp
  waiting := by simp
  closed := by simp

theorem Explored.start (prog : Program) (place : Place) : Explored prog place (.none prog) [] where
  size := by simp [Reached.none, Marks.none]
  waits := by simp [Reached.none]
  waiting := by simp [Reached.none]
  closed := by simp [Reached.none]

/-- If nothing is left to follow, then what is marked and can lead to acceptance has a thread that
does. -/
theorem Explored.live {r : Reached} {position : Nat}
    (h : Explored prog ⟨position, before, text.head?⟩ r []) (hmark : r.marks.has pc = true)
    (ha : Accepts prog before text pc) : Live prog before text r.threads := by
  induction ha with
  | accept hins =>
    obtain ⟨t, ht, rfl⟩ := h.waiting _ _ hmark hins rfl
    exact ⟨t, ht, .accept hins⟩
  | chars hins hc hnext _ =>
    obtain ⟨t, ht, rfl⟩ := h.waiting _ _ hmark hins rfl
    exact ⟨t, ht, .chars hins hc hnext⟩
  | pass hins hpc hnext ih =>
    rw [← Instruction.successors_position _ position] at hpc
    rcases h.closed _ _ hmark hins _ hpc with hmark' | hmem | hnone
    · exact ih h hmark'
    · simp at hmem
    · obtain ⟨ins', hins'⟩ := hnext.exists_instruction
      rw [hnone] at hins'
      simp at hins'

theorem countP_add_lt {m : Marks} {n : Nat} (hn : pc < n) (hsize : m.stamps.size = n)
    (hmark : m.has pc = false) :
    (List.range n).countP (fun i => !(m.add pc).has i) < (List.range n).countP fun i => !m.has i := by
  obtain ⟨front, back, hl⟩ := List.append_of_mem (List.mem_range.mpr hn)
  have hmono (l : List Nat) : l.countP (fun i => !(m.add pc).has i) ≤ l.countP fun i => !m.has i := by
    refine List.countP_mono_left fun i _ hi => ?_
    rw [Marks.has_add] at hi
    simp at hi ⊢
    exact hi.1
  have hself : (m.add pc).has pc = true := by
    rw [Marks.has_add, hsize]
    simp [hn]
  have hfront := hmono front
  have hback := hmono back
  rw [hl, List.countP_append, List.countP_append, List.countP_cons_of_neg (by simp [hself]),
    List.countP_cons_of_pos (by simp [hmark])]
  omega

theorem followAll_of_marked {n : Nat} {t : Thread} {others : List Thread} {r : Reached}
    (hmark : r.marks.has t.pc = true) :
    followAll prog place (n + 1) (t :: others) r = followAll prog place n others r := by
  simp [followAll, hmark]

theorem followAll_of_none {n : Nat} {t : Thread} {others : List Thread} {r : Reached}
    (hmark : r.marks.has t.pc = false) (hins : prog[t.pc]? = none) :
    followAll prog place (n + 1) (t :: others) r =
      followAll prog place n others ⟨r.marks.add t.pc, r.threads⟩ := by
  simp [followAll, hmark, hins]

theorem followAll_of_some (place : Place) (n : Nat) {t : Thread} (others : List Thread)
    {r : Reached} (hmark : r.marks.has t.pc = false) (hins : prog[t.pc]? = some ins) :
    ∃ pushed : List Thread, pushed.map Thread.pc = ins.successors place t.pc ∧
      followAll prog place (n + 1) (t :: others) r =
        followAll prog place n (pushed ++ others)
          ⟨r.marks.add t.pc, if ins.waits then t :: r.threads else r.threads⟩ := by
  rw [followAll.eq_3, if_neg (by simp [hmark]), hins]
  cases ins with
  | chars s => exact ⟨[], rfl, rfl⟩
  | accept => exact ⟨[], rfl, rfl⟩
  | look l =>
    by_cases hl : l.holds place = true
    · exact ⟨[⟨t.pc + 1, t.saves⟩], by simp [Instruction.successors, hl], by simp only [hl]; rfl⟩
    · exact ⟨[], by simp [Instruction.successors, hl], by simp only [hl]; rfl⟩
  | save slot => exact ⟨[⟨t.pc + 1, _⟩], rfl, rfl⟩
  | jump target => exact ⟨[⟨target, _⟩], rfl, rfl⟩
  | split first second => exact ⟨[⟨first, _⟩, ⟨second, _⟩], rfl, rfl⟩

namespace Explored

variable {r : Reached} {t : Thread} {others : List Thread}

theorem skip (h : Explored prog place r (t :: others)) (hmark : r.marks.has t.pc = true) :
    Explored prog place r others where
  size := h.size
  waits := h.waits
  waiting := h.waiting
  closed pc ins hpc hins pc' hpc' := by
    rcases h.closed pc ins hpc hins pc' hpc' with hmark' | hmem | hnone
    · exact .inl hmark'
    · rcases List.mem_cons.mp hmem with rfl | hmem
      · exact .inl hmark
      · exact .inr (.inl hmem)
    · exact .inr (.inr hnone)

theorem leave (h : Explored prog place r (t :: others)) (hnone : prog[t.pc]? = none) :
    Explored prog place ⟨r.marks.add t.pc, r.threads⟩ others := by
  have hhas (i : Nat) : (r.marks.add t.pc).has i = r.marks.has i := by
    have hle : prog.size ≤ t.pc := Array.getElem?_eq_none_iff.mp hnone
    rw [Marks.has_add, h.size]
    simp [Nat.not_lt.mpr hle]
  refine ⟨by simpa [Marks.add] using h.size, h.waits, fun pc ins hpc => ?_, fun pc ins hpc => ?_⟩
  · rw [hhas] at hpc
    exact h.waiting pc ins hpc
  · rw [hhas] at hpc
    intro hins pc' hpc'
    rw [hhas]
    rcases h.closed pc ins hpc hins pc' hpc' with hmark' | hmem | hnone'
    · exact .inl hmark'
    · rcases List.mem_cons.mp hmem with rfl | hmem
      · exact .inr (.inr hnone)
      · exact .inr (.inl hmem)
    · exact .inr (.inr hnone')

theorem visit (h : Explored prog place r (t :: others)) (hins : prog[t.pc]? = some ins)
    {pushed : List Thread} (hpushed : pushed.map Thread.pc = ins.successors place t.pc) :
    Explored prog place ⟨r.marks.add t.pc, if ins.waits then t :: r.threads else r.threads⟩
      (pushed ++ others) := by
  have hlt : t.pc < prog.size := (Array.getElem?_eq_some_iff.mp hins).1
  have hhas (i : Nat) : (r.marks.add t.pc).has i = true ↔ r.marks.has i = true ∨ i = t.pc := by
    rw [Marks.has_add, h.size, Bool.or_eq_true, Bool.and_eq_true, beq_iff_eq]
    exact or_congr_right ⟨fun hi => hi.1.symm, fun hi => ⟨hi.symm, by simpa using hlt⟩⟩
  have hmono : ∀ u ∈ r.threads, u ∈ if ins.waits then t :: r.threads else r.threads := by
    intro u hu
    split
    · exact List.mem_cons_of_mem _ hu
    · exact hu
  refine ⟨by simpa [Marks.add] using h.size, fun u hu => ?_, fun pc ins' hpc hins' hw => ?_,
    fun pc ins' hpc hins' pc' hpc' => ?_⟩
  · dsimp only at hu
    split at hu
    · next hw =>
      rcases List.mem_cons.mp hu with rfl | hu
      · exact ⟨ins, hins, hw⟩
      · exact h.waits u hu
    · exact h.waits u hu
  · rcases (hhas pc).mp hpc with hpc | rfl
    · obtain ⟨u, hu, hupc⟩ := h.waiting pc ins' hpc hins' hw
      exact ⟨u, hmono u hu, hupc⟩
    · rw [hins] at hins'
      cases hins'
      exact ⟨t, by simp [hw], rfl⟩
  · rw [hhas]
    rw [List.map_append, List.mem_append, hpushed]
    rcases (hhas pc).mp hpc with hpc | rfl
    · rcases h.closed pc ins' hpc hins' pc' hpc' with hmark' | hmem | hnone
      · exact .inl (.inl hmark')
      · rcases List.mem_cons.mp hmem with rfl | hmem
        · exact .inl (.inr rfl)
        · exact .inr (.inl (.inr hmem))
      · exact .inr (.inr hnone)
    · rw [hins] at hins'
      cases hins'
      exact .inr (.inl (.inl hpc'))

end Explored

/-- With enough steps, everything on the stack is followed to its end. -/
theorem followAll_explored {n : Nat} {stack : List Thread} {r : Reached}
    (h : Explored prog place r stack)
    (hn : 2 * ((List.range prog.size).countP fun i => !r.marks.has i) + stack.length ≤ n) :
    Explored prog place (followAll prog place n stack r) [] ∧
      (∀ i, r.marks.has i = true → (followAll prog place n stack r).marks.has i = true) ∧
      ∀ t ∈ stack, (followAll prog place n stack r).marks.has t.pc = true ∨ prog[t.pc]? = none := by
  -- Marking an instruction pays for the two threads that it can push.
  induction n generalizing stack r with
  | zero =>
    obtain rfl : stack = [] := List.length_eq_zero_iff.mp (by omega)
    exact ⟨h, fun _ hi => hi, by simp⟩
  | succ n ih =>
    cases stack with
    | nil => exact ⟨h, fun _ hi => hi, by simp⟩
    | cons t others =>
      rw [List.length_cons] at hn
      by_cases hmark : r.marks.has t.pc = true
      · rw [followAll_of_marked hmark]
        obtain ⟨hexp, hkeep, hstack⟩ := ih (h.skip hmark) (by omega)
        exact ⟨hexp, hkeep, List.forall_mem_cons.mpr ⟨.inl (hkeep _ hmark), hstack⟩⟩
      have hmark : r.marks.has t.pc = false := by simpa using hmark
      have hadd (i : Nat) (hi : r.marks.has i = true) : (r.marks.add t.pc).has i = true := by
        rw [Marks.has_add, hi]
        rfl
      cases hins : prog[t.pc]? with
      | none =>
        have hcount : ((List.range prog.size).countP fun i => !(r.marks.add t.pc).has i) ≤
            (List.range prog.size).countP fun i => !r.marks.has i := by
          refine List.countP_mono_left fun i _ hi => ?_
          rw [Marks.has_add] at hi
          simp at hi ⊢
          exact hi.1
        rw [followAll_of_none hmark hins]
        obtain ⟨hexp, hkeep, hstack⟩ := ih (h.leave hins) (by dsimp only; omega)
        exact ⟨hexp, fun i hi => hkeep i (hadd i hi), List.forall_mem_cons.mpr ⟨.inr hins, hstack⟩⟩
      | some ins =>
        have hlt : t.pc < prog.size := (Array.getElem?_eq_some_iff.mp hins).1
        have hcount := countP_add_lt hlt h.size hmark
        obtain ⟨pushed, hpushed, hstep⟩ := followAll_of_some place n others hmark hins
        have hlen : pushed.length ≤ 2 := by
          rw [← List.length_map, hpushed]
          cases ins <;> simp [Instruction.successors]
          split <;> simp
        rw [hstep]
        obtain ⟨hexp, hkeep, hstack⟩ :=
          ih (h.visit hins hpushed) (by rw [List.length_append]; dsimp only; omega)
        refine ⟨hexp, fun i hi => hkeep i (hadd i hi), List.forall_mem_cons.mpr ⟨.inl (hkeep _ ?_), ?_⟩⟩
        · rw [Marks.has_add, h.size]
          simp [hlt]
        · exact fun u hu => hstack u (List.mem_append_right _ hu)

end NamePattern.CharRegex
