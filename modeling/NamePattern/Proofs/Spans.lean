import NamePattern.Proofs.Execution

/-! Stretches of a program, and what is consumed on the ways through them. -/
namespace NamePattern.CharRegex

/-- What stands before a place that some text has led up to. -/
def behind (before : Option Char) (u : List Char) : Option Char := u.getLast?.or before

theorem behind_append (before : Option Char) (u v : List Char) :
    behind before (u ++ v) = behind (behind before u) v := by
  unfold behind
  rw [List.getLast?_append, Option.or_assoc]

/-- Says of a text whether it matches, given the character before it and the text behind it. -/
abbrev Span := Option Char → List Char → List Char → Prop

namespace Span

def nothing : Span := fun _ u _ => u = []

/-- One character of a set. -/
def one (s : CharSet) : Span := fun _ u _ => ∃ c, u = [c] ∧ s.contains c = true

def andThen (p q : Span) : Span := fun before u rest =>
  ∃ v w, u = v ++ w ∧ p before v (w ++ rest) ∧ q (behind before v) w rest

def times (p : Span) : Nat → Span
  | 0 => nothing
  | n + 1 => p.andThen (p.times n)

variable {p q r : Span} {before : Option Char} {u rest : List Char} {n m : Nat}

theorem nothing_andThen : nothing.andThen p before u rest ↔ p before u rest := by
  constructor
  · intro h
    obtain ⟨v, w, hu, hv, hw⟩ := h
    have hv : v = [] := hv
    rw [hu, hv, List.nil_append]
    rw [hv] at hw
    exact hw
  · intro h
    exact ⟨[], u, rfl, rfl, h⟩

theorem andThen_nothing : p.andThen nothing before u rest ↔ p before u rest := by
  constructor
  · intro h
    obtain ⟨v, w, hu, hv, hw⟩ := h
    have hw : w = [] := hw
    rw [hw, List.nil_append] at hv
    rw [hu, hw, List.append_nil]
    exact hv
  · intro h
    exact ⟨u, [], (List.append_nil u).symm, h, rfl⟩

theorem andThen_assoc :
    (p.andThen q).andThen r before u rest ↔ p.andThen (q.andThen r) before u rest := by
  constructor
  · intro h
    obtain ⟨_, x, hu, ⟨v, w, hvw, hp, hq⟩, hr⟩ := h
    rw [hvw, behind_append] at hr
    rw [hvw, List.append_assoc] at hu
    rw [← List.append_assoc] at hp
    exact ⟨v, w ++ x, hu, hp, w, x, rfl, hq, hr⟩
  · intro h
    obtain ⟨v, _, hu, hp, w, x, hwx, hq, hr⟩ := h
    rw [hwx, ← List.append_assoc] at hu
    rw [hwx, List.append_assoc] at hp
    rw [← behind_append] at hr
    exact ⟨v ++ w, x, hu, ⟨v, w, rfl, hp, hq⟩, hr⟩

theorem andThen_congr {p' q' : Span} (hp : ∀ before u rest, p before u rest ↔ p' before u rest)
    (hq : ∀ before u rest, q before u rest ↔ q' before u rest) :
    p.andThen q before u rest ↔ p'.andThen q' before u rest := by
  unfold andThen
  simp only [hp, hq]

theorem times_add :
    p.times (n + m) before u rest ↔ (p.times n).andThen (p.times m) before u rest := by
  induction n generalizing before u rest with
  | zero =>
    rw [Nat.zero_add]
    exact nothing_andThen.symm
  | succ n ih =>
    rw [Nat.succ_add]
    have hstep : p.andThen (p.times (n + m)) before u rest ↔
        p.andThen ((p.times n).andThen (p.times m)) before u rest :=
      andThen_congr (fun _ _ _ => Iff.rfl) fun _ _ _ => ih
    exact hstep.trans andThen_assoc.symm

theorem times_one {s : CharSet} (h : ∀ c ∈ u, s.contains c = true) :
    (one s).times u.length before u rest := by
  induction u generalizing before with
  | nil => exact rfl
  | cons c u ih =>
    obtain ⟨hc, hu⟩ := List.forall_mem_cons.mp h
    exact ⟨[c], u, rfl, ⟨c, rfl, hc⟩, ih hu⟩

end Span

/-- A way through a program that accepts after some number of steps. -/
inductive Steps (prog : Program) : Nat → Option Char → List Char → Nat → Prop
  | accept {before : Option Char} {text : List Char} {pc : Nat}
      (h : prog[pc]? = some .accept) : Steps prog 0 before text pc
  | chars {n : Nat} {before : Option Char} {text : List Char} {pc : Nat} {c : Char} {s : CharSet}
      (h : prog[pc]? = some (.chars s)) (hc : s.contains c = true)
      (hnext : Steps prog n (some c) text (pc + 1)) : Steps prog (n + 1) before (c :: text) pc
  | pass {n : Nat} {before : Option Char} {text : List Char} {pc pc' : Nat} {ins : Instruction}
      (h : prog[pc]? = some ins) (hpc : pc' ∈ ins.successors ⟨0, before, text.head?⟩ pc)
      (hnext : Steps prog n before text pc') : Steps prog (n + 1) before text pc

variable {prog : Program} {pc pc' pc'' stop : Nat} {p q : Span}

theorem accepts_iff_steps {before : Option Char} {text : List Char} :
    Accepts prog before text pc ↔ ∃ n, Steps prog n before text pc := by
  constructor
  · intro h
    induction h with
    | accept h => exact ⟨0, .accept h⟩
    | chars h hc _ ih =>
      obtain ⟨n, hn⟩ := ih
      exact ⟨n + 1, .chars h hc hn⟩
    | pass h hpc _ ih =>
      obtain ⟨n, hn⟩ := ih
      exact ⟨n + 1, .pass h hpc hn⟩
  · intro h
    obtain ⟨n, hn⟩ := h
    induction hn with
    | accept h => exact .accept h
    | chars h hc _ ih => exact .chars h hc ih
    | pass h hpc _ ih => exact .pass h hpc ih

/-- An instruction that consumes nothing leads on in fewer steps. -/
theorem Steps.next {n : Nat} {before : Option Char} {text : List Char} {ins : Instruction}
    (hins : prog[pc]? = some ins) (hw : ins.waits = false) (h : Steps prog n before text pc) :
    ∃ m pc', m < n ∧ pc' ∈ ins.successors ⟨0, before, text.head?⟩ pc ∧
      Steps prog m before text pc' := by
  cases h with
  | accept h' =>
    rw [hins] at h'
    cases h'
    simp [Instruction.waits] at hw
  | chars h' =>
    rw [hins] at h'
    cases h'
    simp [Instruction.waits] at hw
  | pass h' hpc hnext =>
    rw [hins] at h'
    cases h'
    exact ⟨_, _, Nat.lt_succ_self _, hpc, hnext⟩

/-- All ways that accept from `pc` on pass `pc'`, after some text that matches. -/
structure Runs (prog : Program) (pc pc' : Nat) (p : Span) : Prop where
  sound : ∀ {n before text}, Steps prog n before text pc →
    ∃ u rest m, text = u ++ rest ∧ p before u rest ∧ m ≤ n ∧ Steps prog m (behind before u) rest pc'
  complete : ∀ {before u rest}, p before u rest → Accepts prog (behind before u) rest pc' →
    Accepts prog before (u ++ rest) pc

namespace Runs

protected theorem refl (prog : Program) (pc : Nat) : Runs prog pc pc .nothing where
  sound {n before text} h := ⟨[], text, n, rfl, rfl, Nat.le_refl n, h⟩
  complete {before u rest} hu h := by
    have hu : u = [] := hu
    rw [hu] at h ⊢
    exact h

protected theorem trans (hp : Runs prog pc pc' p) (hq : Runs prog pc' pc'' q) :
    Runs prog pc pc'' (p.andThen q) where
  sound h := by
    obtain ⟨v, rest, m, htext, hv, hm, h⟩ := hp.sound h
    obtain ⟨w, rest', k, hrest, hw, hk, h⟩ := hq.sound h
    rw [hrest] at htext hv
    rw [← behind_append] at h
    exact ⟨v ++ w, rest', k, by rw [htext, List.append_assoc], ⟨v, w, rfl, hv, hw⟩,
      Nat.le_trans hk hm, h⟩
  complete {before u rest} hu h := by
    obtain ⟨v, w, hvw, hv, hw⟩ := hu
    rw [hvw, behind_append] at h
    rw [hvw, List.append_assoc]
    exact hp.complete hv (hq.complete hw h)

theorem congr (h : Runs prog pc pc' p)
    (hpq : ∀ before u rest, p before u rest ↔ q before u rest) : Runs prog pc pc' q where
  sound hs := by
    obtain ⟨u, rest, m, htext, hu, hm⟩ := h.sound hs
    exact ⟨u, rest, m, htext, (hpq _ _ _).mp hu, hm⟩
  complete hu ha := h.complete ((hpq _ _ _).mpr hu) ha

theorem chars {s : CharSet} (hins : prog[pc]? = some (.chars s)) :
    Runs prog pc (pc + 1) (.one s) where
  sound {n before text} h := by
    cases h with
    | accept h' =>
      rw [hins] at h'
      cases h'
    | chars h' hc hnext =>
      rw [hins] at h'
      cases h'
      exact ⟨[_], _, _, rfl, ⟨_, rfl, hc⟩, Nat.le_succ _, hnext⟩
    | pass h' hpc _ =>
      rw [hins] at h'
      cases h'
      simp [Instruction.successors] at hpc
  complete {before u rest} hu h := by
    obtain ⟨c, hu, hc⟩ := hu
    rw [hu] at h ⊢
    exact .chars hins hc h

theorem look {l : Look} (hins : prog[pc]? = some (.look l)) :
    Runs prog pc (pc + 1) fun before u rest => u = [] ∧ l.holds ⟨0, before, rest.head?⟩ = true where
  sound {n before text} h := by
    obtain ⟨m, pc', hm, hpc, hnext⟩ := h.next hins rfl
    by_cases hl : l.holds ⟨0, before, text.head?⟩ = true
    · simp only [Instruction.successors, if_pos hl] at hpc
      rw [List.mem_singleton.mp hpc] at hnext
      exact ⟨[], text, m, rfl, ⟨rfl, hl⟩, Nat.le_of_lt hm, hnext⟩
    · simp only [Instruction.successors, if_neg hl] at hpc
      simp at hpc
  complete {before u rest} hu h := by
    obtain ⟨hu, hl⟩ := hu
    rw [hu] at h ⊢
    have hnext : pc + 1 ∈ (Instruction.look l).successors ⟨0, before, rest.head?⟩ pc := by
      simp [Instruction.successors, hl]
    exact .pass hins hnext h

/-- An instruction that only leads on. -/
theorem pass {ins : Instruction} (hins : prog[pc]? = some ins)
    (hnext : ∀ place, ins.successors place pc = [pc']) (hw : ins.waits = false) :
    Runs prog pc pc' .nothing where
  sound {n before text} h := by
    obtain ⟨m, pc', hm, hpc, h⟩ := h.next hins hw
    rw [hnext] at hpc
    rw [List.mem_singleton.mp hpc] at h
    exact ⟨[], text, m, rfl, rfl, Nat.le_of_lt hm, h⟩
  complete {before u rest} hu h := by
    have hu : u = [] := hu
    rw [hu] at h ⊢
    exact .pass hins (by rw [hnext]; exact List.mem_singleton_self _) h

theorem branch_next {greedy : Bool} {inside outside n : Nat} {before : Option Char}
    {text : List Char} (hins : prog[pc]? = some (.branch greedy inside outside))
    (h : Steps prog n before text pc) : ∃ m, m < n ∧
      (Steps prog m before text inside ∨ Steps prog m before text outside) := by
  cases greedy with
  | true =>
    obtain ⟨m, pc', hm, hpc, h⟩ := h.next hins rfl
    obtain hpc | hpc : pc' = inside ∨ pc' = outside := by
      simpa [Instruction.branch, Instruction.successors] using hpc
    · exact ⟨m, hm, .inl (hpc ▸ h)⟩
    · exact ⟨m, hm, .inr (hpc ▸ h)⟩
  | false =>
    obtain ⟨m, pc', hm, hpc, h⟩ := h.next hins rfl
    obtain hpc | hpc : pc' = outside ∨ pc' = inside := by
      simpa [Instruction.branch, Instruction.successors] using hpc
    · exact ⟨m, hm, .inr (hpc ▸ h)⟩
    · exact ⟨m, hm, .inl (hpc ▸ h)⟩

theorem branch_accepts {greedy : Bool} {inside outside : Nat} {before : Option Char}
    {text : List Char} (hins : prog[pc]? = some (.branch greedy inside outside))
    (h : Accepts prog before text inside ∨ Accepts prog before text outside) :
    Accepts prog before text pc := by
  cases greedy with
  | true =>
    obtain h | h := h
    · exact .pass hins (by simp [Instruction.branch, Instruction.successors]) h
    · exact .pass hins (by simp [Instruction.branch, Instruction.successors]) h
  | false =>
    obtain h | h := h
    · exact .pass hins (by simp [Instruction.branch, Instruction.successors]) h
    · exact .pass hins (by simp [Instruction.branch, Instruction.successors]) h

/-- Two stretches to choose from that end at the same place. -/
theorem choice {greedy : Bool} {inside outside : Nat}
    (hins : prog[pc]? = some (.branch greedy inside outside)) (hp : Runs prog inside stop p)
    (hq : Runs prog outside stop q) :
    Runs prog pc stop fun before u rest => p before u rest ∨ q before u rest where
  sound h := by
    obtain ⟨m, hm, h | h⟩ := branch_next hins h
    · obtain ⟨u, rest, k, htext, hu, hk, h⟩ := hp.sound h
      exact ⟨u, rest, k, htext, .inl hu, Nat.le_trans hk (Nat.le_of_lt hm), h⟩
    · obtain ⟨u, rest, k, htext, hu, hk, h⟩ := hq.sound h
      exact ⟨u, rest, k, htext, .inr hu, Nat.le_trans hk (Nat.le_of_lt hm), h⟩
  complete hu h := by
    obtain hu | hu := hu
    · exact branch_accepts hins (.inl (hp.complete hu h))
    · exact branch_accepts hins (.inr (hq.complete hu h))

/-- A stretch that can be run again and again: behind it there is a choice like the one before it,
or a jump back to a choice. -/
theorem loop {greedy : Bool} {inside back : Nat} (hbody : Runs prog inside back p)
    (hback : prog[back]? = some (.branch greedy inside stop) ∨
      ∃ start, prog[back]? = some (.jump start) ∧
        prog[start]? = some (.branch greedy inside stop))
    (hins : prog[pc]? = some (.branch greedy inside stop)) :
    Runs prog pc stop fun before u rest => ∃ n, p.times n before u rest where
  sound {n before text} h := by
    -- By induction on the steps: every round takes at least one.
    induction n using Nat.strongRecOn generalizing before text pc with
    | ind n ih =>
      obtain ⟨m, hm, h | h⟩ := branch_next hins h
      · obtain ⟨v, rest, k, htext, hv, hk, h⟩ := hbody.sound h
        have hagain : ∃ w rest' j, rest = w ++ rest' ∧ (∃ i, p.times i (behind before v) w rest') ∧
            j ≤ k ∧ Steps prog j (behind (behind before v) w) rest' stop := by
          obtain hback | ⟨start, hjump, hstart⟩ := hback
          · exact ih k (Nat.lt_of_le_of_lt hk hm) hback h
          · obtain ⟨j, pc', hj, hpc, h⟩ := h.next hjump rfl
            rw [List.mem_singleton.mp hpc] at h
            obtain ⟨w, rest', i, hrest, hw, hi, h⟩ :=
              ih j (Nat.lt_trans hj (Nat.lt_of_le_of_lt hk hm)) hstart h
            exact ⟨w, rest', i, hrest, hw, Nat.le_trans hi (Nat.le_of_lt hj), h⟩
        obtain ⟨w, rest', j, hrest, ⟨i, hw⟩, hj, h⟩ := hagain
        rw [hrest] at htext hv
        rw [← behind_append] at h
        refine ⟨v ++ w, rest', j, by rw [htext, List.append_assoc],
          ⟨i + 1, v, w, rfl, hv, hw⟩, ?_, h⟩
        omega
      · exact ⟨[], text, m, rfl, ⟨0, rfl⟩, Nat.le_of_lt hm, h⟩
  complete {before u rest} hu h := by
    obtain ⟨n, hu⟩ := hu
    induction n generalizing before u pc with
    | zero =>
      have hu : u = [] := hu
      rw [hu] at h ⊢
      exact branch_accepts hins (.inr h)
    | succ n ih =>
      obtain ⟨v, w, hvw, hv, hw⟩ := hu
      rw [hvw, behind_append] at h
      rw [hvw, List.append_assoc]
      refine branch_accepts hins (.inl (hbody.complete hv ?_))
      obtain hback | ⟨start, hjump, hstart⟩ := hback
      · exact ih hback h hw
      · exact .pass hjump (List.mem_singleton_self _) (ih hstart h hw)

end Runs

end NamePattern.CharRegex
