import NamePattern.Proofs.Spans

/-! The program of an expression consumes what the expression matches. -/
namespace NamePattern.CharRegex

theorem single_contains {c d : Char} : (CharSet.single c).contains d = true ↔ d = c := by
  have htoNat : c.toNat ≤ d.toNat ∧ d.toNat ≤ c.toNat ↔ d = c := by
    constructor
    · rintro ⟨hle, hge⟩
      exact Char.toNat_inj.mp (Nat.le_antisymm hge hle)
    · rintro rfl
      exact ⟨Nat.le_refl _, Nat.le_refl _⟩
  simpa [CharSet.single, CharSet.range, CharSet.contains] using htoNat

namespace Expr

/-- What an expression matches, at a place and with some text behind. Which of several matches is
preferred does not count. An upper bound that is below the lower one does not count either. -/
def Matches : Expr → Span
  | .empty => .nothing
  | .literal text => fun _ u _ => u = text
  | .set s => .one s.ascii
  | .look l => fun before u rest => u = [] ∧ l.holds ⟨0, before, rest.head?⟩ = true
  | .capture _ body => body.Matches
  | .repeated least greatest _ body => fun before u rest =>
    ∃ n, least ≤ n ∧ (∀ m ∈ greatest, n ≤ max least m) ∧ body.Matches.times n before u rest
  | .seq a b => a.Matches.andThen b.Matches
  | .alt a b => fun before u rest => a.Matches before u rest ∨ b.Matches before u rest

end Expr

/-- A program goes on from another one by some more instructions. -/
def Appends (p q : Program) (n : Nat) : Prop :=
  ∃ code : List Instruction, q.toList = p.toList ++ code ∧ code.length = n

variable {p q r prog : Program} {n m : Nat}

namespace Appends

protected theorem refl (p : Program) : Appends p p 0 :=
  ⟨[], (List.append_nil _).symm, rfl⟩

protected theorem trans (h : Appends p q n) (h' : Appends q r m) : Appends p r (n + m) := by
  obtain ⟨code, hq, hn⟩ := h
  obtain ⟨code', hr, hm⟩ := h'
  refine ⟨code ++ code', ?_, by rw [List.length_append, hn, hm]⟩
  rw [hr, hq, List.append_assoc]

theorem push (p : Program) (ins : Instruction) : Appends p (p.push ins) 1 :=
  ⟨[ins], Array.toList_push, rfl⟩

theorem size (h : Appends p q n) : q.size = p.size + n := by
  obtain ⟨code, hq, hn⟩ := h
  rw [← Array.length_toList, hq, List.length_append, Array.length_toList, hn]

theorem getElem? (h : Appends p q n) {i : Nat} (hi : i < p.size) : q[i]? = p[i]? := by
  obtain ⟨code, hq, -⟩ := h
  rw [← Array.getElem?_toList, hq, List.getElem?_append_left (by simpa using hi),
    Array.getElem?_toList]

/-- The instruction that has been put behind a program. -/
theorem pushed {ins : Instruction} (h : Appends (p.push ins) prog n) : prog[p.size]? = some ins := by
  rw [h.getElem? (by simp)]
  simp

theorem copies {step : Program → Program} {k : Nat} (h : ∀ p, Appends p (step p) k) (n : Nat)
    (p : Program) : Appends p (copies step n p) (n * k) := by
  induction n generalizing p with
  | zero =>
    rw [Nat.zero_mul]
    exact .refl p
  | succ n ih =>
    have hcount : (n + 1) * k = k + n * k := by rw [Nat.succ_mul, Nat.add_comm]
    rw [hcount]
    exact (h p).trans (ih (step p))

end Appends

namespace Expr

theorem literal_appends (text : List Char) (p : Program) :
    Appends p (text.foldl (fun p c => p.push (.chars (.single c))) p) text.length := by
  induction text generalizing p with
  | nil => exact .refl p
  | cons c text ih =>
    rw [List.foldl_cons, List.length_cons, Nat.add_comm]
    exact (Appends.push p _).trans (ih _)

/-- Puts one copy of an expression behind a program. -/
def once (e : Expr) (p : Program) : Program := e.emit (p.size + e.codeSize) p

/-- Puts a copy of an expression behind a program that may be left out. -/
def optional (greedy : Bool) (stop : Nat) (e : Expr) (p : Program) : Program :=
  e.once (p.push (.branch greedy (p.size + 1) stop))

theorem emit_any (greedy : Bool) (body : Expr) (stop : Nat) (p : Program) :
    (repeated 0 none greedy body).emit stop p = (body.optional greedy stop p).push
      (if body.consumes then .jump p.size else .branch greedy (p.size + 1) stop) := rfl

theorem emit_atLeast (min : Nat) (greedy : Bool) (body : Expr) (stop : Nat) (p : Program) :
    (repeated (min + 1) none greedy body).emit stop p = (body.once (copies body.once min p)).push
      (.branch greedy (copies body.once min p).size stop) := rfl

theorem emit_between (min max : Nat) (greedy : Bool) (body : Expr) (stop : Nat) (p : Program) :
    (repeated min (some max) greedy body).emit stop p =
      copies (body.optional greedy stop) (max - min) (copies body.once min p) := rfl

theorem codeSize_any (greedy : Bool) (body : Expr) :
    (repeated 0 none greedy body).codeSize = 1 + body.codeSize + 1 := by
  have hsize : (repeated 0 none greedy body).codeSize = body.codeSize + 2 := rfl
  omega

theorem codeSize_atLeast (min : Nat) (greedy : Bool) (body : Expr) :
    (repeated (min + 1) none greedy body).codeSize = min * body.codeSize + body.codeSize + 1 := by
  have hsize : (repeated (min + 1) none greedy body).codeSize = (min + 1) * body.codeSize + 1 := rfl
  rw [hsize, Nat.succ_mul]

theorem codeSize_between (min max : Nat) (greedy : Bool) (body : Expr) :
    (repeated min (some max) greedy body).codeSize =
      min * body.codeSize + (max - min) * (1 + body.codeSize) := by
  have hsize : (repeated min (some max) greedy body).codeSize =
      min * body.codeSize + (max - min) * (body.codeSize + 1) := rfl
  rw [hsize, Nat.add_comm 1]

/-- An expression takes as many instructions as its size says. -/
theorem emit_appends (e : Expr) (stop : Nat) (p : Program) :
    Appends p (e.emit stop p) e.codeSize := by
  induction e generalizing stop p with
  | empty => exact .refl p
  | literal text => exact literal_appends text p
  | set s => exact .push p _
  | look l => exact .push p _
  | capture index body ih =>
    have h := ((Appends.push p (.save (2 * index))).trans (ih (stop - 1) _)).trans
      (.push _ (.save (2 * index + 1)))
    have hsize : 1 + body.codeSize + 1 = body.codeSize + 2 := by omega
    rw [hsize] at h
    exact h
  | repeated min max greedy body ih =>
    have honce (p : Program) : Appends p (body.once p) body.codeSize := ih _ p
    have hoptional (p : Program) : Appends p (body.optional greedy stop p) (1 + body.codeSize) :=
      (Appends.push p _).trans (honce _)
    cases max with
    | none =>
      cases min with
      | zero =>
        rw [emit_any, codeSize_any]
        exact (hoptional p).trans (.push _ _)
      | succ min =>
        rw [emit_atLeast, codeSize_atLeast]
        exact ((Appends.copies honce min p).trans (honce _)).trans (.push _ _)
    | some max =>
      rw [emit_between, codeSize_between]
      exact (Appends.copies honce min p).trans (.copies hoptional _ _)
  | seq a b iha ihb => exact (iha _ p).trans (ihb stop _)
  | alt a b iha ihb =>
    have h := (((Appends.push p (.split (p.size + 1) (p.size + a.codeSize + 2))).trans
      (iha (p.size + a.codeSize + 2 - 1) _)).trans (.push _ (.jump stop))).trans (ihb stop _)
    have hsize : 1 + a.codeSize + 1 + b.codeSize = a.codeSize + b.codeSize + 2 := by omega
    rw [hsize] at h
    exact h

theorem once_appends (e : Expr) (p : Program) : Appends p (e.once p) e.codeSize := e.emit_appends _ p

theorem optional_appends (greedy : Bool) (stop : Nat) (e : Expr) (p : Program) :
    Appends p (e.optional greedy stop p) (1 + e.codeSize) :=
  (Appends.push p _).trans (e.once_appends _)

/-- Wherever the code of an expression stands, what runs through it is what the expression
matches. -/
def Emitted (e : Expr) : Prop :=
  ∀ {p prog : Program} {n : Nat}, Appends (e.once p) prog n →
    Runs prog p.size (p.size + e.codeSize) e.Matches

theorem copies_run {body : Expr} (h : body.Emitted) (k : Nat)
    (hprog : Appends (copies body.once k p) prog n) :
    Runs prog p.size (p.size + k * body.codeSize) (body.Matches.times k) := by
  induction k generalizing p with
  | zero =>
    rw [Nat.zero_mul]
    exact .refl prog p.size
  | succ k ih =>
    have hcopies := Appends.copies body.once_appends k (body.once p)
    have hfirst := h (hcopies.trans hprog)
    have hrest := ih hprog
    have hstop : (body.once p).size + k * body.codeSize = p.size + (k + 1) * body.codeSize := by
      rw [(body.once_appends p).size, Nat.succ_mul]
      omega
    rw [hstop, (body.once_appends p).size] at hrest
    exact hfirst.trans hrest

theorem optional_copies_run {body : Expr} (h : body.Emitted) (greedy : Bool) (k : Nat) {stop : Nat}
    (hstop : stop = p.size + k * (1 + body.codeSize))
    (hprog : Appends (copies (body.optional greedy stop) k p) prog n) :
    Runs prog p.size stop fun before u rest => ∃ i ≤ k, body.Matches.times i before u rest := by
  induction k generalizing p with
  | zero =>
    have hsize : p.size = stop := by omega
    rw [hsize]
    refine (Runs.refl prog stop).congr fun before u rest => ⟨fun hu => ⟨0, Nat.le_refl 0, hu⟩, ?_⟩
    intro hu
    obtain ⟨i, hi, hu⟩ := hu
    rw [Nat.le_zero.mp hi] at hu
    exact hu
  | succ k ih =>
    have hsize : (body.optional greedy stop p).size = p.size + (1 + body.codeSize) :=
      (body.optional_appends greedy stop p).size
    have hcount : (k + 1) * (1 + body.codeSize) = k * (1 + body.codeSize) + (1 + body.codeSize) :=
      Nat.succ_mul k _
    have hrest := ih (p := body.optional greedy stop p) (by omega) hprog
    have hbehind := (Appends.copies (body.optional_appends greedy stop) k
      (body.optional greedy stop p)).trans hprog
    have hbody := h hbehind
    have hinside : (p.push (.branch greedy (p.size + 1) stop)).size = p.size + 1 := by simp
    have hins : prog[p.size]? = some (.branch greedy (p.size + 1) stop) :=
      ((body.once_appends (p.push (.branch greedy (p.size + 1) stop))).trans hbehind).pushed
    rw [hsize] at hrest
    rw [hinside, Nat.add_assoc] at hbody
    refine (Runs.choice hins (hbody.trans hrest) (.refl prog stop)).congr fun before u rest => ?_
    constructor
    · intro hu
      obtain ⟨v, w, hvw, hv, i, hi, hw⟩ | hu := hu
      · exact ⟨i + 1, Nat.succ_le_succ hi, v, w, hvw, hv, hw⟩
      · exact ⟨0, Nat.zero_le _, hu⟩
    · intro hu
      obtain ⟨i, hi, hu⟩ := hu
      cases i with
      | zero => exact .inr hu
      | succ i =>
        obtain ⟨v, w, hvw, hv, hw⟩ := hu
        exact .inl ⟨v, w, hvw, hv, i, Nat.le_of_succ_le_succ hi, hw⟩

theorem literal_runs (text : List Char) {p : Program}
    (h : Appends (text.foldl (fun p c => p.push (.chars (.single c))) p) prog n) :
    Runs prog p.size (p.size + text.length) fun _ u _ => u = text := by
  induction text generalizing p with
  | nil => exact .refl prog p.size
  | cons c text ih =>
    have hins := ((literal_appends text (p.push (.chars (.single c)))).trans h).pushed
    have hrest := ih h
    have hsize : (p.push (.chars (.single c))).size = p.size + 1 := by simp
    rw [hsize, Nat.add_assoc, Nat.add_comm 1] at hrest
    refine ((Runs.chars hins).trans hrest).congr fun before u rest => ?_
    constructor
    · intro hu
      obtain ⟨v, w, hvw, ⟨d, hv, hd⟩, hw⟩ := hu
      rw [hvw, hv, hw, single_contains.mp hd]
      rfl
    · intro hu
      exact ⟨[c], text, hu, ⟨c, rfl, single_contains.mpr rfl⟩, rfl⟩

theorem any_emitted {body : Expr} (h : body.Emitted) (greedy : Bool) :
    (repeated 0 none greedy body).Emitted := by
  intro p prog n hprog
  unfold once at hprog
  rw [emit_any, codeSize_any] at hprog
  rw [codeSize_any]
  generalize hstop : p.size + (1 + body.codeSize + 1) = stop at hprog
  have hsize : (p.push (.branch greedy (p.size + 1) stop)).size = p.size + 1 := by simp
  have hback := hprog.pushed
  have hbehind := (Appends.push _ _).trans hprog
  have hins := ((body.once_appends (p.push (.branch greedy (p.size + 1) stop))).trans hbehind).pushed
  have hbody := h hbehind
  rw [(body.optional_appends greedy stop p).size, ← Nat.add_assoc] at hback
  rw [hsize] at hbody
  refine (hbody.loop ?_ hins).congr fun before u rest => ?_
  · by_cases hconsumes : body.consumes = true
    · rw [if_pos hconsumes] at hback
      exact .inr ⟨p.size, hback, hins⟩
    · rw [if_neg hconsumes] at hback
      exact .inl hback
  · constructor
    · intro hu
      obtain ⟨i, hu⟩ := hu
      exact ⟨i, Nat.zero_le i, by simp, hu⟩
    · intro hu
      obtain ⟨i, -, -, hu⟩ := hu
      exact ⟨i, hu⟩

theorem atLeast_emitted {body : Expr} (h : body.Emitted) (min : Nat) (greedy : Bool) :
    (repeated (min + 1) none greedy body).Emitted := by
  intro p prog n hprog
  unfold once at hprog
  rw [emit_atLeast, codeSize_atLeast] at hprog
  rw [codeSize_atLeast]
  generalize hstop : p.size + (min * body.codeSize + body.codeSize + 1) = stop at hprog
  have hsize := (Appends.copies body.once_appends min p).size
  have hback := hprog.pushed
  have hbehind := (Appends.push _ _).trans hprog
  have hfirst := copies_run h min ((body.once_appends _).trans hbehind)
  have hbody := h hbehind
  rw [(body.once_appends _).size] at hback
  have hloop := hbody.loop (.inl hback) hback
  rw [hsize] at hbody hloop
  refine (hfirst.trans (hbody.trans hloop)).congr fun before u rest => ?_
  have hround (before : Option Char) (u rest : List Char) : body.Matches.andThen
      (fun before u rest => ∃ n, body.Matches.times n before u rest) before u rest ↔
        ∃ n, body.Matches.times (n + 1) before u rest := by
    constructor
    · intro hu
      obtain ⟨v, w, hvw, hv, n, hw⟩ := hu
      exact ⟨n, v, w, hvw, hv, hw⟩
    · intro hu
      obtain ⟨n, v, w, hvw, hv, hw⟩ := hu
      exact ⟨v, w, hvw, hv, n, hw⟩
  rw [Span.andThen_congr (fun _ _ _ => Iff.rfl) hround]
  constructor
  · intro hu
    obtain ⟨v, w, hvw, hv, i, hw⟩ := hu
    exact ⟨min + (i + 1), by omega, by simp, Span.times_add.mpr ⟨v, w, hvw, hv, hw⟩⟩
  · intro hu
    obtain ⟨i, hi, -, hu⟩ := hu
    obtain ⟨j, hj⟩ : ∃ j, i = min + (j + 1) := ⟨i - (min + 1), by omega⟩
    rw [hj] at hu
    obtain ⟨v, w, hvw, hv, hw⟩ := Span.times_add.mp hu
    exact ⟨v, w, hvw, hv, j, hw⟩

theorem between_emitted {body : Expr} (h : body.Emitted) (min max : Nat) (greedy : Bool) :
    (repeated min (some max) greedy body).Emitted := by
  intro p prog n hprog
  unfold once at hprog
  rw [emit_between, codeSize_between] at hprog
  rw [codeSize_between]
  generalize hstop : p.size + (min * body.codeSize + (max - min) * (1 + body.codeSize)) = stop
    at hprog
  have hsize := (Appends.copies body.once_appends min p).size
  have hfirst := copies_run h min ((Appends.copies (body.optional_appends greedy stop) _ _).trans hprog)
  have hrest := optional_copies_run h greedy (max - min) (by omega) hprog
  rw [hsize] at hrest
  refine (hfirst.trans hrest).congr fun before u rest => ?_
  constructor
  · intro hu
    obtain ⟨v, w, hvw, hv, i, hi, hw⟩ := hu
    refine ⟨min + i, Nat.le_add_right _ _, ?_, Span.times_add.mpr ⟨v, w, hvw, hv, hw⟩⟩
    intro m hm
    rw [← Option.some.inj hm]
    omega
  · intro hu
    obtain ⟨i, hmin, hmax, hu⟩ := hu
    have hle := hmax max rfl
    obtain ⟨j, hj⟩ : ∃ j, i = min + j := ⟨i - min, by omega⟩
    rw [hj] at hu hle
    obtain ⟨v, w, hvw, hv, hw⟩ := Span.times_add.mp hu
    exact ⟨v, w, hvw, hv, j, by omega, hw⟩

theorem once_capture (index : Nat) (body : Expr) (p : Program) : (capture index body).once p =
    (body.once (p.push (.save (2 * index)))).push (.save (2 * index + 1)) := by
  have hsize : (p.push (.save (2 * index))).size = p.size + 1 := by simp
  have hstop : p.size + (body.codeSize + 2) - 1 = p.size + 1 + body.codeSize := by omega
  have hemit : (capture index body).once p =
      (body.emit (p.size + (body.codeSize + 2) - 1) (p.push (.save (2 * index)))).push
        (.save (2 * index + 1)) := rfl
  rw [hemit, hstop, once, hsize]

theorem once_seq (a b : Expr) (p : Program) : (seq a b).once p = b.once (a.once p) := by
  have hstop : p.size + (a.codeSize + b.codeSize) = (a.once p).size + b.codeSize := by
    rw [(a.once_appends p).size, Nat.add_assoc]
  have hemit : (seq a b).once p = b.emit (p.size + (a.codeSize + b.codeSize)) (a.once p) := rfl
  rw [hemit, hstop]
  rfl

theorem once_alt (a b : Expr) (p : Program) : (alt a b).once p =
    b.once ((a.once (p.push (.split (p.size + 1) (p.size + a.codeSize + 2)))).push
      (.jump (p.size + (a.codeSize + b.codeSize + 2)))) := by
  have hsize : (p.push (.split (p.size + 1) (p.size + a.codeSize + 2))).size = p.size + 1 := by simp
  have hmiddle : p.size + a.codeSize + 2 - 1 = p.size + 1 + a.codeSize := by omega
  have hstop : p.size + (a.codeSize + b.codeSize + 2) =
      p.size + 1 + a.codeSize + 1 + b.codeSize := by omega
  have hemit : (alt a b).once p = b.emit (p.size + (a.codeSize + b.codeSize + 2))
      ((a.emit (p.size + a.codeSize + 2 - 1)
        (p.push (.split (p.size + 1) (p.size + a.codeSize + 2)))).push
          (.jump (p.size + (a.codeSize + b.codeSize + 2)))) := rfl
  have hfirst := (a.emit_appends (p.size + 1 + a.codeSize)
    (p.push (.split (p.size + 1) (p.size + a.codeSize + 2)))).size
  rw [hemit]
  unfold once
  rw [hmiddle, hsize, Array.size_push, hfirst, hsize, ← hstop]

theorem capture_emitted {body : Expr} (h : body.Emitted) (index : Nat) :
    (capture index body).Emitted := by
  intro p prog n hprog
  rw [once_capture] at hprog
  have hsize : (p.push (.save (2 * index))).size = p.size + 1 := by simp
  have hclose := hprog.pushed
  have hbehind := (Appends.push _ _).trans hprog
  have hopen := ((body.once_appends (p.push (.save (2 * index)))).trans hbehind).pushed
  have hbody := h hbehind
  rw [(body.once_appends _).size, hsize] at hclose
  rw [hsize] at hbody
  have hruns := ((Runs.pass hopen (fun _ => rfl) rfl).trans hbody).trans
    (.pass hclose (fun _ => rfl) rfl)
  have hcode : p.size + 1 + body.codeSize + 1 = p.size + (capture index body).codeSize := by
    have hcapture : (capture index body).codeSize = body.codeSize + 2 := rfl
    omega
  rw [hcode] at hruns
  refine hruns.congr fun before u rest => ?_
  rw [Span.andThen_nothing, Span.nothing_andThen, Matches]

theorem seq_emitted {a b : Expr} (ha : a.Emitted) (hb : b.Emitted) : (seq a b).Emitted := by
  intro p prog n hprog
  rw [once_seq] at hprog
  have hfirst := ha ((b.once_appends _).trans hprog)
  have hrest := hb hprog
  rw [(a.once_appends p).size, Nat.add_assoc] at hrest
  exact hfirst.trans hrest

theorem alt_emitted {a b : Expr} (ha : a.Emitted) (hb : b.Emitted) : (alt a b).Emitted := by
  intro p prog n hprog
  rw [once_alt] at hprog
  generalize hstop : p.size + (a.codeSize + b.codeSize + 2) = stop at hprog
  generalize hsplit : Instruction.split (p.size + 1) (p.size + a.codeSize + 2) = split at hprog
  have hsize : (p.push split).size = p.size + 1 := by simp
  have hbehind := (b.once_appends _).trans hprog
  have hjump := hbehind.pushed
  have hinside := (Appends.push _ _).trans hbehind
  have hins := ((a.once_appends (p.push split)).trans hinside).pushed
  have hfirst := ha hinside
  have hsecond := hb hprog
  rw [(a.once_appends _).size, hsize] at hjump
  rw [Array.size_push, (a.once_appends _).size, hsize] at hsecond
  rw [hsize] at hfirst
  rw [← hsplit] at hins
  have hmiddle : p.size + 1 + a.codeSize + 1 = p.size + a.codeSize + 2 := by omega
  have hend : p.size + a.codeSize + 2 + b.codeSize = stop := by omega
  rw [hmiddle, hend] at hsecond
  have hcode : p.size + (alt a b).codeSize = stop := hstop
  rw [hcode]
  have hrun := hfirst.trans (.pass hjump (fun _ => rfl) rfl)
  have hchoice : prog[p.size]? = some (.branch true (p.size + 1) (p.size + a.codeSize + 2)) := hins
  refine (Runs.choice hchoice hrun hsecond).congr fun before u rest => ?_
  rw [Span.andThen_nothing, Matches]

/-- What runs through the code of an expression is what the expression matches. -/
theorem emitted (e : Expr) : e.Emitted := by
  induction e with
  | empty => exact fun _ => .refl _ _
  | literal text => exact literal_runs text
  | set s => exact fun h => .chars h.pushed
  | look l => exact fun h => .look h.pushed
  | capture index body ih => exact capture_emitted ih index
  | repeated min max greedy body ih =>
    cases max with
    | none =>
      cases min with
      | zero => exact any_emitted ih greedy
      | succ min => exact atLeast_emitted ih min greedy
    | some max => exact between_emitted ih min max greedy
  | seq a b iha ihb => exact seq_emitted iha ihb
  | alt a b iha ihb => exact alt_emitted iha ihb

end Expr

end NamePattern.CharRegex
