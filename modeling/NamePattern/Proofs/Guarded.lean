import NamePattern.Proofs.Stack

/-! Matching with numbers of 64 bits. A guarded run breaks off where a sum or a difference is no such
number, where a node is called that does not exist, and where a call is made for components that the
caller has not been called for. No run breaks off, and each ends as it does without guards. -/
namespace NamePattern

namespace Word

/-- A sum that fits into 64 bits. -/
def add? (m n : Nat) : Option Nat := if m + n < 2 ^ 64 then some (m + n) else none

/-- A difference that is not negative. -/
def sub? (m n : Nat) : Option Nat := if n ≤ m then some (m - n) else none

theorem add?_of_lt {m n : Nat} (h : m + n < 2 ^ 64) : add? m n = some (m + n) := if_pos h

theorem sub?_of_le {m n : Nat} (h : n ≤ m) : sub? m n = some (m - n) := if_pos h

/-- The components behind the first `taken` of a run. -/
def behind? (offset length taken : Nat) : Option (Nat × Nat) := do
  let offset ← add? offset taken
  let length ← sub? length taken
  return (offset, length)

theorem behind?_of_le {offset length taken : Nat} (hle : taken ≤ length)
    (hlt : offset + length < 2 ^ 64) :
    behind? offset length taken = some (offset + taken, length - taken) := by
  have hadd : add? offset taken = some (offset + taken) := add?_of_lt (by omega)
  have hsub : sub? length taken = some (length - taken) := sub?_of_le hle
  rw [behind?, hadd, hsub]
  rfl

theorem eq_of_behind? {offset length taken o l : Nat} (h : behind? offset length taken = some (o, l)) :
    o = offset + taken ∧ l = length - taken := by
  unfold behind? add? sub? at h
  split at h
  · split at h
    · cases h
      exact ⟨rfl, rfl⟩
    · cases h
  · cases h

end Word

/-- An attempt that may break off, without a result. -/
abbrev Guarded := Slots → Option (Bool × Slots)

namespace Guarded

def ofAttempt (x : Attempt) : Guarded := fun s => some (x s)

def andThen (first second : Guarded) : Guarded := fun s =>
  match first s with
  | none => none
  | some (true, s) => second s
  | some (false, s) => some (false, s)

def orElse (first second : Guarded) : Guarded := fun s =>
  match first s with
  | none => none
  | some (true, s) => some (true, s)
  | some (false, s) => second s

def longestFirst (attempt : Nat → Guarded) : Nat → Guarded
  | 0 => attempt 0
  | n + 1 => (attempt (n + 1)).orElse (longestFirst attempt n)

def any {α : Type} (attempt : α → Guarded) : List α → Guarded
  | [] => ofAttempt .fail
  | a :: as => (attempt a).orElse (any attempt as)

/-- A guarded attempt does not break off, and it ends as the other one does. -/
def Refines (x : Guarded) (y : Attempt) : Prop := ∀ s, x s = some (y s)

namespace Refines

variable {x x' : Guarded} {y y' : Attempt}

theorem ofAttempt (y : Attempt) : (ofAttempt y).Refines y := fun _ => rfl

theorem andThen (h : x.Refines y) (h' : x'.Refines y') :
    (x.andThen x').Refines (y.andThen y') := by
  intro s
  unfold Guarded.andThen Attempt.andThen
  rw [h s]
  obtain ⟨found, s'⟩ := y s
  cases found with
  | true => exact h' s'
  | false => rfl

theorem orElse (h : x.Refines y) (h' : x'.Refines y') : (x.orElse x').Refines (y.orElse y') := by
  intro s
  unfold Guarded.orElse Attempt.orElse
  rw [h s]
  obtain ⟨found, s'⟩ := y s
  cases found with
  | true => rfl
  | false => exact h' s'

theorem longestFirst {f : Nat → Guarded} {g : Nat → Attempt} {n : Nat}
    (h : ∀ k ≤ n, (f k).Refines (g k)) :
    (Guarded.longestFirst f n).Refines (Attempt.longestFirst g n) := by
  induction n with
  | zero => exact h 0 (Nat.le_refl 0)
  | succ n ih =>
    have hfirst := h (n + 1) (Nat.le_refl _)
    have hothers := ih fun k hk => h k (Nat.le_succ_of_le hk)
    exact hfirst.orElse hothers

theorem any {α β : Type} {f : α → Guarded} {g : β → Attempt} {t : α → β} {as : List α}
    (h : ∀ a ∈ as, (f a).Refines (g (t a))) :
    (Guarded.any f as).Refines (Attempt.any g (as.map t)) := by
  induction as with
  | nil => exact .ofAttempt .fail
  | cons a as ih =>
    obtain ⟨hfirst, hothers⟩ := List.forall_mem_cons.mp h
    exact hfirst.orElse (ih hothers)

end Refines

end Guarded

/-- The run of components that a node is called for. -/
structure Window where
  offset : Nat
  length : Nat

/-- A run of components lies in the window of the caller. -/
def Window.Contains (w : Window) (offset length : Nat) : Prop :=
  w.offset ≤ offset ∧ offset + length ≤ w.offset + w.length

instance (w : Window) (offset length : Nat) : Decidable (w.Contains offset length) :=
  inferInstanceAs (Decidable (_ ∧ _))

/-- A run of components lies in a name. Every call begins with this check. -/
def Name.Admits (name : Name) (offset length : Nat) : Prop :=
  offset + length < 2 ^ 64 ∧ offset + length ≤ name.length

instance (name : Name) (offset length : Nat) : Decidable (name.Admits offset length) :=
  inferInstanceAs (Decidable (_ ∧ _))

/-- Calls a node while a window is matched. This breaks off if there is no such node, if the
components lie outside the window, or if the check would refuse them. -/
def Arena.call (a : Arena) (name : Name) (w : Window) (id : NodeId)
    (attempt : Nat → Nat → Guarded) (offset length : Nat) : Guarded := fun s =>
  if id < a.size ∧ w.Contains offset length ∧ name.Admits offset length then attempt offset length s
  else none

namespace Repetition

/-- The loop over the repetitions in progress. What is left behind a repetition is worked out with
numbers of 64 bits. -/
def loop? (attempt : Nat → Nat → Guarded) (bounds : Bounds) (single : Bool) :
    List Frame → Guarded
  | [], s => some (false, s)
  | ⟨_, _, _, 0⟩ :: below, s => loop? attempt bounds single below s
  | ⟨made, offset, length, t + 1⟩ :: below, s =>
    if _ht : made < bounds.min ∨ 0 < t then
      match attempt offset t s with
      | none => none
      | some (true, s) =>
        match _hb : Word.behind? offset length t with
        | none => none
        | some (o, l) =>
          match _h : enter bounds single (made + 1) (⟨made, offset, length, t⟩ :: below) o l with
          | none => some (true, s)
          | some stack => loop? attempt bounds single stack s
      | some (false, s) => loop? attempt bounds single (⟨made, offset, length, t⟩ :: below) s
    else loop? attempt bounds single below s
termination_by stack => cost bounds.min stack
decreasing_by
  · simp [cost]
  · obtain ⟨rfl, rfl⟩ := Word.eq_of_behind? _hb
    exact cost_enter _ht _h
  · have := weight_pos (bounds.min - made + length)
    simp only [cost, Nat.succ_mul]
    omega
  · simp [cost]

def run? (attempt : Nat → Nat → Guarded) (bounds : Bounds) (single : Bool)
    (offset length : Nat) : Guarded :=
  if bounds.min = 0 ∧ length = 0 then .ofAttempt .succeed
  else
    match enter bounds single 0 [] offset length with
    | none => .ofAttempt .succeed
    | some stack => loop? attempt bounds single stack

/-- What every repetition on a stack may take lies in a window, and none has more lengths left to try
than it may take components. -/
def Within (w : Window) (stack : List Frame) : Prop :=
  ∀ f ∈ stack, w.Contains f.offset f.length ∧ f.untried ≤ f.length + 1

variable {attempt : Nat → Nat → Guarded} {attempt' : Nat → Nat → Attempt} {bounds : Bounds}
  {single : Bool} {w : Window} {made offset length t : Nat} {below stack : List Frame}

theorem Within.enter (h : Within w stack) (hw : w.Contains offset length) {stack' : List Frame}
    (henter : enter bounds single made stack offset length = some stack') : Within w stack' := by
  unfold Repetition.enter at henter
  split at henter
  · split at henter
    · cases henter
    · exact Option.some.inj henter ▸ h
  · next hlength =>
    split at henter
    · rw [← Option.some.inj henter]
      have huntried : (if single then 2 else length + 1) ≤ length + 1 := by
        split
        · omega
        · exact Nat.le_refl _
      exact List.forall_mem_cons.mpr ⟨⟨hw, huntried⟩, h⟩
    · exact Option.some.inj henter ▸ h

/-- The first `t` of the components that a repetition may take, and those behind them, lie in the
window too. -/
theorem behind_contains (hw : w.Contains offset length) (ht : t ≤ length) :
    w.Contains offset t ∧ w.Contains (offset + t) (length - t) := by
  unfold Window.Contains at *
  omega

/-- A turn that takes `t` components goes on behind them. -/
theorem loop?_of_true {s s' : Slots} {o l : Nat} (ht : made < bounds.min ∨ 0 < t)
    (hattempt : attempt offset t s = some (true, s'))
    (hbehind : Word.behind? offset length t = some (o, l)) :
    loop? attempt bounds single (⟨made, offset, length, t + 1⟩ :: below) s =
      match enter bounds single (made + 1) (⟨made, offset, length, t⟩ :: below) o l with
      | none => some (true, s')
      | some stack => loop? attempt bounds single stack s' := by
  rw [loop?, dif_pos ht, hattempt]
  dsimp only
  split
  · next hnone => cases hnone.symm.trans hbehind
  · next o' l' hsome =>
    cases hsome.symm.trans hbehind
    split <;> next henter => rw [henter]

theorem loop?_of_false {s s' : Slots} (ht : made < bounds.min ∨ 0 < t)
    (hattempt : attempt offset t s = some (false, s')) :
    loop? attempt bounds single (⟨made, offset, length, t + 1⟩ :: below) s =
      loop? attempt bounds single (⟨made, offset, length, t⟩ :: below) s' := by
  rw [loop?, dif_pos ht, hattempt]

/-- The loop calls the node in the window only, by induction on its turns: each of them leaves a stack
within the window. -/
theorem loop?_eq (hw : w.offset + w.length < 2 ^ 64)
    (h : ∀ o l, w.Contains o l → (attempt o l).Refines (attempt' o l)) (s : Slots)
    (hstack : Within w stack) :
    loop? attempt bounds single stack s = some (loop attempt' bounds single stack s) := by
  have hfront : ∀ {offset length t : Nat}, w.Contains offset length → t + 1 ≤ length + 1 →
      (∀ s, attempt offset t s = some (attempt' offset t s)) ∧
        Word.behind? offset length t = some (offset + t, length - t) := by
    intro offset length t hf huntried
    have hle : t ≤ length := Nat.le_of_succ_le_succ huntried
    have hlt : offset + length < 2 ^ 64 := Nat.lt_of_le_of_lt hf.2 hw
    exact ⟨h offset t (behind_contains hf hle).1, Word.behind?_of_le hle hlt⟩
  fun_induction loop attempt' bounds single stack s with
  | case1 s => rw [loop?]
  | case2 s _ _ _ below ih =>
    rw [loop?]
    exact ih (List.forall_mem_cons.mp hstack).2
  | case3 made offset length t below s ht s' hattempt henter =>
    obtain ⟨⟨hf, huntried⟩, -⟩ := List.forall_mem_cons.mp hstack
    obtain ⟨hcall, hbehind⟩ := hfront hf huntried
    have htaken : attempt offset t s = some (true, s') := hattempt ▸ hcall s
    rw [loop?_of_true ht htaken hbehind, henter]
  | case4 made offset length t below s ht s' hattempt stack henter ih =>
    obtain ⟨⟨hf, huntried⟩, hbelow⟩ := List.forall_mem_cons.mp hstack
    obtain ⟨hcall, hbehind⟩ := hfront hf huntried
    have htaken : attempt offset t s = some (true, s') := hattempt ▸ hcall s
    have hle : t ≤ length := Nat.le_of_succ_le_succ huntried
    have hcurrent : Within w (⟨made, offset, length, t⟩ :: below) :=
      List.forall_mem_cons.mpr ⟨⟨hf, Nat.le_succ_of_le hle⟩, hbelow⟩
    have hnext : Within w stack := hcurrent.enter (behind_contains hf hle).2 henter
    rw [loop?_of_true ht htaken hbehind, henter]
    exact ih hnext
  | case5 made offset length t below s ht s' hattempt ih =>
    obtain ⟨⟨hf, huntried⟩, hbelow⟩ := List.forall_mem_cons.mp hstack
    have hrefused : attempt offset t s = some (false, s') := hattempt ▸ (hfront hf huntried).1 s
    have hcurrent : Within w (⟨made, offset, length, t⟩ :: below) :=
      List.forall_mem_cons.mpr ⟨⟨hf, Nat.le_of_succ_le huntried⟩, hbelow⟩
    rw [loop?_of_false ht hrefused]
    exact ih hcurrent
  | case6 made offset length t below s ht ih =>
    rw [loop?, dif_neg ht]
    exact ih (List.forall_mem_cons.mp hstack).2

theorem run?_refines (hlt : w.offset + w.length < 2 ^ 64)
    (h : ∀ o l, w.Contains o l → (attempt o l).Refines (attempt' o l)) :
    (run? attempt bounds single w.offset w.length).Refines
      (run attempt' bounds single w.offset w.length) := by
  unfold run? run
  by_cases hnone : bounds.min = 0 ∧ w.length = 0
  · rw [if_pos hnone, if_pos hnone]
    exact .ofAttempt _
  · rw [if_neg hnone, if_neg hnone]
    cases henter : enter bounds single 0 [] w.offset w.length with
    | none => exact .ofAttempt _
    | some stack =>
      have hempty : Within w [] := by simp [Within]
      have hwhole : w.Contains w.offset w.length := ⟨Nat.le_refl _, Nat.le_refl _⟩
      exact fun s => loop?_eq hlt h s (hempty.enter hwhole henter)

end Repetition

namespace Matcher

/-- The answer of a leaf to a component of a name. -/
def leafRun (name : Name) (leaf : Leaf) (offset length : Nat) : Guarded :=
  .ofAttempt ((Answers.ofLeaf name.components.toArray leaf).run offset length)

mutual

/-- Matches the `length` components from `offset` on of a name, with guards. -/
def run? (a : Arena) (name : Name) : Matcher Leaf → Nat → Nat → Guarded
  | component _ leaf, offset, length => leafRun name leaf offset length
  | set _ members inclusion, offset, length => fun s =>
    if length ≠ 1 then some (false, s)
    else
      match Guarded.any (fun leaf : Leaf =>
        a.call name ⟨offset, length⟩ leaf.id (leafRun name leaf) offset length) members s with
      | none => none
      | some (found, s) => some (found == inclusion, s)
  | group id inner, offset, length => fun s =>
    match a.call name ⟨offset, length⟩ inner.id (run? a name inner) offset length (s.clear id) with
    | none => none
    | some (true, s) => (Word.add? offset length).map fun _ => (true, s.set id (.span offset length))
    | some (false, s) => some (false, s)
  | repeated _ inner bounds, offset, length =>
    Repetition.run? (a.call name ⟨offset, length⟩ inner.id (run? a name inner)) bounds inner.isSet
      offset length
  | list _ items, offset, length => runItems? a name ⟨offset, length⟩ items offset length

/-- Matches items one behind the other, in the window of their list. -/
def runItems? (a : Arena) (name : Name) (w : Window) : List (Matcher Leaf) → Nat → Nat → Guarded
  | [], _, length => fun s => some (length == 0, s)
  | item :: items, offset, length =>
    Guarded.longestFirst
      (fun taken => (a.call name w item.id (run? a name item) offset taken).andThen fun s =>
        match Word.behind? offset length taken with
        | none => none
        | some (o, l) => runItems? a name w items o l s)
      length

end

variable {a : Arena} {name : Name} {w : Window} {offset length : Nat}

/-- A call within the window of the caller is a call within the name, so that no check refuses it. -/
theorem call_refines {id : NodeId} {attempt : Nat → Nat → Guarded} {x : Attempt} (hid : id < a.size)
    (hw : name.Admits w.offset w.length) (hc : w.Contains offset length)
    (h : (attempt offset length).Refines x) :
    (a.call name w id attempt offset length).Refines x := by
  have hadmits : name.Admits offset length :=
    ⟨Nat.lt_of_le_of_lt hc.2 hw.1, Nat.le_trans hc.2 hw.2⟩
  intro s
  rw [Arena.call, if_pos ⟨hid, hc, hadmits⟩]
  exact h s

mutual

/-- A guarded run refines the plain one, by induction on the tree. Every part of the tree has to be
stored in the arena. -/
theorem run?_refines : ∀ (m : Matcher Leaf) (offset length : Nat),
    (∀ t ∈ m.subtrees, t.id < a.size) → name.Admits offset length →
      (m.run? a name offset length).Refines
        ((m.map (.ofLeaf name.components.toArray)).run offset length)
  | component _ leaf, offset, length, _, _ => .ofAttempt _
  | set id members inclusion, offset, length, hstored, hlen => by
    have hwhole : Window.Contains ⟨offset, length⟩ offset length := ⟨Nat.le_refl _, Nat.le_refl _⟩
    have hmembers : ∀ leaf ∈ members,
        (a.call name ⟨offset, length⟩ leaf.id (leafRun name leaf) offset length).Refines
          ((Answers.ofLeaf name.components.toArray leaf).run offset length) := by
      intro leaf hleaf
      have hmem : component leaf.id leaf ∈ (set id members inclusion).subtrees :=
        List.mem_cons_of_mem _ (List.mem_map_of_mem hleaf)
      exact call_refines (hstored _ hmem) hlen hwhole (.ofAttempt _)
    have hany := Guarded.Refines.any (t := Answers.ofLeaf name.components.toArray)
      (g := fun leaf : Answers => leaf.run offset length) hmembers
    intro s
    rw [run?, map, run]
    dsimp only
    by_cases hone : length ≠ 1
    · rw [if_pos hone, if_pos hone]
    · rw [if_neg hone, if_neg hone, hany s]
  | group id inner, offset, length, hstored, hlen => by
    have hinner : ∀ t ∈ inner.subtrees, t.id < a.size := by
      intro t ht
      exact hstored t (List.mem_cons_of_mem _ ht)
    have hwhole : Window.Contains ⟨offset, length⟩ offset length := ⟨Nat.le_refl _, Nat.le_refl _⟩
    have hcall : (a.call name ⟨offset, length⟩ inner.id (run? a name inner) offset length).Refines
        ((inner.map (.ofLeaf name.components.toArray)).run offset length) :=
      call_refines (hinner inner inner.self_mem_subtrees) hlen hwhole
        (run?_refines inner offset length hinner hlen)
    intro s
    rw [run?, map, run]
    dsimp only
    rw [hcall]
    cases (inner.map (.ofLeaf name.components.toArray)).run offset length (s.clear id) with
    | mk found s' =>
      cases found with
      | true =>
        dsimp only
        rw [Word.add?_of_lt hlen.1]
        rfl
      | false => rfl
  | repeated id inner bounds, offset, length, hstored, hlen => by
    have hinner : ∀ t ∈ inner.subtrees, t.id < a.size := by
      intro t ht
      exact hstored t (List.mem_cons_of_mem _ ht)
    have hcalls : ∀ o l, Window.Contains ⟨offset, length⟩ o l →
        (a.call name ⟨offset, length⟩ inner.id (run? a name inner) o l).Refines
          ((inner.map (.ofLeaf name.components.toArray)).run o l) := by
      intro o l hc
      have hadmits : name.Admits o l :=
        ⟨Nat.lt_of_le_of_lt hc.2 hlen.1, Nat.le_trans hc.2 hlen.2⟩
      exact call_refines (hinner inner inner.self_mem_subtrees) hlen hc
        (run?_refines inner o l hinner hadmits)
    rw [run?, map, run, isSet_map]
    exact Repetition.run?_refines (w := ⟨offset, length⟩) hlen.1 hcalls
  | list id items, offset, length, hstored, hlen => by
    have hitems : ∀ t ∈ itemSubtrees items, t.id < a.size := by
      intro t ht
      exact hstored t (List.mem_cons_of_mem _ ht)
    rw [run?, map, run]
    exact runItems?_refines items ⟨offset, length⟩ offset length hitems hlen
      ⟨Nat.le_refl _, Nat.le_refl _⟩

theorem runItems?_refines : ∀ (items : List (Matcher Leaf)) (w : Window) (offset length : Nat),
    (∀ t ∈ itemSubtrees items, t.id < a.size) → name.Admits w.offset w.length →
      w.Contains offset length →
      (runItems? a name w items offset length).Refines
        (runItems (mapItems (.ofLeaf name.components.toArray) items) offset length)
  | [], _, _, _, _, _, _ => fun _ => rfl
  | item :: items, w, offset, length, hstored, hw, hc => by
    obtain ⟨hitem, hitems⟩ := List.forall_mem_append.mp hstored
    rw [runItems?, mapItems, runItems]
    refine Guarded.Refines.longestFirst fun taken htaken => ?_
    obtain ⟨hfront, hbehind⟩ := Repetition.behind_contains hc htaken
    have hadmits : name.Admits offset taken :=
      ⟨Nat.lt_of_le_of_lt hfront.2 hw.1, Nat.le_trans hfront.2 hw.2⟩
    have hlt : offset + length < 2 ^ 64 := Nat.lt_of_le_of_lt hc.2 hw.1
    have hfirst := call_refines (hitem item item.self_mem_subtrees) hw hfront
      (run?_refines item offset taken hitem hadmits)
    have hothers := runItems?_refines items w (offset + taken) (length - taken) hitems hw hbehind
    refine hfirst.andThen fun s => ?_
    rw [Word.behind?_of_le htaken hlt]
    exact hothers s

end

end Matcher

namespace Arena

variable {a : Arena} {ts : List (Matcher Leaf)} {name : Name}

/-- Matches a node with guards. Numbers of no node and nodes that only capture match nothing, and
neither do runs that the check refuses. -/
def isMatchAt? (a : Arena) (id : NodeId) (name : Name) (offset length : Nat) : Guarded :=
  if name.Admits offset length then
    match a.nodes[id]? with
    | some ⟨_, .matcher m⟩ => m.run? a name offset length
    | _ => .ofAttempt .fail
  else .ofAttempt .fail

/-- Matches a node with guards, and collects what has been captured. The end of the matched run has to
be a number of 64 bits, and the run has to be a slice of the name. -/
def matchAt? (a : Arena) (id : NodeId) (name : Name) (offset length : Nat) :
    Option (Option Captures) := do
  let (found, slots) ← a.isMatchAt? id name offset length (.empty a.size)
  if found then
    let stop ← Word.add? offset length
    let result ← name.slice? offset stop
    return some ⟨result.components, a.registry.refs.map (slots.resolve name), false⟩
  else return none

theorem WellFormed.isMatchAt?_refines (h : a.WellFormed) (hname : name.length < 2 ^ 64) (id : NodeId)
    (offset length : Nat) :
    (a.isMatchAt? id name offset length).Refines (a.isMatchAt id name offset length) := by
  have hadmits : name.Admits offset length ↔ offset + length ≤ name.length := by
    unfold Name.Admits
    omega
  unfold isMatchAt? isMatchAt
  by_cases hle : offset + length ≤ name.length
  · rw [if_pos hle, if_pos (hadmits.mpr hle)]
    cases hnode : a.nodes[id]? with
    | none => exact .ofAttempt .fail
    | some node =>
      obtain ⟨text, content⟩ := node
      cases content with
      | reserved => exact .ofAttempt .fail
      | pseudo => exact .ofAttempt .fail
      | matcher m =>
        obtain ⟨-, hparts, -⟩ := h.stored id text m hnode
        have hstored : ∀ t ∈ m.subtrees, t.id < a.size := by
          intro t ht
          obtain ⟨text', hn⟩ := hparts t ht
          exact (Array.getElem?_eq_some_iff.mp hn).1
        exact m.run?_refines offset length hstored (hadmits.mpr hle)
  · rw [if_neg hle, if_neg (mt hadmits.mp hle)]
    exact .ofAttempt .fail

theorem matchAt_of_size_le {id : NodeId} (hid : a.size ≤ id) (name : Name) (offset length : Nat) :
    a.matchAt id name offset length = none := by
  have hnone : a.nodes[id]? = none := Array.getElem?_eq_none hid
  have hfail : a.isMatchAt id name offset length = .fail := by
    unfold isMatchAt
    rw [hnone]
    split <;> rfl
  unfold matchAt
  rw [hfail]
  rfl

theorem matchAt_of_length_lt {offset length : Nat} (h : name.length < offset + length) (a : Arena)
    (id : NodeId) : a.matchAt id name offset length = none := by
  have hfail : a.isMatchAt id name offset length = .fail := if_neg (Nat.not_le_of_lt h)
  unfold matchAt
  rw [hfail]
  rfl

/-- What has matched is the slice of the name that was asked for. -/
theorem slice?_of_matchAt {id : NodeId} {offset length : Nat} {c : Captures}
    (h : a.matchAt id name offset length = some c) :
    name.slice? offset (offset + length) = some ⟨c.result⟩ := by
  obtain ⟨hle, s, -, hc⟩ := matchAt_eq_some h
  unfold Name.slice?
  rw [if_pos ⟨Nat.le_add_right _ _, hle⟩, Nat.add_sub_cancel_left, hc]

/-- In an arena that any calls lead to, nodes that do not exist and runs that do not lie within the name
match nothing. No run with guards breaks off, so that all numbers stay within 64 bits, and every
nested call is for a node of the arena and for components of its caller's window, and passes the
check. The result is that without guards, and what has matched is the slice that was asked for. -/
theorem Built.matchAt_guarded (h : a.Built ts) (hname : name.length < 2 ^ 64) (id : NodeId)
    (offset length : Nat) :
    (a.size ≤ id ∨ name.length < offset + length → a.matchAt id name offset length = none) ∧
      a.matchAt? id name offset length = some (a.matchAt id name offset length) ∧
      ∀ c, a.matchAt id name offset length = some c →
        name.slice? offset (offset + length) = some ⟨c.result⟩ ∧ c.result.length = length := by
  refine ⟨fun hnone => ?_, ?_, fun c hc => ⟨slice?_of_matchAt hc, ?_⟩⟩
  · obtain hid | hlt := hnone
    · exact matchAt_of_size_le hid name offset length
    · exact matchAt_of_length_lt hlt a id
  · have hrun := h.wellFormed.isMatchAt?_refines hname id offset length (.empty a.size)
    cases hmatch : a.matchAt id name offset length with
    | none =>
      have hfound : (a.isMatchAt id name offset length (.empty a.size)).1 = false := by
        rw [← matchAt_isSome, hmatch]
        rfl
      unfold matchAt?
      rw [hrun]
      simp [hfound]
    | some c =>
      obtain ⟨hle, s, hs, hc⟩ := matchAt_eq_some hmatch
      have hadd : Word.add? offset length = some (offset + length) :=
        Word.add?_of_lt (Nat.lt_of_le_of_lt hle hname)
      have hslice := slice?_of_matchAt hmatch
      unfold matchAt?
      rw [hrun, hs]
      simp [hadd, hslice, hc]
  · obtain ⟨hle, s, -, hresult⟩ := matchAt_eq_some hc
    rw [hresult]
    exact Name.length_subName hle

/-- From the last number of 64 bits on, three components end behind the second one if the sum wraps
around. They match nothing all the same. -/
theorem Built.matchAt_guarded_wrapped :
    let name : Name := ⟨[⟨[97]⟩, ⟨[98]⟩]⟩
    ∃ m b c, (Call.patternList "(<>*)<>".toList).build (.empty false) = .ok m b ∧
      name.length < 2 ^ 64 ∧ b.matchAt m.id name (2 ^ 64 - 1) 3 = none ∧
      b.matchAt? m.id name 0 2 = some (some c) ∧ c.result = name.components ∧
      c.get? 1 = some [⟨[97]⟩] := by
  intro name
  obtain ⟨m, b, c, hb, hc, hresult, hgroup⟩ : ∃ m b c,
      (Call.patternList "(<>*)<>".toList).build (.empty false) = .ok m b ∧
      b.matchAt m.id name 0 2 = some c ∧ c.result = name.components ∧
      c.get? 1 = some [⟨[97]⟩] :=
    ⟨_, _, _, by cbv, by cbv, by cbv, by cbv⟩
  have hbuilt : b.Built [m] := .success _ (.empty false) hb
  have hname : name.length < 2 ^ 64 := by decide
  obtain ⟨houtside, -⟩ := hbuilt.matchAt_guarded hname m.id (2 ^ 64 - 1) 3
  obtain ⟨-, hguarded, -⟩ := hbuilt.matchAt_guarded hname m.id 0 2
  refine ⟨m, b, c, hb, hname, houtside (.inr (by decide)), ?_, hresult, hgroup⟩
  rw [hguarded, hc]

end Arena

end NamePattern
