import NamePattern.Proofs.Forest
import NamePattern.Proofs.Locality

/-! The stack of repetitions in progress: what one turn of the loop does to it, how high it gets, and
that the loop ends where a plain recursion does. -/
namespace NamePattern

namespace Repetition

/-- What a turn of the loop comes to: a result, or the stack of the next turn. -/
inductive Turn where
  | ended (found : Bool)
  | goesOn (stack : List Frame)

variable (attempt : Nat → Nat → Attempt) (bounds : Bounds) (single : Bool)

/-- One turn of the loop. It tries the next length of the uppermost repetition, or gives that
repetition up. -/
def turn : List Frame → Slots → Turn × Slots
  | [], s => (.ended false, s)
  | ⟨_, _, _, 0⟩ :: below, s => (.goesOn below, s)
  | ⟨made, offset, length, t + 1⟩ :: below, s =>
    if made < bounds.min ∨ 0 < t then
      match attempt offset t s with
      | (true, s) =>
        match enter bounds single (made + 1) (⟨made, offset, length, t⟩ :: below) (offset + t)
            (length - t) with
        | none => (.ended true, s)
        | some stack => (.goesOn stack, s)
      | (false, s) => (.goesOn (⟨made, offset, length, t⟩ :: below), s)
    else (.goesOn below, s)

/-- The loop ends with a result after some number of turns, and there are never more than `limit`
repetitions on its stack. -/
inductive Ends (limit : Nat) : List Frame → Slots → Bool → Slots → Prop
  | last {stack : List Frame} {s s' : Slots} {found : Bool} (hlen : stack.length ≤ limit)
      (hturn : turn attempt bounds single stack s = (.ended found, s')) :
      Ends limit stack s found s'
  | next {stack stack' : List Frame} {s s' s'' : Slots} {found : Bool}
      (hlen : stack.length ≤ limit)
      (hturn : turn attempt bounds single stack s = (.goesOn stack', s'))
      (hrest : Ends limit stack' s' found s'') : Ends limit stack s found s''

/-- Every repetition on a stack knows how many are below it. It has something left to take, and as
much less than `length` as there were repetitions beyond `min`. -/
def Stacked (length : Nat) : List Frame → Prop
  | [] => True
  | f :: below => f.made = below.length ∧ 0 < f.length ∧
      f.made - bounds.min + f.length ≤ length ∧ Stacked length below

variable {attempt bounds single} {length : Nat} {stack stack' : List Frame} {s s' : Slots}

theorem Stacked.length_le (h : Stacked bounds length stack) :
    stack.length ≤ bounds.min + length := by
  cases stack with
  | nil => exact Nat.zero_le _
  | cons f below =>
    obtain ⟨hmade, hpos, hleft, -⟩ := h
    rw [List.length_cons]
    omega

/-- A repetition that is entered finds its place on the stack. -/
theorem Stacked.enter {made offset rest : Nat} (h : Stacked bounds length stack)
    (hmade : made = stack.length) (hrest : rest ≠ 0 → made - bounds.min + rest ≤ length)
    (henter : enter bounds single made stack offset rest = some stack') :
    Stacked bounds length stack' := by
  unfold Repetition.enter at henter
  by_cases hzero : rest = 0
  · rw [if_pos hzero] at henter
    by_cases hmin : bounds.min ≤ made
    · simp [hmin] at henter
    · rw [if_neg hmin] at henter
      exact Option.some.inj henter ▸ h
  · rw [if_neg hzero] at henter
    by_cases hmax : made < bounds.max
    · rw [if_pos hmax] at henter
      have hpos : 0 < rest := Nat.pos_of_ne_zero hzero
      exact Option.some.inj henter ▸ ⟨hmade, hpos, hrest hzero, h⟩
    · rw [if_neg hmax] at henter
      exact Option.some.inj henter ▸ h

/-- A turn that goes on gives the uppermost repetition up, or uses one of its lengths. After that
length it may enter the repetition that follows. -/
theorem turn_cases (hturn : turn attempt bounds single stack s = (.goesOn stack', s')) :
    ∃ made offset left untried below, stack = ⟨made, offset, left, untried⟩ :: below ∧
      (stack' = below ∨ ∃ t, untried = t + 1 ∧ (stack' = ⟨made, offset, left, t⟩ :: below ∨
        (made < bounds.min ∨ 0 < t) ∧ enter bounds single (made + 1)
          (⟨made, offset, left, t⟩ :: below) (offset + t) (left - t) = some stack')) := by
  match stack with
  | [] => simp [turn] at hturn
  | ⟨made, offset, left, 0⟩ :: below =>
    cases hturn
    exact ⟨made, offset, left, 0, stack', rfl, .inl rfl⟩
  | ⟨made, offset, left, t + 1⟩ :: below =>
    refine ⟨made, offset, left, t + 1, below, rfl, ?_⟩
    rw [turn] at hturn
    by_cases ht : made < bounds.min ∨ 0 < t
    · rw [if_pos ht] at hturn
      split at hturn
      · split at hturn
        · cases hturn
        · next henter =>
          cases hturn
          exact .inr ⟨t, rfl, .inr ⟨ht, henter⟩⟩
      · cases hturn
        exact .inr ⟨t, rfl, .inl rfl⟩
    · rw [if_neg ht] at hturn
      cases hturn
      exact .inl rfl

/-- One turn keeps the repetitions in their places. -/
theorem Stacked.turn (h : Stacked bounds length stack)
    (hturn : turn attempt bounds single stack s = (.goesOn stack', s')) :
    Stacked bounds length stack' := by
  obtain ⟨made, offset, left, untried, below, rfl, hcases⟩ := turn_cases hturn
  have htop : ∀ t, Stacked bounds length (⟨made, offset, left, t⟩ :: below) := fun _ => h
  obtain ⟨hmade, hpos, hleft, hbelow⟩ := h
  obtain rfl | ⟨t, rfl, rfl | ⟨ht, henter⟩⟩ := hcases
  · exact hbelow
  · exact htop t
  · have hlevel : made + 1 = below.length + 1 := congrArg (· + 1) hmade
    -- Beyond `min` a repetition takes something, so the one that follows has less left to take.
    have hnext : left - t ≠ 0 → made + 1 - bounds.min + (left - t) ≤ length := by
      simp only at hleft
      omega
    exact (htop t).enter hlevel hnext henter

/-- A turn that goes on leaves less to do. -/
theorem cost_turn (hturn : turn attempt bounds single stack s = (.goesOn stack', s')) :
    cost bounds.min stack' < cost bounds.min stack := by
  obtain ⟨made, offset, left, untried, below, rfl, hcases⟩ := turn_cases hturn
  obtain rfl | ⟨t, rfl, rfl | ⟨ht, henter⟩⟩ := hcases
  · rw [cost]
    omega
  · have hweight : 0 < weight (bounds.min - made + left) := weight_pos _
    simp only [cost, Nat.succ_mul]
    omega
  · exact cost_enter ht henter

theorem loop_eq_turn (stack : List Frame) (s : Slots) : loop attempt bounds single stack s =
    match turn attempt bounds single stack s with
    | (.ended found, s') => (found, s')
    | (.goesOn stack', s') => loop attempt bounds single stack' s' := by
  match stack with
  | [] => rw [loop, turn]
  | ⟨_, _, _, 0⟩ :: below => rw [loop, turn]
  | ⟨made, offset, left, t + 1⟩ :: below =>
    rw [loop, turn]
    by_cases ht : made < bounds.min ∨ 0 < t
    · rw [dif_pos ht, if_pos ht]
      cases hattempt : attempt offset t s with
      | mk found s' =>
        cases found with
        | false => rfl
        | true =>
          simp only
          split <;> next henter => simp only [henter]
    · rw [dif_neg ht, if_neg ht]

/-- The loop ends, by induction on what is left to do, and the stack stays below a limit. -/
theorem Stacked.ends (h : Stacked bounds length stack) (s : Slots) :
    Ends attempt bounds single (bounds.min + length) stack s
      (loop attempt bounds single stack s).1 (loop attempt bounds single stack s).2 := by
  induction hn : cost bounds.min stack using Nat.strongRecOn generalizing stack s with
  | ind n ih =>
    rw [loop_eq_turn]
    cases hturn : Repetition.turn attempt bounds single stack s with
    | mk result s' =>
      cases result with
      | ended found => exact .last h.length_le hturn
      | goesOn stack' =>
        have hless : cost bounds.min stack' < n := hn ▸ cost_turn hturn
        exact .next h.length_le hturn (ih _ hless (h.turn hturn) s' rfl)

/-- A run of repetitions enters the first one, unless nothing is left to take and none is owed. -/
theorem exists_first (attempt : Nat → Nat → Attempt) (single : Bool)
    (h : ¬ (bounds.min = 0 ∧ length = 0)) (offset : Nat) :
    ∃ stack, enter bounds single 0 [] offset length = some stack ∧ Stacked bounds length stack ∧
      run attempt bounds single offset length = loop attempt bounds single stack := by
  cases henter : enter bounds single 0 [] offset length with
  | none =>
    unfold enter at henter
    split at henter
    · next hl =>
      have hmin : ¬ bounds.min ≤ 0 := fun hmin => h ⟨Nat.le_zero.mp hmin, hl⟩
      rw [if_neg hmin] at henter
      cases henter
    · split at henter <;> cases henter
  | some stack =>
    have hempty : Stacked bounds length [] := trivial
    have hall : length ≠ 0 → 0 - bounds.min + length ≤ length := fun _ => by omega
    refine ⟨stack, rfl, hempty.enter rfl hall henter, ?_⟩
    unfold run
    rw [if_neg h]
    simp only [henter]

/-- Repetitions of attempts that are the same within a limit are the same there. -/
theorem recur_congr {attempt' : Nat → Nat → Attempt} {limit : Nat}
    (h : ∀ o t, o + t ≤ limit → attempt o t = attempt' o t) {offset : Nat}
    (hle : offset + length ≤ limit) :
    recur attempt bounds 0 offset length = recur attempt' bounds 0 offset length := by
  have hsame : ∀ o t, o + t ≤ limit → Attempt.Tracks Eq (attempt (0 + o) t) (attempt' o t) := by
    intro o t ht s s' hs
    rw [Nat.zero_add, h o t ht, hs]
    exact ⟨rfl, rfl⟩
  have htracks := recur_tracks hsame bounds 0 hle
  rw [Nat.zero_add] at htracks
  funext s
  obtain ⟨hfound, hslots⟩ := htracks s s rfl
  exact Prod.ext hfound hslots

end Repetition

theorem Matcher.isSet_map {α β : Type} (f : α → β) (m : Matcher α) : (m.map f).isSet = m.isSet := by
  cases m <;> rfl

namespace Arena

open Repetition (recur enter Ends)

variable {a : Arena} {ts : List (Matcher Leaf)} {inner : NodeId} {text : List Char}
  {m : Matcher Leaf} {name : Name} {offset length : Nat}

/-- A set takes one component or fails. -/
theorem isMatchAt_of_isSet (hnode : a.nodes[inner]? = some ⟨text, .matcher m⟩)
    (hset : m.isSet = true) (name : Name) (o t : Nat) (ht : t ≠ 1) :
    a.isMatchAt inner name o t = .fail := by
  by_cases hle : o + t ≤ name.length
  · have hmap : (m.answering name).isSet = true := (Matcher.isSet_map _ m).trans hset
    rw [isMatchAt_of_stored hnode hle]
    exact Matcher.run_eq_fail_of_isSet hmap o t ht
  · unfold isMatchAt
    rw [if_neg hle]

/-- A repetition in an arena repeats what its inner node matches. -/
theorem WellFormed.isMatchAt_repeated {id : NodeId} {bounds : Bounds} (h : a.WellFormed)
    (hnode : a.nodes[id]? = some ⟨text, .matcher (.repeated id m bounds)⟩)
    (hle : offset + length ≤ name.length) :
    a.isMatchAt id name offset length =
      recur (a.isMatchAt m.id name) bounds 0 offset length := by
  obtain ⟨-, hparts, -⟩ := h.stored id text _ hnode
  have hmem : m ∈ (Matcher.repeated id m bounds).subtrees :=
    List.mem_cons_of_mem _ m.self_mem_subtrees
  obtain ⟨text', hinner⟩ := hparts m hmem
  rw [isMatchAt_of_stored hnode hle, Matcher.map, Matcher.run_repeated]
  exact Repetition.recur_congr (fun o t ht => (isMatchAt_of_stored hinner ht).symm) hle

/-- Whatever node is repeated, the loop over a stack succeeds at once if nothing is left to take and
nothing is owed. Otherwise it ends as the plain recursion does, with the same slots, and its stack
never holds more repetitions than `min` and one for each component. This is how the repetitions of
an arena match. -/
theorem Built.repetition_recurs (h : a.Built ts)
    (hinner : a.nodes[inner]? = some ⟨text, .matcher m⟩) (bounds : Bounds)
    (hle : offset + length ≤ name.length) (s : Slots) :
    let attempt := a.isMatchAt inner name
    let result := recur attempt bounds 0 offset length s
    (bounds.min = 0 ∧ length = 0 → Repetition.run attempt bounds m.isSet offset length s = (true, s)) ∧
      (¬ (bounds.min = 0 ∧ length = 0) → Repetition.run attempt bounds m.isSet offset length s = result ∧
        ∃ stack, enter bounds m.isSet 0 [] offset length = some stack ∧
          Ends attempt bounds m.isSet (bounds.min + length) stack s result.1 result.2) ∧
      ∀ id text', a.nodes[id]? = some ⟨text', .matcher (.repeated id m bounds)⟩ →
        a.isMatchAt id name offset length s = Repetition.run attempt bounds m.isSet offset length s := by
  intro attempt result
  have hsingle : m.isSet = true → ∀ o t, t ≠ 1 → attempt o t = .fail :=
    fun hset => isMatchAt_of_isSet hinner hset name
  have hrun : Repetition.run attempt bounds m.isSet offset length = recur attempt bounds 0 offset length :=
    Repetition.run_eq_recur hsingle offset length
  refine ⟨fun hnone => ?_, fun hsome => ⟨congrFun hrun s, ?_⟩, fun id text' hnode => ?_⟩
  · unfold Repetition.run
    rw [if_pos hnone]
    rfl
  · obtain ⟨stack, henter, hstacked, hloop⟩ :=
      Repetition.exists_first attempt m.isSet hsome offset
    have hresult : result = Repetition.loop attempt bounds m.isSet stack s := by
      rw [← hloop, hrun]
    refine ⟨stack, henter, ?_⟩
    rw [hresult]
    exact hstacked.ends s
  · have hid : m.id = inner := (h.wellFormed.stored inner text m hinner).1
    rw [h.wellFormed.isMatchAt_repeated hnode hle, hid, hrun]

/-- The first of the two groups in `(<>?){2}` has to leave the component to the second. -/
theorem Built.repetition_recurs_twice :
    let name : Name := ⟨[⟨[97]⟩]⟩
    let bounds : Bounds := ⟨2, 2, Nat.le_refl 2⟩
    let slots : Slots := (Slots.empty 6).set 0 (.span 0 1)
    ∃ m b, (Call.repeatAt ['(', '<', '>', '?', ')', '{', '2', '}'] 5).build (.empty false) =
        .ok m b ∧ b.isMatchAt m.id name 0 1 (.empty 6) = (true, slots) ∧
      Ends (b.isMatchAt 0 name) bounds false 3 [⟨0, 0, 1, 2⟩] (.empty 6) true slots := by
  intro name bounds slots
  let once : Matcher Leaf := .repeated 3 (.set 2 [⟨1, none, []⟩] true) ⟨0, 1, by decide⟩
  let g : Matcher Leaf := .group 0 (.list 4 [once])
  obtain ⟨b, hb, hinner, hnode, hmatch⟩ : ∃ b,
      (Call.repeatAt ['(', '<', '>', '?', ')', '{', '2', '}'] 5).build (.empty false) =
        .ok (.repeated 5 g bounds) b ∧
      b.nodes[0]? = some ⟨['(', '<', '>', '?', ')'], .matcher g⟩ ∧
      b.nodes[5]? = some ⟨['(', '<', '>', '?', ')', '{', '2', '}'],
        .matcher (.repeated 5 g bounds)⟩ ∧
      b.isMatchAt 5 name 0 1 (.empty 6) = (true, slots) :=
    ⟨_, by cbv, by cbv, by cbv, by cbv⟩
  have hbuilt : b.Built [.repeated 5 g bounds] := .success _ (.empty false) hb
  obtain ⟨-, hloop, hrepeated⟩ :=
    hbuilt.repetition_recurs hinner bounds (show 0 + 1 ≤ name.length by decide) (.empty 6)
  obtain ⟨hrecur, stack, henter, hends⟩ := hloop (by decide)
  rw [← hrecur, ← hrepeated 5 _ hnode, hmatch] at hends
  cases henter
  exact ⟨_, b, hb, hmatch, hends⟩

end Arena

end NamePattern
