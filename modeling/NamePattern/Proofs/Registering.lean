import NamePattern.Proofs.Built
import NamePattern.Proofs.Groups

/-! How many groups a builder leaves in the registry, whether it succeeds or not. -/
namespace NamePattern

namespace Pattern

instance decidableIsOk (bounds : Except CompileError Bounds) : Decidable (∃ b, bounds = .ok b) :=
  match bounds with
  | .ok b => isTrue ⟨b, rfl⟩
  | .error _ => isFalse fun h => nomatch h

instance decidableSound : (p : Pattern) → Decidable p.Sound
  | done => isTrue trivial
  | fault _ => isFalse id
  | group _ inner rest =>
    have := decidableSound inner
    have := decidableSound rest
    inferInstanceAs (Decidable (inner.Sound ∧ rest.Sound))
  | repeatGroup _ _ inner bounds rest =>
    have := decidableSound inner
    have := decidableSound rest
    inferInstanceAs (Decidable (inner.Sound ∧ (∃ b, bounds = .ok b) ∧ rest.Sound))
  | repeatSet _ atom bounds rest =>
    have := decidableSound rest
    inferInstanceAs (Decidable (atom.fault = none ∧ (∃ b, bounds = .ok b) ∧ rest.Sound))

end Pattern

namespace Pattern

/-- The groups that are registered for a pattern. Those before a fault count, but a group with a
fault inside takes back its own number and all numbers inside it. -/
def registered : Pattern → Nat
  | done => 0
  | fault _ => 0
  | group _ inner rest =>
    if inner.Sound then inner.groups + 1 + rest.registered else 0
  | repeatGroup _ _ inner bounds rest =>
    if inner.Sound then
      inner.groups + 1 + if ∃ b, bounds = .ok b then rest.registered else 0
    else 0
  | repeatSet _ atom bounds rest =>
    atom.groups + if atom.fault = none ∧ ∃ b, bounds = .ok b then rest.registered else 0

/-- All groups of a pattern without faults are registered. -/
theorem registered_of_sound {p : Pattern} (h : p.Sound) : p.registered = p.groups := by
  induction p with
  | done => rfl
  | fault e => exact h.elim
  | group text inner rest _ hrest =>
    rw [registered, if_pos h.1, hrest h.2, groups, Nat.add_comm 1]
  | repeatGroup text atom inner bounds rest _ hrest =>
    rw [registered, if_pos h.1, if_pos h.2.1, hrest h.2.2, groups, Nat.add_comm 1]
  | repeatSet text atom bounds rest hrest =>
    rw [registered, if_pos ⟨h.1, h.2.1⟩, hrest h.2.2, groups]

end Pattern

/-- What a result leaves the arena as. -/
def Builder.final {α : Type} (x : Builder α) (a : Arena) : Arena :=
  match x a with
  | .ok _ b => b
  | .error _ b => b

namespace Arena

/-- Some new nodes have been registered, in their order. -/
structure Registers (a b : Arena) (ids : List NodeId) : Prop where
  size_le : a.size ≤ b.size
  registry : b.registry.refs = a.registry.refs ++ ids
  fresh : ∀ id ∈ ids, a.size ≤ id ∧ id < b.size

variable {a b c : Arena} {ids ids' : List NodeId}

protected theorem Registers.refl (a : Arena) : a.Registers a [] where
  size_le := Nat.le_refl _
  registry := (List.append_nil _).symm
  fresh := by simp

protected theorem Registers.trans (hab : a.Registers b ids) (hbc : b.Registers c ids') :
    a.Registers c (ids ++ ids') where
  size_le := Nat.le_trans hab.size_le hbc.size_le
  registry := by rw [hbc.registry, hab.registry, List.append_assoc]
  fresh id hid := by
    obtain hid | hid := List.mem_append.mp hid
    · obtain ⟨hle, hlt⟩ := hab.fresh id hid
      exact ⟨hle, Nat.lt_of_lt_of_le hlt hbc.size_le⟩
    · obtain ⟨hle, hlt⟩ := hbc.fresh id hid
      exact ⟨Nat.le_trans hab.size_le hle, hlt⟩

theorem Registers.push (a : Arena) (text : List Char) (content : Content) :
    a.Registers (a.push text content) [] where
  size_le := by simp
  registry := (List.append_nil _).symm
  fresh := by simp

theorem Registers.enroll (a : Arena) (text : List Char) (content : Content) :
    a.Registers ((a.push text content).enroll a.size) [a.size] where
  size_le := by simp
  registry := rfl
  fresh := by simp

end Arena

namespace Builder

variable {α β : Type} {x : Builder α} {f : α → Builder β} {a b : Arena} {n m : Nat}

/-- A builder registers this many groups, whether it succeeds or not. -/
def Registers (x : Builder α) (n : Nat) : Prop :=
  ∀ a : Arena, ∃ ids : List NodeId, a.Registers (x.final a) ids ∧ ids.length = n

/-- A builder that succeeds nowhere. -/
def Fails (x : Builder α) : Prop := ∀ a, ∃ e b, x a = .error e b

theorem final_of_ok {v : α} (h : x a = .ok v b) : x.final a = b := by
  unfold final
  rw [h]

theorem final_of_error {e : CompileError} (h : x a = .error e b) : x.final a = b := by
  unfold final
  rw [h]

theorem registers_zero (h : ∀ a : Arena, a.Registers (x.final a) []) : x.Registers 0 :=
  fun a => ⟨[], h a, rfl⟩

theorem Registers.pure (v : α) : Registers (pure v) 0 :=
  registers_zero fun a => .refl a

theorem Registers.throw (e : CompileError) : Registers (throw e : Builder α) 0 :=
  registers_zero fun a => .refl a

theorem Registers.allocMatcher (text : List Char) (m : NodeId → Matcher Leaf) :
    Registers (allocMatcher text m) 0 :=
  registers_zero fun a => .push a ..

/-- Where the first of two steps succeeds, both register groups. -/
theorem Registers.bind (hx : x.Registers n) (htotal : x.Total) (hf : ∀ v, (f v).Registers m) :
    (x >>= f).Registers (n + m) := by
  intro a
  obtain ⟨v, b, hv⟩ := htotal a
  obtain ⟨ids, hids, hn⟩ := hx a
  obtain ⟨ids', hids', hm⟩ := hf v b
  have hfinal : (x >>= f).final a = (f v).final b := by
    unfold final
    rw [bind_of_ok hv]
  rw [final_of_ok hv] at hids
  refine ⟨ids ++ ids', ?_, by rw [List.length_append, hn, hm]⟩
  rw [hfinal]
  exact hids.trans hids'

/-- A failed step is the last one. -/
theorem Registers.bind_fails (hx : x.Registers n) (hfails : x.Fails) : (x >>= f).Registers n := by
  intro a
  obtain ⟨e, b, he⟩ := hfails a
  have hfinal : (x >>= f).final a = x.final a := by
    rw [final_of_error he, final_of_error (bind_of_error he)]
  rw [hfinal]
  exact hx a

/-- A step that registers nothing may follow one that succeeds or fails. -/
theorem Registers.bind_zero (hx : x.Registers n) (hf : ∀ v, (f v).Registers 0) :
    (x >>= f).Registers n := by
  intro a
  obtain ⟨ids, hids, hn⟩ := hx a
  cases hxa : x a with
  | error e b =>
    rw [final_of_error (bind_of_error hxa), ← final_of_error hxa]
    exact ⟨ids, hids, hn⟩
  | ok v b =>
    obtain ⟨none, hnone, hlen⟩ := hf v b
    have hfinal : (x >>= f).final a = (f v).final b := by
      unfold final
      rw [bind_of_ok hxa]
    rw [List.eq_nil_of_length_eq_zero hlen] at hnone
    rw [final_of_ok hxa] at hids
    have hboth := hids.trans hnone
    rw [List.append_nil] at hboth
    rw [hfinal]
    exact ⟨ids, hboth, hn⟩

theorem pseudos_registers (n : Nat) : (pseudos n).Registers n := by
  induction n with
  | zero => exact .pure []
  | succ n ih =>
    intro a
    have hstep : (pseudos (n + 1)).final a =
        (pseudos n >>= fun ids => pure (a.size :: ids)).final ((a.push [] .pseudo).enroll a.size) :=
      rfl
    obtain ⟨ids, hids, hlen⟩ := ih.bind_zero (fun ids => .pure (a.size :: ids))
      ((a.push [] .pseudo).enroll a.size)
    refine ⟨a.size :: ids, ?_, by rw [List.length_cons, hlen]⟩
    rw [hstep]
    exact (Arena.Registers.enroll a [] .pseudo).trans hids

theorem member_registers (m : Member) : (member m).Registers m.groups :=
  (pseudos_registers m.groups).bind_zero fun _ => registers_zero fun a => .push a ..

theorem members_registers (ms : List Member) :
    (members ms).Registers (ms.foldr (fun m n => m.groups + n) 0) := by
  induction ms with
  | nil => exact .pure []
  | cons m ms ih =>
    rw [List.foldr_cons]
    exact (member_registers m).bind (member_total m) fun _ => ih.bind_zero fun _ => .pure _

theorem memberSet_registers (s : MemberSet) : (memberSet s).Registers s.groups := by
  refine (members_registers s.members).bind_zero fun leaves => ?_
  cases s.fault with
  | none => exact .allocMatcher _ _
  | some f => exact .throw f.error

theorem repetition_registers {atom : Builder (Matcher Leaf)} (h : atom.Registers n)
    (text : List Char) (bounds : Except CompileError Bounds) :
    (repetition text atom bounds).Registers n := by
  refine h.bind_zero fun m => ?_
  cases bounds with
  | error e => exact .throw e
  | ok b => exact .allocMatcher _ _

theorem list_registers {items : Builder (List (Matcher Leaf))} (h : items.Registers n)
    (text : List Char) :
    Registers (do let ms ← items; allocMatcher text fun id => .list id ms) n :=
  h.bind_zero fun _ => .allocMatcher _ _

/-- A group that succeeds is registered before those inside it. -/
theorem group_registers {inner : Builder (Matcher Leaf)} (h : inner.Registers n)
    (htotal : inner.Total) (text : List Char) : (group text inner).Registers (n + 1) := by
  intro a
  let c := (a.push text .reserved).enroll a.size
  obtain ⟨m, b, hm⟩ := htotal c
  obtain ⟨ids, hids, hlen⟩ := h c
  rw [final_of_ok hm] at hids
  refine ⟨a.size :: ids, ?_, by rw [List.length_cons, hlen]⟩
  rw [final_of_ok (group_of_ok text hm)]
  have hboth := (Arena.Registers.enroll a text .reserved).trans hids
  exact ⟨by simpa using hboth.size_le, hboth.registry, by simpa using hboth.fresh⟩

/-- A group that fails takes back all that has been registered for it. -/
theorem group_registers_zero {inner : Builder (Matcher Leaf)} (h : inner.Registers n)
    (hfails : inner.Fails) (text : List Char) : (group text inner).Registers 0 := by
  refine registers_zero fun a => ?_
  let c := (a.push text .reserved).enroll a.size
  obtain ⟨e, b, he⟩ := hfails c
  obtain ⟨ids, hids, -⟩ := h c
  rw [final_of_error he] at hids
  rw [final_of_error (group_of_error text he)]
  have hboth := (Arena.Registers.enroll a text .reserved).trans hids
  refine ⟨hboth.size_le, ?_, by simp⟩
  rw [Registry.take, hboth.registry, Registry.size, List.take_left, List.append_nil]

theorem items_fails {p : Pattern} (h : ¬ p.Sound) : (items p).Fails := by
  intro a
  cases hp : items p a with
  | ok ms b => exact absurd ((items_adds p).ok hp).1.sound h
  | error e b => exact ⟨e, b, rfl⟩

theorem Fails.bind (h : x.Fails) : (x >>= f).Fails := by
  intro a
  obtain ⟨e, b, he⟩ := h a
  exact ⟨e, b, bind_of_error he⟩

theorem group_fails {inner : Builder (Matcher Leaf)} (h : inner.Fails) (text : List Char) :
    (group text inner).Fails := by
  intro a
  obtain ⟨e, b, he⟩ := h ((a.push text .reserved).enroll a.size)
  exact ⟨e, _, group_of_error text he⟩

theorem repetition_fails (atom : Builder (Matcher Leaf)) (text : List Char) (e : CompileError) :
    (repetition text atom (.error e)).Fails := by
  intro a
  cases hm : atom a with
  | error e' b => exact ⟨e', b, bind_of_error hm⟩
  | ok m b => exact ⟨e, b, (bind_of_ok hm).trans rfl⟩

theorem memberSet_fails {s : MemberSet} (h : s.fault ≠ none) : (memberSet s).Fails := by
  intro a
  cases hs : memberSet s a with
  | ok m b => exact absurd ((memberSet_adds s).ok hs).1.1 h
  | error e b => exact ⟨e, b, rfl⟩

/-- An item before others. -/
theorem cons_registers {item : Builder (Matcher Leaf)} {items : Builder (List (Matcher Leaf))}
    (hitem : item.Registers n) (htotal : item.Total) (hitems : items.Registers m) :
    Registers (do let m ← item; let ms ← items; return m :: ms) (n + m) :=
  hitem.bind htotal fun _ => hitems.bind_zero fun _ => .pure _

theorem group_items_registers {inner : Pattern} (hinner : (items inner).Registers inner.registered)
    (hsound : inner.Sound) (text inside : List Char) :
    (group text do
      let ms ← items inner
      allocMatcher inside fun id => .list id ms).Registers (inner.groups + 1) := by
  rw [Pattern.registered_of_sound hsound] at hinner
  exact group_registers (list_registers hinner inside) (list_total (items_total hsound) inside) text

theorem group_items_registers_zero {inner : Pattern}
    (hinner : (items inner).Registers inner.registered) (hfault : ¬ inner.Sound)
    (text inside : List Char) :
    (group text do
      let ms ← items inner
      allocMatcher inside fun id => .list id ms).Registers 0 :=
  group_registers_zero (list_registers hinner inside) (items_fails hfault).bind text

theorem items_registers (p : Pattern) : (items p).Registers p.registered := by
  induction p with
  | done => exact .pure []
  | fault f => exact .throw f.error
  | group text inner rest hinner hrest =>
    rw [Pattern.registered]
    by_cases hsound : inner.Sound
    · rw [if_pos hsound]
      exact cons_registers (group_items_registers hinner hsound _ _)
        (group_total (list_total (items_total hsound) _) text) hrest
    · rw [if_neg hsound]
      exact (group_items_registers_zero hinner hsound _ _).bind_fails
        (group_fails (items_fails hsound).bind text)
  | repeatGroup text atom inner bounds rest hinner hrest =>
    rw [Pattern.registered]
    by_cases hsound : inner.Sound
    · rw [if_pos hsound]
      have hitem := repetition_registers (group_items_registers hinner hsound atom
        atom.tail.dropLast) text bounds
      cases bounds with
      | ok b =>
        rw [if_pos ⟨b, rfl⟩]
        exact cons_registers hitem
          (repetition_total (group_total (list_total (items_total hsound) _) atom) text b) hrest
      | error e =>
        rw [if_neg (by simp)]
        exact hitem.bind_fails (repetition_fails _ text e)
    · rw [if_neg hsound]
      have hitem := repetition_registers (group_items_registers_zero hinner hsound atom
        atom.tail.dropLast) text bounds
      exact hitem.bind_fails (group_fails (items_fails hsound).bind atom).bind
  | repeatSet text atom bounds rest hrest =>
    rw [Pattern.registered]
    have hitem := repetition_registers (memberSet_registers atom) text bounds
    by_cases hok : atom.fault = none ∧ ∃ b, bounds = .ok b
    · obtain ⟨hfault, b, hb⟩ := hok
      rw [if_pos ⟨hfault, b, hb⟩]
      rw [hb] at hitem ⊢
      exact cons_registers hitem (repetition_total (memberSet_total hfault) text b) hrest
    · rw [if_neg hok]
      refine hitem.bind_fails ?_
      by_cases hfault : atom.fault = none
      · cases bounds with
        | ok b => exact absurd ⟨hfault, b, rfl⟩ hok
        | error e => exact repetition_fails _ text e
      · exact (memberSet_fails hfault).bind

end Builder

end NamePattern
