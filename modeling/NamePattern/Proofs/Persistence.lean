import NamePattern.Proofs.Forest
import NamePattern.Proofs.Locality

/-! Later calls keep what is there: nodes, the numbers of groups, and what a node matches and
captures. -/
namespace NamePattern

namespace Call

theorem step_fst (s : Arena × List (Matcher Leaf)) (c : Call) :
    (step s c).1 = c.build.final s.1 := by
  unfold step Builder.final
  cases c.build s.1 with
  | ok m b => rfl
  | error e b => rfl

theorem step_extends (s : Arena × List (Matcher Leaf)) (c : Call) :
    s.1.Extends (step s c).1 := by
  unfold step
  cases hc : c.build s.1 with
  | ok m b => exact (c.build_adds.ok hc).2.toExtends
  | error e b => exact c.build_adds.error hc

theorem run_extends (cs : List Call) (s : Arena × List (Matcher Leaf)) :
    s.1.Extends (run cs s).1 := by
  induction cs generalizing s with
  | nil => exact .refl _
  | cons c cs ih => exact (step_extends s c).trans (ih (step s c))

theorem run_registers (cs : List Call) (s : Arena × List (Matcher Leaf)) :
    ∃ ids, s.1.Registers (run cs s).1 ids := by
  induction cs generalizing s with
  | nil => exact ⟨[], .refl _⟩
  | cons c cs ih =>
    obtain ⟨ids, hids, -⟩ := c.build_registers s.1
    rw [← step_fst s c] at hids
    obtain ⟨ids', hids'⟩ := ih (step s c)
    exact ⟨ids ++ ids', hids.trans hids'⟩

end Call

theorem Name.subName_zero_length (name : Name) : name.subName 0 name.length = name := by
  simp only [subName, length, List.drop_zero, List.take_length]

namespace Arena

variable {a b : Arena} {ts : List (Matcher Leaf)} {id : NodeId} {m : Matcher Leaf}
  {text : List Char}

theorem WellFormed.refs_lt (h : a.WellFormed) : ∀ i ∈ a.registry.refs, i < a.size := by
  intro i hi
  obtain hpseudo | ⟨text, inner, hgroup⟩ := h.registered i hi
  · exact (Array.getElem?_eq_some_iff.mp hpseudo).1
  · exact (Array.getElem?_eq_some_iff.mp hgroup).1

/-- What a tree captures are nodes of its arena. -/
theorem WellFormed.captures_lt (h : a.WellFormed) (hnode : a.nodes[id]? = some ⟨text, .matcher m⟩) :
    ∀ i ∈ m.captures, i < a.size := by
  intro i hi
  obtain ⟨-, hparts, hpseudos⟩ := h.stored id text m hnode
  obtain ⟨inner, hgroup⟩ | ⟨id', leaf, hleaf, hg⟩ := Matcher.mem_captures hi
  · obtain ⟨text', hstored⟩ := hparts _ hgroup
    exact (Array.getElem?_eq_some_iff.mp hstored).1
  · exact (Array.getElem?_eq_some_iff.mp (hpseudos id' leaf hleaf i hg)).1

/-- A match writes no slots but those of the arena's own nodes. -/
theorem WellFormed.isMatchAt_writes (h : a.WellFormed) (id : NodeId) (name : Name)
    (offset length : Nat) : (a.isMatchAt id name offset length).Writes (List.range a.size) := by
  obtain ⟨text, m, hnode, hrun⟩ | hfail := a.isMatchAt_cases id name offset length
  · rw [hrun]
    refine (m.run_writes name offset length).mono fun i hi => ?_
    exact List.mem_range.mpr (h.captures_lt hnode i hi)
  · rw [hfail]
    exact .fail

theorem isMatchAt_congr (h : b.nodes[id]? = a.nodes[id]?) (name : Name) (offset length : Nat) :
    b.isMatchAt id name offset length = a.isMatchAt id name offset length := by
  unfold isMatchAt
  rw [h]

/-- How many more slots there are makes no difference to a match. -/
theorem isMatchAt_tracks_self (a : Arena) (id : NodeId) (name : Name) (offset length n : Nat) :
    Attempt.Tracks (Slots.Shifted 0 name.length n) (a.isMatchAt id name offset length)
      (a.isMatchAt id name offset length) := by
  unfold isMatchAt
  split
  · next hle =>
    split
    · next m _ =>
      have hsame : ∀ i < name.length, name.get? (0 + i) = name.get? i :=
        fun i _ => congrArg name.get? (Nat.zero_add i)
      have htracks := m.run_tracks (n := n) hsame offset length hle
      rw [Nat.zero_add] at htracks
      exact htracks
    · exact .fail
  · exact .fail

/-- An arena that keeps the nodes of another one and registers new nodes only matches the old
nodes alike. Its other groups stay empty. -/
theorem WellFormed.matchAt_registers {ids : List NodeId} (h : a.WellFormed)
    (hids : a.Registers b ids) (hnode : b.nodes[id]? = a.nodes[id]?) (name : Name)
    (offset length : Nat) :
    b.matchAt id name offset length = (a.matchAt id name offset length).map fun c =>
      { c with groups := c.groups ++ List.replicate ids.length [] } := by
  have hstart : Slots.Shifted 0 name.length a.size (.empty b.size) (.empty a.size) :=
    .empty hids.size_le (Nat.le_refl _)
  obtain ⟨ok, s, s', hs, hs', hshifted⟩ :=
    (isMatchAt_tracks_self a id name offset length a.size).results hstart
  have hold : ∀ i ∈ a.registry.refs, s.resolve name i = s'.resolve name i := by
    intro i hi
    have hresolve := hshifted.resolve name (h.refs_lt i hi)
    rw [name.subName_zero_length] at hresolve
    exact hresolve
  have hnew : ids.map (s.resolve name) = List.replicate ids.length [] := by
    refine List.map_eq_replicate_iff.mpr fun i hi => ?_
    have hnotMem : i ∉ List.range a.size :=
      fun hmem => Nat.not_lt_of_le (hids.fresh i hi).1 (List.mem_range.mp hmem)
    have hkeeps := (h.isMatchAt_writes id name offset length).keeps (.empty b.size) i hnotMem
    rw [hs, Slots.get?_empty] at hkeeps
    rw [Slots.resolve, hkeeps]
  have hgroups : b.registry.refs.map (s.resolve name) =
      a.registry.refs.map (s'.resolve name) ++ List.replicate ids.length [] := by
    rw [hids.registry, List.map_append, hnew, List.map_congr_left hold]
  unfold matchAt
  rw [isMatchAt_congr hnode, hs, hs']
  cases ok with
  | true => simp only [hgroups, Option.map_some]
  | false => rfl

/-- Whatever calls follow, the nodes of an arena stay what they are, its groups keep their numbers,
and its nodes match and capture the same. -/
theorem Built.run_keeps (h : a.Built ts) (cs : List Call) (hid : id < a.size) :
    let b := (Call.run cs (a, ts)).1
    b.nodes[id]? = a.nodes[id]? ∧ a.registry.refs <+: b.registry.refs ∧
      ∀ name offset length, b.matchAt id name offset length =
        (a.matchAt id name offset length).map fun c =>
          { c with groups :=
              c.groups ++ List.replicate (b.registry.size - a.registry.size) [] } := by
  intro b
  have hext : a.Extends b := Call.run_extends cs (a, ts)
  obtain ⟨ids, hids⟩ : ∃ ids, a.Registers b ids := Call.run_registers cs (a, ts)
  have hnode : b.nodes[id]? = a.nodes[id]? := hext.node id hid
  have hsize : b.registry.size - a.registry.size = ids.length := by
    rw [Registry.size, Registry.size, hids.registry, List.length_append, Nat.add_sub_cancel_left]
  refine ⟨hnode, hext.registry, fun name offset length => ?_⟩
  rw [hsize]
  exact h.wellFormed.matchAt_registers hids hnode name offset length

/-- A call that fails behind a group and one that succeeds add a group each. -/
theorem Built.run_keeps_two :
    let cs : List Call := [.patternList ['(', ')', '%'], .backref ['(', ')']]
    let name : Name := ⟨[⟨[97]⟩, ⟨[98]⟩]⟩
    ∃ m a, (Call.patternList ['(', '<', '>', ')', '<', '>']).build (.empty false) = .ok m a ∧
      a.Built [m] ∧ m.id < a.size ∧ (Call.run cs (a, [m])).1.matchAt m.id name 0 2 =
        some ⟨[⟨[97]⟩, ⟨[98]⟩], [[⟨[97]⟩], [], []], false⟩ := by
  let inside : Matcher Leaf := .repeated 3 (.set 2 [⟨1, none, []⟩] true) ⟨1, 1, by decide⟩
  let last : Matcher Leaf := .repeated 7 (.set 6 [⟨5, none, []⟩] true) ⟨1, 1, by decide⟩
  let m : Matcher Leaf := .list 8 [.group 0 (.list 4 [inside]), last]
  intro cs name
  obtain ⟨a, hc, hid, hmatch, hsize⟩ : ∃ a,
      (Call.patternList ['(', '<', '>', ')', '<', '>']).build (.empty false) = .ok m a ∧
      m.id < a.size ∧
      a.matchAt m.id name 0 2 = some ⟨[⟨[97]⟩, ⟨[98]⟩], [[⟨[97]⟩]], false⟩ ∧
      (Call.run cs (a, [m])).1.registry.size - a.registry.size = 2 :=
    ⟨_, by cbv, by decide, by cbv, by cbv⟩
  have hbuilt : a.Built [m] := .success _ (.empty false) hc
  have hkeeps := (Built.run_keeps hbuilt cs hid).2.2 name 0 2
  rw [hmatch, hsize] at hkeeps
  exact ⟨m, a, hc, hbuilt, hid, hkeeps⟩

end Arena

end NamePattern
