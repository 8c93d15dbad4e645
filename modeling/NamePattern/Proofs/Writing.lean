import NamePattern.Proofs.Locality
import NamePattern.Proofs.Numbering

/-! A match writes the slots of the groups below its node. That of a group which is matched itself
tells how the match went. -/
namespace NamePattern

open Relation (ReflTransGen)

namespace Matcher

/-- A group that is not one of the groups inside it is left its run, or nothing if it fails, whatever
its slot held. -/
theorem run_group_self {name : Name} {id : NodeId} {inner : Matcher Leaf} {s s' : Slots}
    {offset length : Nat} {found : Bool} (hid : id < s.size) (hinner : id ∉ inner.captures)
    (hrun : ((group id inner).answering name).run offset length s = (found, s')) :
    s'.get? id = if found then some (.span offset length) else none := by
  have hwrites := inner.run_writes name offset length
  rw [answering, map, run_group] at hrun
  split at hrun
  · next t ht =>
    cases hrun
    have hsize : t.size = s.size := by simpa [ht] using hwrites.size (s.clear id)
    exact Slots.get?_set_self (hsize ▸ hid) _
  · next t ht =>
    cases hrun
    have hkeeps := hwrites.keeps (s.clear id) id hinner
    rw [ht, Slots.get?_clear_self] at hkeeps
    exact hkeeps

end Matcher

namespace Arena

variable {a : Arena} {name : Name} {id : NodeId} {text : List Char} {offset length : Nat}

/-- A group is not one of the groups inside it, since no references lead from a node back to it. -/
theorem WellFormed.notMem_inner {i : NodeId} {inner : Matcher Leaf} (h : a.WellFormed)
    (hnode : a.nodes[id]? = some ⟨text, .matcher (.group i inner)⟩) :
    i = id ∧ id ∉ inner.captures := by
  obtain ⟨rfl, hstored⟩ := h.stored id text _ hnode
  refine ⟨rfl, fun hmem => ?_⟩
  have hpart : inner ∈ (Matcher.group i inner).subtrees :=
    List.mem_cons_of_mem _ inner.self_mem_subtrees
  have hback : ReflTransGen a.Child inner.id i := ((mem_captures_iff (hstored.part hpart)).mp hmem).1
  have hdown : a.Child i inner.id := ⟨_, hnode, List.mem_singleton_self _⟩
  exact h.acyclic i (.head' hdown hback)

/-- A slot that an attempt changes is that of a group at or below the node. -/
theorem WellFormed.group_of_changed {g : NodeId} {s s' : Slots} {found : Bool} (h : a.WellFormed)
    (hmatch : a.isMatchAt id name offset length s = (found, s')) (hchanged : s'.get? g ≠ s.get? g) :
    ReflTransGen a.Child id g ∧
      ∃ n, a.nodes[g]? = some n ∧ (n.content.kind = .group ∨ n.content.kind = .pseudo) := by
  obtain ⟨text, m, hnode, hrun⟩ | hfail := a.isMatchAt_cases id name offset length
  · obtain ⟨rfl, hstored⟩ := h.stored id text m hnode
    refine (mem_captures_iff hstored).mp (Decidable.byContradiction fun hg => hchanged ?_)
    have hkeeps := (m.run_writes name offset length).keeps s g hg
    rw [← hrun, hmatch] at hkeeps
    exact hkeeps
  · rw [hfail] at hmatch
    cases hmatch
    exact absurd rfl hchanged

/-- A match writes only below its node. Whether it succeeds or fails, and whatever the slots hold,
there are as many slots as before, and those that change are the slots of groups and of groups of
component regexes that are parts of the node. A compiled group that is matched within the name is
left the run of the call if it matches, and nothing if it does not. -/
theorem Built.isMatchAt_writes_below {ts : List (Matcher Leaf)} {s s' : Slots} {found : Bool}
    (h : a.Built ts) (hsize : s.size = a.size)
    (hmatch : a.isMatchAt id name offset length s = (found, s')) :
    s'.size = s.size ∧
      (∀ g, s'.get? g ≠ s.get? g → ReflTransGen a.Child id g ∧
        ∃ n, a.nodes[g]? = some n ∧ (n.content.kind = .group ∨ n.content.kind = .pseudo)) ∧
      ∀ text i inner, a.nodes[id]? = some ⟨text, .matcher (.group i inner)⟩ →
        offset + length ≤ name.length →
          s'.get? id = if found then some (.span offset length) else none := by
  have hwell : a.WellFormed := h.wellFormed
  refine ⟨?_, fun g hchanged => ?_, fun text i inner hnode hle => ?_⟩
  · have hkept := a.size_isMatchAt id name offset length s
    rw [hmatch] at hkept
    exact hkept
  · exact hwell.group_of_changed hmatch hchanged
  · obtain ⟨rfl, hinner⟩ := hwell.notMem_inner hnode
    have hlt : i < s.size := hsize ▸ (Array.getElem?_eq_some_iff.mp hnode).1
    rw [isMatchAt_of_stored hnode hle] at hmatch
    exact Matcher.run_group_self hlt hinner hmatch

/-- The first component of `/a/c` leaves its `a` with the group of the component regex, and the
second makes the whole group fail. -/
theorem Built.isMatchAt_writes_below_failed :
    let name : Name := ⟨[⟨[97]⟩, ⟨[99]⟩]⟩
    let old : Capture := .span 7 7
    let s : Slots := ⟨Array.replicate 9 (some old)⟩
    ∃ m a s', (Call.backref ['(', '<', '(', 'a', ')', '>', '<', 'b', '>', ')']).build
        (.empty false) = .ok m a ∧ a.isMatchAt m.id name 0 2 s = (false, s') ∧
      s'.size = 9 ∧ s'.get? m.id = none ∧ s'.get? 1 = some (.value ⟨[97]⟩) ∧
      ReflTransGen a.Child m.id 1 := by
  intro name old s
  obtain ⟨m, a, s', text, inner, hc, hsize, hmatch, hnode, hvalue⟩ : ∃ m a s' text inner,
      (Call.backref ['(', '<', '(', 'a', ')', '>', '<', 'b', '>', ')']).build (.empty false) =
        .ok m a ∧ s.size = a.size ∧ a.isMatchAt m.id name 0 2 s = (false, s') ∧
      a.nodes[m.id]? = some ⟨text, .matcher (.group m.id inner)⟩ ∧
      s'.get? 1 = some (.value ⟨[97]⟩) :=
    ⟨_, _, _, _, _, by cbv, by cbv, by cbv, by cbv, by cbv⟩
  have hbuilt : a.Built [m] := .success _ (.empty false) hc
  obtain ⟨hkept, hbelow, hself⟩ := Built.isMatchAt_writes_below hbuilt hsize hmatch
  have hchanged : s'.get? 1 ≠ s.get? 1 := by
    rw [hvalue]
    decide
  exact ⟨m, a, s', hc, hmatch, hkept, hself text m.id inner hnode (by decide), hvalue,
    (hbelow 1 hchanged).1⟩

end Arena

end NamePattern
