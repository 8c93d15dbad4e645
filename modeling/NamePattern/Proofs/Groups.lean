import NamePattern.Proofs.Meaning

/-! How many groups a pattern has. -/
namespace NamePattern

/-- The groups of the regex of a member. -/
def Member.groups (m : Member) : Nat := m.regex.elim 0 CharRegex.groups

def MemberSet.groups (s : MemberSet) : Nat := s.members.foldr (fun m n => m.groups + n) 0

theorem length_flatMap_groups {leaves : List Leaf} {members : List Member}
    (h : leaves.map Leaf.regex = members.map Member.regex) (hn : ∀ leaf ∈ leaves, leaf.Numbered) :
    (leaves.flatMap Leaf.groups).length = members.foldr (fun m n => m.groups + n) 0 := by
  induction leaves generalizing members with
  | nil =>
    obtain rfl : members = [] := List.map_eq_nil_iff.mp h.symm
    rfl
  | cons leaf leaves ih =>
    cases members with
    | nil => simp at h
    | cons m members =>
      obtain ⟨hregex, hregexes⟩ := List.cons.inj h
      obtain ⟨hleaf, hleaves⟩ := List.forall_mem_cons.mp hn
      unfold Leaf.Numbered at hleaf
      rw [List.flatMap_cons, List.length_append, ih hregexes hleaves, hleaf, hregex]
      rfl

namespace Pattern

/-- The groups that a pattern opens, and those of the regexes in it. -/
def groups : Pattern → Nat
  | .done => 0
  | .fault _ => 0
  | .group _ inner rest => 1 + inner.groups + rest.groups
  | .repeatGroup _ _ inner _ rest => 1 + inner.groups + rest.groups
  | .repeatSet _ atom _ rest => atom.groups + rest.groups

theorem Compiled.length_captures {p : Pattern} {ms : List (Matcher Leaf)} (h : p.Compiled ms) :
    (Matcher.itemCaptures ms).length = p.groups := by
  induction h with
  | done => rfl
  | group id listId _ _ hinner hrest =>
    simp only [Matcher.itemCaptures, Matcher.captures, List.length_append, List.length_cons, hinner,
      hrest, groups]
    omega
  | repeatGroup id groupId listId _ _ hinner hrest =>
    simp only [Matcher.itemCaptures, Matcher.captures, List.length_append, List.length_cons, hinner,
      hrest, groups]
    omega
  | repeatSet id setId _ hleaves hnum _ hrest =>
    rw [Matcher.itemCaptures, List.length_append, hrest, Matcher.captures, Matcher.captures,
      length_flatMap_groups hleaves hnum]
    rfl

theorem groups_append {p : Pattern} (h : p.Sound) (q : Pattern) :
    (p.append q).groups = p.groups + q.groups := by
  induction p with
  | done => exact (Nat.zero_add _).symm
  | fault e => exact h.elim
  | group text inner rest _ ih =>
    rw [append, groups, groups, ih h.2]
    omega
  | repeatGroup text atom inner bounds rest _ ih =>
    rw [append, groups, groups, ih h.2.2]
    omega
  | repeatSet text atom bounds rest ih =>
    rw [append, groups, groups, ih h.2.2, Nat.add_assoc]

end Pattern

namespace CompiledPattern

variable {ignoreCase : Bool} {text : List Char} {p : CompiledPattern} {n : Name}

/-- A compiled pattern has the groups of the pattern as it is written. -/
theorem groups_of_compile (h : compile ignoreCase text = .ok p) :
    p.groups = (Pattern.read ignoreCase text).groups := by
  obtain ⟨id, ms, -, -, hms, hrefs⟩ := exists_compiled h
  unfold groups Registry.size
  rw [hrefs, Matcher.captures, hms.length_captures]

theorem size_of_captures {c : Captures} (h : p.captures n = some c) : c.size = p.groups + 1 := by
  obtain ⟨-, s, -, rfl⟩ := Arena.matchAt_eq_some h
  rw [Captures.size, List.length_map, groups, Registry.size]

end CompiledPattern

end NamePattern
