import NamePattern.Name.Uri
import NamePattern.Proofs.EscapedForm

/-! The canonical URI of a name is read back as that name. -/
namespace NamePattern

/-- Nothing in an escaped form could be taken for a blank, a separator or the end of a scheme. -/
theorem Component.not_special_of_mem_escaped {c : Component} {ch : Char} (hch : ch ∈ c.escaped) :
    isBlank ch = false ∧ ch ≠ '/' ∧ ch ≠ ':' := by
  have hcheck := forall_mem_escaped (p := fun ch => !isBlank ch && ch != '/' && ch != ':')
    (by decide) (by decide +kernel) hch
  simpa [and_assoc] using hcheck

namespace Name

/-- The canonical URI without its first slash. -/
def path (n : Name) : List Char := ['/'].intercalate (n.components.map Component.escaped)

theorem toUri_eq (n : Name) : n.toUri = '/' :: n.path := by
  have hpath (c : Component) (cs : List Component) :
      ((c :: cs).flatMap fun d => '/' :: d.escaped) =
        '/' :: ['/'].intercalate ((c :: cs).map Component.escaped) := by
    induction cs generalizing c with
    | nil => simp [List.intercalate]
    | cons d cs ih =>
      have hrest := ih d
      rw [List.flatMap_cons, hrest]
      simp [List.intercalate_cons_cons]
  unfold toUri isEmpty path
  cases n.components with
  | nil => rfl
  | cons c cs => exact hpath c cs

theorem mem_path {n : Name} {ch : Char} (h : ch ∈ n.path) :
    ch = '/' ∨ ∃ c ∈ n.components, ch ∈ c.escaped := by
  have hmem : ch ∈ n.toUri := by
    rw [toUri_eq]
    exact List.mem_cons_of_mem _ h
  unfold toUri at hmem
  split at hmem
  · exact .inl (List.mem_singleton.mp hmem)
  · obtain ⟨c, hc, hch⟩ := List.mem_flatMap.mp hmem
    exact (List.mem_cons.mp hch).imp_right fun hch => ⟨c, hc, hch⟩

theorem not_blank_of_mem_path {n : Name} {ch : Char} (h : ch ∈ n.path) :
    Component.isBlank ch = false := by
  obtain hslash | ⟨c, -, hch⟩ := mem_path h
  · rw [hslash]
    rfl
  · exact (Component.not_special_of_mem_escaped hch).1

/-- No authority follows the first slash: every component has an escaped form that is not empty. -/
theorem head?_path (n : Name) : n.path.head? ≠ some '/' := by
  unfold path
  cases n.components with
  | nil => simp
  | cons c cs =>
    obtain ⟨ch, rest, hescaped⟩ := List.exists_cons_of_ne_nil c.escaped_ne_nil
    have hhead : (['/'].intercalate ((c :: cs).map Component.escaped)).head? = some ch := by
      cases cs with
      | nil => simp [List.intercalate, hescaped]
      | cons d cs => simp [List.intercalate_cons_cons, hescaped]
    have hmem : ch ∈ c.escaped := hescaped ▸ List.mem_cons_self ..
    have hne := (Component.not_special_of_mem_escaped hmem).2.1
    rw [hhead]
    simpa using hne

theorem dropScheme_slash (path : List Char) : dropScheme ('/' :: path) = '/' :: path := rfl

theorem pathOf?_slash {s : List Char} (h : s.head? ≠ some '/') :
    pathOf? ('/' :: s) = some (Component.trim s) := by
  cases s with
  | nil => rfl
  | cons ch s =>
    have hne : ch ≠ '/' := by simpa using h
    simp [pathOf?, hne]

theorem pathOf?_toUri (n : Name) : pathOf? n.toUri = some n.path := by
  have htrim : Component.trim n.path = n.path :=
    Component.trim_of_free fun ch hch => not_blank_of_mem_path hch
  rw [toUri_eq, pathOf?_slash n.head?_path, htrim]

theorem filterMap_ofEscaped? (cs : List Component) :
    (cs.map Component.escaped).filterMap Component.ofEscaped? = cs := by
  have hread : Component.ofEscaped? ∘ Component.escaped = some :=
    funext Component.ofEscaped?_escaped
  rw [List.filterMap_map, hread, List.filterMap_some]

theorem segments_path (n : Name) :
    (n.path.splitOn '/').filterMap Component.ofEscaped? = n.components := by
  cases hn : n.components with
  | nil =>
    have hpath : n.path = [] := by
      unfold path
      rw [hn]
      rfl
    rw [hpath]
    rfl
  | cons c cs =>
    have hfree : ∀ s ∈ n.components.map Component.escaped, '/' ∉ s := by
      intro s hs hslash
      obtain ⟨d, -, rfl⟩ := List.mem_map.mp hs
      exact (Component.not_special_of_mem_escaped hslash).2.1 rfl
    have hne : n.components.map Component.escaped ≠ [] := by
      rw [hn]
      simp
    have hsplit : n.path.splitOn '/' = n.components.map Component.escaped :=
      List.splitOn_intercalate '/' hfree hne
    rw [hsplit, filterMap_ofEscaped?, hn]

/-- Reading the canonical URI of a name gives that name. -/
theorem ofUri_toUri (n : Name) : ofUri n.toUri = n := by
  have htrim : Component.trim n.toUri = n.toUri := by
    apply Component.trim_of_free
    intro ch hch
    rw [toUri_eq] at hch
    obtain rfl | hch := List.mem_cons.mp hch
    · rfl
    · exact not_blank_of_mem_path hch
  have hscheme : dropScheme n.toUri = n.toUri := by
    rw [toUri_eq]
    exact dropScheme_slash n.path
  unfold ofUri
  rw [htrim, hscheme, pathOf?_toUri]
  exact congrArg Name.mk n.segments_path

/-- Names and components can be written and read back, whatever bytes they are made of. Two names
with the same URI are the same. -/
theorem uri_round_trip :
    (∀ n : Name, ofUri n.toUri = n) ∧ (∀ m n : Name, m.toUri = n.toUri ↔ m = n) ∧
      ∀ c : Component, Component.ofEscaped? c.escaped = some c := by
  refine ⟨ofUri_toUri, fun m n => ⟨fun h => ?_, fun h => h ▸ rfl⟩, Component.ofEscaped?_escaped⟩
  have hread := congrArg ofUri h
  rwa [ofUri_toUri, ofUri_toUri] at hread

/-- Neither blanks nor slashes nor colons in a component come near the syntax of a URI. -/
example : ofUri (toUri ⟨[⟨[]⟩, ⟨[46, 46]⟩, ⟨[47, 58, 32]⟩]⟩) = ⟨[⟨[]⟩, ⟨[46, 46]⟩, ⟨[47, 58, 32]⟩]⟩ := by
  decide +kernel

end Name

end NamePattern
