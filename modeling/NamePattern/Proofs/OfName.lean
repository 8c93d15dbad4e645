import NamePattern.Proofs.Anchors
import NamePattern.Proofs.ExactRegex
import NamePattern.Proofs.Groups

/-! A regex made from a name matches this name, or all that continue it. -/
namespace NamePattern

/-- A component in a pattern that stands for itself. -/
def Component.quoted (c : Component) : List Char := '<' :: CharRegex.escape c.escaped ++ ['>']

/-- Whether the regex of a component is not too large. -/
def Component.Quotable (c : Component) : Prop :=
  (CharRegex.readWhole? false (CharRegex.escape c.escaped)).isSome = true

theorem Component.quotable_iff {c : Component} :
    c.Quotable ↔ Text.utf8Length c.escaped ≤ 327674 := by
  unfold Quotable
  rw [CharRegex.readWhole?_escape c.escaped_ne_nil]
  by_cases hlen : Text.utf8Length c.escaped ≤ 327674
  · simp [hlen]
  · simp [hlen]

namespace Member

/-- The member for one component. -/
def only (c : Component) : Member :=
  ⟨CharRegex.escape c.escaped, some (CharRegex.exact c.escaped)⟩

theorem read_only {c : Component} (h : c.Quotable) :
    Member.read false (only c).text = .ok (only c) := by
  have hread := CharRegex.readWhole?_escape c.escaped_ne_nil
  rw [if_pos (Component.quotable_iff.mp h)] at hread
  have hne : (CharRegex.escape c.escaped).isEmpty = false := by
    have hle := CharRegex.length_le_escape c.escaped
    have hpos := List.length_pos_iff.mpr c.escaped_ne_nil
    cases hescape : CharRegex.escape c.escaped with
    | nil =>
      rw [hescape, List.length_nil] at hle
      omega
    | cons => rfl
  unfold Member.read only
  dsimp only
  rw [hne, hread]
  rfl

theorem only_free (c : Component) : ∀ d ∈ (only c).text, d ≠ '<' ∧ d ≠ '>' := by
  intro d hd
  obtain ⟨ch, hch, hd⟩ := List.mem_flatMap.mp hd
  have hfree : ch ≠ '<' ∧ ch ≠ '>' := by
    simpa using Component.forall_mem_escaped (p := fun ch => ch != '<' && ch != '>') (by decide)
      (by decide +kernel) hch
  split at hd
  · rcases List.mem_cons.mp hd with rfl | hd
    · decide
    · rw [List.mem_singleton.mp hd]
      exact hfree
  · rw [List.mem_singleton.mp hd]
    exact hfree

theorem only_accepts {c d : Component} : (only c).Accepts d ↔ d = c := by
  constructor
  · intro h
    have hd := h _ rfl
    rw [CharRegex.exact_accepts_iff] at hd
    exact Component.escaped_injective hd
  · rintro rfl regex hregex
    cases hregex
    exact CharRegex.exact_accepts_iff.mpr rfl

end Member

namespace Pattern

/-- The pattern of one run of components. -/
def only : List Component → Pattern
  | [] => .done
  | c :: cs => .member (.only c) (only cs)

variable {cs w : List Component}

theorem sound_only (cs : List Component) : (only cs).Sound := by
  induction cs with
  | nil => trivial
  | cons c cs ih => exact sound_member.mpr ih

theorem language_only : (only cs).Language w ↔ w = cs := by
  induction cs generalizing w with
  | nil => rw [only, Language]
  | cons c cs ih =>
    rw [only, language_member]
    constructor
    · rintro ⟨d, v, rfl, hd, hv⟩
      rw [Member.only_accepts.mp hd, ih.mp hv]
    · rintro rfl
      exact ⟨c, cs, rfl, Member.only_accepts.mpr rfl, ih.mpr rfl⟩

theorem groups_only (cs : List Component) : (only cs).groups = 0 := by
  induction cs with
  | nil => rfl
  | cons c cs ih =>
    have hmember : (member (.only c) (only cs)).groups = 0 + 0 + (only cs).groups := rfl
    rw [only, hmember, ih]

theorem readItems_only (whole : List Char) (h : ∀ c ∈ cs, c.Quotable) :
    readItems false whole (cs.flatMap Component.quoted) = only cs := by
  induction cs with
  | nil => exact readItems_nil ..
  | cons c cs ih =>
    obtain ⟨hc, hcs⟩ := List.forall_mem_cons.mp h
    have hquantifier : cutQuantifier? (cs.flatMap Component.quoted) =
        some ([], cs.flatMap Component.quoted) := by
      cases cs <;> rfl
    have hitem : readItems false whole ((c :: cs).flatMap Component.quoted) =
        member (.only c) (readItems false whole (cs.flatMap Component.quoted)) :=
      readItems_member (Member.only_free c) hquantifier (Member.read_only hc)
    rw [hitem, ih hcs]
    rfl

end Pattern

namespace NameRegex

/-- The pattern of a name, between the anchors of its regex. -/
def body (n : Name) : List Char := n.components.flatMap Component.quoted

theorem textOfName_eq (n : Name) (anchored : Bool) :
    textOfName n anchored = anchor true anchored (body n) := rfl

theorem head?_body (n : Name) : (body n).head? ≠ some '^' := by
  unfold body
  cases n.components with
  | nil => simp
  | cons c cs => simp [Component.quoted]

theorem getLast?_body (n : Name) : (body n).getLast? ≠ some '$' := by
  have hquoted (c : Component) : (Component.quoted c).getLast? = some '>' := by
    unfold Component.quoted
    exact List.getLast?_concat
  intro h
  unfold body at h
  rw [List.getLast?_flatMap] at h
  obtain ⟨c, -, hc⟩ := List.exists_of_findSome?_eq_some h
  rw [hquoted] at hc
  cases hc

variable {n m : Name} {anchored : Bool} {r : NameRegex}

theorem readItems_body (h : ∀ c ∈ n.components, c.Quotable) (whole : List Char) :
    Pattern.readItems false whole (body n) = .only n.components := Pattern.readItems_only whole h

theorem compile_of_ofName (h : ofName n anchored = .ok r) :
    compile false (anchor true anchored (body n)) [] = .ok r := h

theorem exists_ofName (h : ∀ c ∈ n.components, c.Quotable) (anchored : Bool) :
    ∃ r, ofName n anchored = .ok r := by
  unfold ofName
  rw [textOfName_eq, compile_anchor_isOk_iff (head?_body n) (getLast?_body n),
    Pattern.read, readItems_body h]
  exact Pattern.sound_only n.components

theorem matchesFrom_only {closing : Bool} : MatchesFrom (.only n.components) closing m 0 ↔
    ∃ v, m.components = n.components ++ v ∧ (closing = true → v = []) := by
  rw [matchesFrom_iff (Nat.zero_le _), List.drop_zero]
  simp only [Pattern.language_only]
  constructor
  · rintro ⟨u, v, h, rfl, hv⟩
    exact ⟨v, h, hv⟩
  · rintro ⟨v, h, hv⟩
    exact ⟨n.components, v, h, rfl, hv⟩

theorem groups_ofName (h : ∀ c ∈ n.components, c.Quotable) (hr : ofName n anchored = .ok r) :
    r.primary.groups = 0 := by
  obtain ⟨hprimary, -⟩ := forms_of_compile (head?_body n) (getLast?_body n) (compile_of_ofName hr)
  have htail : (Pattern.readItems false (body n ++ tail anchored) (tail anchored)).groups = 0 := by
    rw [readItems_tail]
    cases anchored <;> rfl
  have hsound : (Pattern.readItems false (body n ++ tail anchored) (body n)).Sound := by
    rw [readItems_body h]
    exact Pattern.sound_only n.components
  rw [CompiledPattern.groups_of_compile hprimary, Pattern.read,
    Pattern.readItems_append (inert_tail anchored).quantifier hsound, readItems_body h,
    Pattern.groups_append (Pattern.sound_only _), Pattern.groups_only, htail]

theorem isMatch_ofName (h : ∀ c ∈ n.components, c.Quotable) (hr : ofName n anchored = .ok r)
    (hm : m.length ≤ Text.maxNumber) : r.isMatch m = true ↔
      ∃ v, m.components = n.components ++ v ∧ (anchored = true → v = []) := by
  rw [isMatch_anchor (head?_body n) (getLast?_body n) (compile_of_ofName hr) hm, Pattern.read,
    readItems_body h, ← matchesFrom_only]
  constructor
  · rintro ⟨i, -, hi, hmatch⟩
    rwa [hi rfl] at hmatch
  · intro hmatch
    exact ⟨0, Nat.zero_le _, fun _ => rfl, hmatch⟩

theorem captures_ofName (h : ∀ c ∈ n.components, c.Quotable) (hr : ofName n anchored = .ok r)
    {c : Captures} (hc : r.captures m = some c) : c.result = m.components ∧ c.size = 1 := by
  obtain ⟨-, hnone, -⟩ :=
    forms_of_compile (head?_body n) (getLast?_body n) (compile_of_ofName hr)
  have hgroups := groups_ofName h hr
  rcases captures_eq_some hc with hp | ⟨-, q, d, hq, -⟩
  · obtain ⟨hresult, -⟩ := CompiledPattern.result_of_captures hp
    have hsize := CompiledPattern.size_of_captures hp
    rw [hgroups] at hsize
    exact ⟨hresult, hsize⟩
  · rw [hnone rfl] at hq
    cases hq

/-- If the regexes of its components are not too large, every name has a regex. Anchored, it matches
this name and no other, and else it matches the names that this one is a beginning of. A match is
about the whole of the other name, with no groups. No name has more components than a number can
count. -/
theorem ofName_matches_relation (n : Name) (anchored : Bool)
    (h : ∀ c ∈ n.components,
      (CharRegex.readWhole? false (CharRegex.escape c.escaped)).isSome = true) :
    ∃ r, ofName n anchored = .ok r ∧ ∀ m : Name, m.length ≤ Text.maxNumber →
      (r.isMatch m = true ↔ if anchored then m = n else n.isPrefixOf m = true) ∧
        (r.isMatch m = true → ∃ c, r.matchName m = (true, { r with last := c }) ∧
          c.result = m.components ∧ c.size = 1) := by
  obtain ⟨r, hr⟩ := exists_ofName h anchored
  refine ⟨r, hr, fun m hm => ⟨?_, fun hmatch => ?_⟩⟩
  · rw [isMatch_ofName h hr hm]
    cases anchored with
    | true =>
      constructor
      · rintro ⟨v, hv, hnil⟩
        rw [hnil rfl, List.append_nil] at hv
        exact congrArg Name.mk hv
      · rintro rfl
        exact ⟨[], (List.append_nil _).symm, fun _ => rfl⟩
    | false =>
      have hprefix : n.isPrefixOf m = true ↔ ∃ v, n.components ++ v = m.components :=
        List.isPrefixOf_iff_prefix
      rw [if_neg Bool.false_ne_true, hprefix]
      constructor
      · rintro ⟨v, hv, -⟩
        exact ⟨v, hv.symm⟩
      · rintro ⟨v, hv⟩
        exact ⟨v, hv.symm, fun hc => absurd hc Bool.false_ne_true⟩
  · obtain ⟨c, hc, hlast⟩ := matchName_of_isMatch hmatch
    obtain ⟨hresult, hsize⟩ := captures_ofName h hr hc
    exact ⟨c, hlast, hresult, hsize⟩

/-- The regex of the name of a period and an empty component matches what continues this name. -/
theorem ofName_matches_relation_periods : ∃ r c, ofName ⟨[⟨[46]⟩, ⟨[]⟩]⟩ false = .ok r ∧
    r.matchName ⟨[⟨[46]⟩, ⟨[]⟩, ⟨[47]⟩]⟩ = (true, { r with last := c }) ∧
      c.result = [⟨[46]⟩, ⟨[]⟩, ⟨[47]⟩] ∧ c.size = 1 := by
  have hquotable : ∀ c ∈ [(⟨[46]⟩ : Component), ⟨[]⟩],
      (CharRegex.readWhole? false (CharRegex.escape c.escaped)).isSome = true := by
    intro c hc
    apply Component.quotable_iff.mpr
    simp only [List.mem_cons, List.not_mem_nil, or_false] at hc
    rcases hc with rfl | rfl <;> decide
  obtain ⟨r, hr, hall⟩ := ofName_matches_relation ⟨[⟨[46]⟩, ⟨[]⟩]⟩ false hquotable
  obtain ⟨hmatch, hcaptures⟩ := hall ⟨[⟨[46]⟩, ⟨[]⟩, ⟨[47]⟩]⟩ (by decide)
  have hprefix : (⟨[⟨[46]⟩, ⟨[]⟩]⟩ : Name).isPrefixOf ⟨[⟨[46]⟩, ⟨[]⟩, ⟨[47]⟩]⟩ = true := by decide
  obtain ⟨c, hc, hresult, hsize⟩ := hcaptures (hmatch.mpr hprefix)
  exact ⟨r, c, hr, hc, hresult, hsize⟩

end NameRegex

end NamePattern
