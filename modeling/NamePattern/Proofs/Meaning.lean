import NamePattern.NameRegex
import NamePattern.Proofs.Matching
import NamePattern.Proofs.Reading

/-! What patterns mean as they are written, and what their compiled form matches. -/
namespace NamePattern

/-- A member without a regex accepts every component. -/
def Member.Accepts (m : Member) (c : Component) : Prop :=
  ∀ regex, m.regex = some regex → (regex.captures c.escaped).isSome = true

/-- The runs of one component that a set admits. -/
def MemberSet.Language (s : MemberSet) (w : List Component) : Prop :=
  ∃ c, w = [c] ∧ ((∃ m ∈ s.members, m.Accepts c) ↔ s.inclusion = true)

theorem exists_accepts_iff {leaves : List Leaf} {members : List Member}
    (h : leaves.map Leaf.regex = members.map Member.regex) (c : Component) :
    (∃ leaf ∈ leaves, leaf.Accepts c) ↔ ∃ m ∈ members, m.Accepts c := by
  constructor
  · rintro ⟨leaf, hleaf, hc⟩
    have hmem := h ▸ List.mem_map_of_mem hleaf
    obtain ⟨m, hm, hregex⟩ := List.mem_map.mp hmem
    exact ⟨m, hm, fun regex hr => hc regex (hregex ▸ hr)⟩
  · rintro ⟨m, hm, hc⟩
    have hmem := h ▸ List.mem_map_of_mem hm
    obtain ⟨leaf, hleaf, hregex⟩ := List.mem_map.mp hmem
    exact ⟨leaf, hleaf, fun regex hr => hc regex (hregex ▸ hr)⟩

/-- A run is cut in two. -/
def Chain {β : Type} (p q : List β → Prop) (w : List β) : Prop :=
  ∃ u v, w = u ++ v ∧ p u ∧ q v

theorem chain_congr {β : Type} {p p' q q' : List β → Prop} (hp : ∀ w, p w ↔ p' w)
    (hq : ∀ w, q w ↔ q' w) (w : List β) : Chain p q w ↔ Chain p' q' w := by
  unfold Chain
  simp only [hp, hq]

theorem chain_assoc {β : Type} {p q r : List β → Prop} {w : List β} :
    Chain p (Chain q r) w ↔ Chain (Chain p q) r w := by
  constructor
  · rintro ⟨u, _, rfl, hu, v, x, rfl, hv, hx⟩
    exact ⟨u ++ v, x, (List.append_assoc ..).symm, ⟨u, v, rfl, hu, hv⟩, hx⟩
  · rintro ⟨_, x, rfl, ⟨u, v, rfl, hu, hv⟩, hx⟩
    exact ⟨u, v ++ x, List.append_assoc .., hu, v, x, rfl, hv, hx⟩

theorem chain_iff_take {β : Type} {p q : List β → Prop} {w : List β} :
    Chain p q w ↔ ∃ k ≤ w.length, p (w.take k) ∧ q (w.drop k) := by
  constructor
  · rintro ⟨u, v, rfl, hu, hv⟩
    refine ⟨u.length, by simp, ?_, ?_⟩
    · rwa [List.take_left]
    · rwa [List.drop_left]
  · rintro ⟨k, -, hu, hv⟩
    exact ⟨w.take k, w.drop k, (List.take_append_drop k w).symm, hu, hv⟩

theorem exists_ok_iff {b : Bounds} {p : Bounds → Prop} :
    (∃ b', (.ok b : Except CompileError Bounds) = .ok b' ∧ p b') ↔ p b := by
  constructor
  · rintro ⟨b', hb, hp⟩
    cases hb
    exact hp
  · exact fun hp => ⟨b, rfl, hp⟩

namespace Pattern

/-- The runs that a pattern matches. A fault matches nothing. -/
def Language : Pattern → List Component → Prop
  | .done, w => w = []
  | .fault _, _ => False
  | .group _ inner rest, w => Chain inner.Language rest.Language w
  | .repeatGroup _ _ inner bounds rest, w =>
    ∃ b, bounds = .ok b ∧ Chain (b.Repeats inner.Language) rest.Language w
  | .repeatSet _ atom bounds rest, w =>
    ∃ b, bounds = .ok b ∧ Chain (b.Repeats atom.Language) rest.Language w

theorem Compiled.language {p : Pattern} {ms : List (Matcher Leaf)} (h : p.Compiled ms)
    (w : List Component) : Matcher.ItemsLanguage Leaf.Accepts ms w ↔ p.Language w := by
  induction h generalizing w with
  | done => rw [Matcher.ItemsLanguage, Language]
  | group id listId _ _ hinner hrest =>
    rw [Matcher.ItemsLanguage, Language]
    exact chain_congr (fun u => (by rw [Matcher.Language, Matcher.Language, hinner])) hrest w
  | repeatGroup id groupId listId _ _ hinner hrest =>
    rw [Matcher.ItemsLanguage, Language, exists_ok_iff]
    refine chain_congr (fun u => ?_) hrest w
    rw [Matcher.Language]
    refine Bounds.repeats_congr (fun u => ?_) u
    rw [Matcher.Language, Matcher.Language, hinner]
  | repeatSet id setId _ hleaves _ _ hrest =>
    rw [Matcher.ItemsLanguage, Language, exists_ok_iff]
    refine chain_congr (fun u => ?_) hrest w
    rw [Matcher.Language]
    refine Bounds.repeats_congr (fun u => ?_) u
    rw [Matcher.Language, MemberSet.Language]
    simp only [exists_accepts_iff hleaves]

theorem language_append (p q : Pattern) (w : List Component) :
    (p.append q).Language w ↔ Chain p.Language q.Language w := by
  induction p generalizing w with
  | done =>
    constructor
    · exact fun hw => ⟨[], w, rfl, rfl, hw⟩
    · rintro ⟨u, v, rfl, rfl, hv⟩
      exact hv
  | fault e =>
    constructor
    · exact False.elim
    · rintro ⟨u, v, -, hu, -⟩
      exact hu
  | group text inner rest _ ih =>
    rw [append, Language, chain_congr (fun _ => Iff.rfl) ih]
    exact chain_assoc
  | repeatGroup text atom inner bounds rest _ ih =>
    cases bounds with
    | error e => simp [append, Language, Chain]
    | ok b =>
      rw [append, Language, exists_ok_iff, chain_congr (fun _ => Iff.rfl) ih, chain_assoc]
      exact chain_congr (fun u => (by rw [Language, exists_ok_iff])) (fun _ => Iff.rfl) w
  | repeatSet text atom bounds rest ih =>
    cases bounds with
    | error e => simp [append, Language, Chain]
    | ok b =>
      rw [append, Language, exists_ok_iff, chain_congr (fun _ => Iff.rfl) ih, chain_assoc]
      exact chain_congr (fun u => (by rw [Language, exists_ok_iff])) (fun _ => Iff.rfl) w

/-- One component that a member accepts, and then a pattern. -/
def member (m : Member) (rest : Pattern) : Pattern :=
  .repeatSet ('<' :: m.text ++ ['>']) ⟨'<' :: m.text ++ ['>'], true, [m], none⟩
    (.ok ⟨1, 1, Nat.le_refl 1⟩) rest

theorem readItems_member {ignoreCase : Bool} {m : Member} {whole s : List Char}
    (hfree : ∀ c ∈ m.text, c ≠ '<' ∧ c ≠ '>') (hquantifier : cutQuantifier? s = some ([], s))
    (hm : Member.read ignoreCase m.text = .ok m) :
    readItems ignoreCase whole ('<' :: m.text ++ ['>'] ++ s) =
      member m (readItems ignoreCase whole s) := by
  have hcut (rest : List Char) : Bracket.close? '<' '>' (m.text ++ '>' :: rest) = some (m.text, rest) :=
    Bracket.close?_of_free (by decide) hfree rest
  have hset : MemberSet.read ignoreCase ('<' :: m.text ++ ['>']) =
      ⟨'<' :: m.text ++ ['>'], true, [m], none⟩ := by
    have hrest : m.text ++ ['>'] ≠ [] := by simp
    obtain ⟨d, rest, hd⟩ := List.exists_cons_of_ne_nil hrest
    have hcut := hcut []
    rw [List.cons_append, hd]
    rw [hd] at hcut
    simp only [MemberSet.read, hcut, hm]
  have hbounds : Bounds.read ('<' :: m.text ++ ['>'] ++ []) [] = .ok ⟨1, 1, Nat.le_refl 1⟩ := rfl
  have hclosing : Bracket.closing? '<' = some '>' := rfl
  rw [List.append_assoc, List.cons_append, List.singleton_append,
    readItems_item hclosing (hcut s) hquantifier, if_neg (by decide), hbounds, hset, List.append_nil]
  rfl

theorem sound_member {m : Member} {rest : Pattern} : (member m rest).Sound ↔ rest.Sound := by
  simp [member, Sound]

theorem language_member {m : Member} {rest : Pattern} {w : List Component} :
    (member m rest).Language w ↔ ∃ c v, w = c :: v ∧ m.Accepts c ∧ rest.Language v := by
  have hone (u : List Component) : Bounds.Repeats ⟨1, 1, Nat.le_refl 1⟩
      (MemberSet.Language ⟨'<' :: m.text ++ ['>'], true, [m], none⟩) u ↔ ∃ c, u = [c] ∧ m.Accepts c := by
    rw [Bounds.repeats_once rfl rfl (by simp [MemberSet.Language])]
    simp [MemberSet.Language]
  rw [member, Language, exists_ok_iff]
  constructor
  · rintro ⟨u, v, rfl, hu, hv⟩
    obtain ⟨c, rfl, hc⟩ := (hone u).mp hu
    exact ⟨c, v, rfl, hc, hv⟩
  · rintro ⟨c, v, rfl, hc, hv⟩
    exact ⟨[c], v, rfl, (hone [c]).mpr ⟨c, rfl, hc⟩, hv⟩

end Pattern

namespace CompiledPattern

variable {ignoreCase : Bool} {text : List Char} {p : CompiledPattern} {n : Name}
  {offset length : Nat}

theorem list_of_compile (h : compile ignoreCase text = .ok p) :
    ∃ m, Builder.list text (.read ignoreCase text) (.empty ignoreCase) = .ok m p.arena ∧
      p.root = m.id := by
  unfold compile at h
  cases hb : Builder.patternList text (.empty ignoreCase) with
  | error e a =>
    rw [hb] at h
    cases h
  | ok m a =>
    rw [hb] at h
    cases h
    exact ⟨m, hb, rfl⟩

theorem compile_of_list {m : Matcher Leaf} {a : Arena}
    (h : Builder.list text (.read ignoreCase text) (.empty ignoreCase) = .ok m a) :
    compile ignoreCase text = .ok ⟨a, m.id⟩ := by
  have hbuild : Builder.patternList text (.empty ignoreCase) = .ok m a := h
  rw [compile, hbuild]

/-- A pattern is compiled into a list of the items that it is read as. -/
theorem exists_compiled (h : compile ignoreCase text = .ok p) :
    ∃ id ms, p.root = id ∧ p.arena.Holds (.list id ms) ∧
      (Pattern.read ignoreCase text).Compiled ms ∧
        p.arena.registry.refs = (Matcher.list id ms).captures := by
  obtain ⟨m, hm, hroot⟩ := list_of_compile h
  obtain ⟨⟨id, ms, rfl, hms⟩, hg⟩ := (Builder.list_pattern_adds text _).ok hm
  exact ⟨id, ms, hroot, hg.holds, hms, hg.registered⟩

/-- Patterns without faults compile, and no others. -/
theorem compile_isOk_iff (ignoreCase : Bool) (text : List Char) :
    (∃ p, compile ignoreCase text = .ok p) ↔ (Pattern.read ignoreCase text).Sound := by
  constructor
  · rintro ⟨p, hp⟩
    obtain ⟨_, _, -, -, hms, -⟩ := exists_compiled hp
    exact hms.sound
  · intro h
    obtain ⟨m, a, hm⟩ := Builder.list_total (Builder.items_total h) text (.empty ignoreCase)
    exact ⟨⟨a, m.id⟩, compile_of_list hm⟩

/-- A compiled pattern matches what the pattern means as it is written. -/
theorem matchAt_isSome (h : compile ignoreCase text = .ok p) (hle : offset + length ≤ n.length) :
    (p.arena.matchAt p.root n offset length).isSome = true ↔
      (Pattern.read ignoreCase text).Language (n.subName offset length).components := by
  obtain ⟨id, ms, hroot, hold, hms, -⟩ := exists_compiled h
  rw [hroot, Arena.matchAt_isSome, ← hms.language]
  exact hold.isMatchAt_decides hle _

theorem captures_isSome (h : compile ignoreCase text = .ok p) (n : Name) :
    (p.captures n).isSome = true ↔ (Pattern.read ignoreCase text).Language n.components := by
  have hwhole : (n.subName 0 n.length).components = n.components := by
    simp [Name.subName, Name.length]
  rw [← hwhole]
  exact matchAt_isSome h (Nat.le_of_eq (Nat.zero_add _))

theorem result_of_captures {c : Captures} (h : p.captures n = some c) :
    c.result = n.components ∧ c.secondary = false := by
  obtain ⟨-, s, -, rfl⟩ := Arena.matchAt_eq_some h
  exact ⟨by simp [Name.subName, Name.length], rfl⟩

end CompiledPattern

end NamePattern
