import Mathlib
import NamePattern.Proofs.Anchors
import NamePattern.Proofs.SubNames
import NamePattern.TrustRule

/-! How the verdicts of trust rules that differ only in their relation go together. -/
namespace NamePattern

namespace Name

variable {m n : Name}

/-- A name that continues another one is the same if it is not longer. -/
theorem eq_or_length_lt_of_prefix (h : m.components <+: n.components) :
    m = n ∨ m.length < n.length := by
  obtain hlt | heq := Nat.lt_or_eq_of_le h.length_le
  · exact .inr hlt
  · have hcomponents : m.components = n.components := h.eq_of_length heq
    exact .inl (congrArg Name.mk hcomponents)

namespace Relation

theorem check_equal_iff : equal.check m n = true ↔ m = n := beq_iff_eq

theorem check_isPrefixOf_iff : isPrefixOf.check m n = true ↔ m.components <+: n.components :=
  isPrefixOf_iff

theorem check_isStrictPrefixOf_iff : isStrictPrefixOf.check m n = true ↔
    m.components <+: n.components ∧ m.length < n.length := by
  unfold check
  rw [Bool.and_eq_true, decide_eq_true_iff, isPrefixOf_iff, And.comm]

/-- A prefix is the same name or a strict prefix. -/
theorem check_isPrefixOf_eq (m n : Name) :
    isPrefixOf.check m n = (equal.check m n || isStrictPrefixOf.check m n) := by
  apply Bool.eq_iff_iff.mpr
  rw [Bool.or_eq_true, check_equal_iff, check_isPrefixOf_iff, check_isStrictPrefixOf_iff]
  constructor
  · intro h
    obtain heq | hlt := eq_or_length_lt_of_prefix h
    · exact .inl heq
    · exact .inr ⟨h, hlt⟩
  · intro h
    obtain heq | hstrict := h
    · subst heq
      exact List.prefix_rfl
    · exact hstrict.1

/-- No name is a strict prefix of itself. -/
theorem check_equal_and_isStrictPrefixOf (m n : Name) :
    (equal.check m n && isStrictPrefixOf.check m n) = false := by
  apply Bool.eq_false_iff.mpr
  intro h
  obtain ⟨hequal, hstrict⟩ := (Bool.and_eq_true ..).mp h
  obtain ⟨-, hlt⟩ := check_isStrictPrefixOf_iff.mp hstrict
  rw [check_equal_iff.mp hequal] at hlt
  exact Nat.lt_irrefl _ hlt

theorem read_spelling (rel : Relation) : read rel.spelling.toList = .ok rel := by
  cases rel <;> decide

end Relation

end Name

theorem NameRegex.template_of_compile {ignoreCase : Bool} {text template : List Char} {r : NameRegex}
    (h : compile ignoreCase text template = .ok r) : r.template = template := by
  obtain ⟨primary, secondary, -, -, hr⟩ := compile_eq_ok.mp h
  rw [hr]

namespace TrustRule

variable {packet packetTemplate key keyTemplate : List Char} {P K : NameRegex} {p k : Name}
  {c d : Captures}

theorem read_of_compile (hP : NameRegex.compile false packet packetTemplate = .ok P)
    (hK : NameRegex.compile false key keyTemplate = .ok K) (rel : Name.Relation) :
    read packet packetTemplate key keyTemplate rel.spelling.toList = .ok ⟨P, K, rel⟩ := by
  unfold read
  rw [hP, hK, rel.read_spelling]
  rfl

theorem check_of_captures (hc : P.captures p = some c) (hd : K.captures k = some d)
    (rel : Name.Relation) : check ⟨P, K, rel⟩ p k =
      (c.expand P.template).bind fun x => (d.expand K.template).map fun y => rel.check y x := by
  unfold check
  simp only [hc, hd]
  rfl

/-- What is not matched is refused, whatever the templates say. -/
theorem check_of_not_match (h : P.isMatch p = false ∨ K.isMatch k = false) (rel : Name.Relation) :
    check ⟨P, K, rel⟩ p k = .ok false := by
  unfold check
  split
  · next c d hc hd =>
    obtain hp | hk := h
    · rw [NameRegex.isMatch, hc] at hp
      cases hp
    · rw [NameRegex.isMatch, hd] at hk
      cases hk
  · rfl

/-- The first fault counts, and the relation has no part in it. -/
theorem check_eq_error_iff (hc : P.captures p = some c) (hd : K.captures k = some d)
    (rel : Name.Relation) (e : ExpandError) : check ⟨P, K, rel⟩ p k = .error e ↔
      c.expand P.template = .error e ∨
        (∃ x, c.expand P.template = .ok x) ∧ d.expand K.template = .error e := by
  rw [check_of_captures hc hd]
  cases c.expand P.template with
  | error e' => simp [Except.bind]
  | ok x =>
    cases d.expand K.template with
    | error e' => simp [Except.bind, Except.map]
    | ok y => simp [Except.bind, Except.map]

/-- Rules that differ only in their relation agree with each other. They refuse what their regexes
do not match. If a template has a fault, all of them fail with it, and the packet's counts before
the key's. Otherwise each of them decides its relation between the name built from the key and the
one built from the packet: it is a prefix if it is the same or a strict prefix, and never both. -/
theorem verdicts_agree (hP : NameRegex.compile false packet packetTemplate = .ok P)
    (hK : NameRegex.compile false key keyTemplate = .ok K) (p k : Name) :
    (∀ rel : Name.Relation, read packet packetTemplate key keyTemplate rel.spelling.toList =
        .ok ⟨P, K, rel⟩) ∧
      (P.isMatch p = false ∨ K.isMatch k = false → ∀ rel, check ⟨P, K, rel⟩ p k = .ok false) ∧
      ∀ c d, P.captures p = some c → K.captures k = some d →
        (∀ rel e, check ⟨P, K, rel⟩ p k = .error e ↔ c.expand packetTemplate = .error e ∨
          (∃ x, c.expand packetTemplate = .ok x) ∧ d.expand keyTemplate = .error e) ∧
        ∀ x y, c.expand packetTemplate = .ok x → d.expand keyTemplate = .ok y →
          ∃ eq pre strict : Bool, check ⟨P, K, .equal⟩ p k = .ok eq ∧
            check ⟨P, K, .isPrefixOf⟩ p k = .ok pre ∧
            check ⟨P, K, .isStrictPrefixOf⟩ p k = .ok strict ∧
            (eq = true ↔ y = x) ∧ (pre = true ↔ y.components <+: x.components) ∧
            (strict = true ↔ y.components <+: x.components ∧ y.length < x.length) ∧
            pre = (eq || strict) ∧ (eq && strict) = false := by
  have hpacket : P.template = packetTemplate := NameRegex.template_of_compile hP
  have hkey : K.template = keyTemplate := NameRegex.template_of_compile hK
  refine ⟨read_of_compile hP hK, check_of_not_match, fun c d hc hd => ⟨?_, ?_⟩⟩
  · intro rel e
    rw [check_eq_error_iff hc hd, hpacket, hkey]
  · intro x y hx hy
    have hcheck : ∀ rel, check ⟨P, K, rel⟩ p k = .ok (rel.check y x) := by
      intro rel
      rw [check_of_captures hc hd, hpacket, hkey, hx, hy]
      rfl
    exact ⟨_, _, _, hcheck .equal, hcheck .isPrefixOf, hcheck .isStrictPrefixOf,
      Name.Relation.check_equal_iff, Name.Relation.check_isPrefixOf_iff,
      Name.Relation.check_isStrictPrefixOf_iff, Name.Relation.check_isPrefixOf_eq y x,
      Name.Relation.check_equal_and_isStrictPrefixOf y x⟩

/-- The key in `/a/b/KEY/1` may sign what continues `/a/b`, but a template with a second group has
a fault for every relation. -/
theorem verdicts_agree_continued :
    let p : Name := ⟨[⟨[97]⟩, ⟨[98]⟩, ⟨[99]⟩]⟩
    let k : Name := ⟨[⟨[97]⟩, ⟨[98]⟩, ⟨[75, 69, 89]⟩, ⟨[49]⟩]⟩
    ∃ P K K' : NameRegex,
      NameRegex.compile false "^(<>*)$".toList "\\1".toList = .ok P ∧
      NameRegex.compile false "^(<>*)<KEY><>$".toList "\\1".toList = .ok K ∧
      NameRegex.compile false "^(<>*)<KEY><>$".toList "\\2".toList = .ok K' ∧
      check ⟨P, K, .equal⟩ p k = .ok false ∧ check ⟨P, K, .isPrefixOf⟩ p k = .ok true ∧
      check ⟨P, K, .isStrictPrefixOf⟩ p k = .ok true ∧
      (∀ rel, check ⟨P, K', rel⟩ p k = .error (.backrefOutOfRange 2 1)) ∧
      ∀ rel, check ⟨P, K', rel⟩ p p = .ok false := by
  intro p k
  obtain ⟨P, K, K', c, d, d', hP, hK, hK', hc, hd, hd', hx, hy, hfault, hnone⟩ :
      ∃ (P K K' : NameRegex) (c d d' : Captures),
      NameRegex.compile false "^(<>*)$".toList "\\1".toList = .ok P ∧
      NameRegex.compile false "^(<>*)<KEY><>$".toList "\\1".toList = .ok K ∧
      NameRegex.compile false "^(<>*)<KEY><>$".toList "\\2".toList = .ok K' ∧
      P.captures p = some c ∧ K.captures k = some d ∧ K'.captures k = some d' ∧
      c.expand "\\1".toList = .ok p ∧ d.expand "\\1".toList = .ok ⟨[⟨[97]⟩, ⟨[98]⟩]⟩ ∧
      d'.expand "\\2".toList = .error (.backrefOutOfRange 2 1) ∧ K'.isMatch p = false :=
    ⟨_, _, _, _, _, _, by cbv, by cbv, by cbv, by cbv, by cbv, by cbv, by cbv, by cbv, by cbv,
      by cbv⟩
  obtain ⟨-, -, hmatched⟩ := verdicts_agree hP hK p k
  obtain ⟨eq, pre, strict, hequal, hpre, hstrict, heqIff, hpreIff, hstrictIff, -⟩ :=
    (hmatched c d hc hd).2 p _ hx hy
  have heq : eq = false := by
    apply Bool.eq_false_iff.mpr
    exact fun h => absurd (heqIff.mp h) (by decide)
  rw [heq] at hequal
  rw [hpreIff.mpr (by decide)] at hpre
  rw [hstrictIff.mpr (by decide)] at hstrict
  refine ⟨P, K, K', hP, hK, hK', hequal, hpre, hstrict, fun rel => ?_, ?_⟩
  · obtain ⟨-, -, hmatched'⟩ := verdicts_agree hP hK' p k
    exact ((hmatched' c d' hc hd').1 rel _).mpr (.inr ⟨⟨p, hx⟩, hfault⟩)
  · exact (verdicts_agree hP hK' p p).2.1 (.inr hnone)

end TrustRule

end NamePattern
