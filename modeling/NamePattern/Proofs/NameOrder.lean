import Mathlib
import NamePattern.Proofs.SubNames

/-! How the order of names and the relation of a prefix to the names that continue it go together:
names that continue the same name stand together, behind it. -/
namespace NamePattern

section Lists

variable {α : Type} [Ord α] {p a b c : List α}

theorem compare_append_left [Std.ReflOrd α] (x a b : List α) :
    compare (x ++ a) (x ++ b) = compare a b := by
  induction x with
  | nil => rfl
  | cons y x ih =>
    have hself : compare y y = .eq := Std.ReflOrd.compare_self
    rw [List.cons_append, List.cons_append, List.compare_cons_cons, hself, ih]
    rfl

theorem isLE_of_isPrefix [Std.ReflOrd α] (h : p <+: a) : (compare p a).isLE = true := by
  obtain ⟨s, rfl⟩ := h
  have hcompare : compare p (p ++ s) = compare [] s := by
    simpa using compare_append_left p [] s
  rw [hcompare]
  exact List.isLE_compare_nil_left

/-- What stands between two lists with the same beginning has this beginning. The two elements at
each place of it are the least and the greatest that can stand there between them. -/
theorem prefix_of_between [Std.TransOrd α] [Std.LawfulEqOrd α] (ha : p <+: a) (hc : p <+: c)
    (hab : (compare a b).isLE = true) (hbc : (compare b c).isLE = true) : p <+: b := by
  induction p generalizing a b c with
  | nil => exact List.nil_prefix
  | cons x p ih =>
    obtain ⟨s, rfl⟩ := ha
    obtain ⟨t, rfl⟩ := hc
    cases b with
    | nil => cases hab
    | cons y b =>
      rw [List.cons_append, List.compare_cons_cons, Ordering.isLE_then_iff_and] at hab hbc
      have hxy : x = y :=
        Std.LawfulEqOrd.eq_of_compare (Std.OrientedCmp.isLE_antisymm hab.1 hbc.1)
      have hself : compare x x ≠ .lt := by
        rw [Std.ReflOrd.compare_self]
        decide
      rw [← hxy] at hab hbc
      have htail : p <+: b := ih (List.prefix_append p s) (List.prefix_append p t)
        (hab.2.resolve_left hself) (hbc.2.resolve_left hself)
      exact hxy ▸ List.cons_prefix_cons.mpr ⟨rfl, htail⟩

end Lists

instance : Std.TransOrd Component where
  eq_swap {a b} := Std.OrientedOrd.eq_swap (a := a.bytes) (b := b.bytes)
  isLE_trans {a b c} := Std.TransOrd.isLE_trans (a := a.bytes) (b := b.bytes) (c := c.bytes)

instance : Std.LawfulEqOrd Component where
  compare_self {a} := Std.ReflOrd.compare_self (a := a.bytes)
  eq_of_compare h := congrArg Component.mk (Std.LawfulEqOrd.eq_of_compare h)

namespace Name

instance : Std.TransOrd Name where
  eq_swap {a b} := Std.OrientedOrd.eq_swap (a := a.components) (b := b.components)
  isLE_trans {a b c} :=
    Std.TransOrd.isLE_trans (a := a.components) (b := b.components) (c := c.components)

instance : Std.LawfulEqOrd Name where
  compare_self {a} := Std.ReflOrd.compare_self (a := a.components)
  eq_of_compare h := congrArg Name.mk (Std.LawfulEqOrd.eq_of_compare h)

instance : LE Name := .ofOrd Name

variable {a b c p : Name}

theorem le_iff : a ≤ b ↔ (compare a.components b.components).isLE = true := Iff.rfl

theorem isPrefixOf_refl (a : Name) : a.isPrefixOf a = true := isPrefixOf_iff.mpr List.prefix_rfl

theorem isPrefixOf_trans (hab : a.isPrefixOf b = true) (hbc : b.isPrefixOf c = true) :
    a.isPrefixOf c = true :=
  isPrefixOf_iff.mpr ((isPrefixOf_iff.mp hab).trans (isPrefixOf_iff.mp hbc))

theorem isPrefixOf_antisymm (hab : a.isPrefixOf b = true) (hba : b.isPrefixOf a = true) : a = b := by
  have hle : b.length ≤ a.length := (isPrefixOf_iff.mp hba).length_le
  have hcomponents : a.components = b.components := (isPrefixOf_iff.mp hab).eq_of_length_le hle
  exact congrArg Name.mk hcomponents

theorem le_of_isPrefixOf (h : p.isPrefixOf a = true) : p ≤ a :=
  le_iff.mpr (isLE_of_isPrefix (isPrefixOf_iff.mp h))

/-- The names that continue a name are contiguous. -/
theorem isPrefixOf_of_between (ha : p.isPrefixOf a = true) (hc : p.isPrefixOf c = true)
    (hab : a ≤ b) (hbc : b ≤ c) : p.isPrefixOf b = true := by
  apply isPrefixOf_iff.mpr
  exact prefix_of_between (isPrefixOf_iff.mp ha) (isPrefixOf_iff.mp hc) hab hbc

theorem append_le_append_iff (x a b : Name) : x ++ a ≤ x ++ b ↔ a ≤ b := by
  rw [le_iff, le_iff, append_eq, append_eq, compare_append_left]

/-- Being a prefix is a partial order with the empty name at its bottom. The order of names is total
and agrees with equality. A name comes before the names that continue it, these are contiguous, and
the order of two names stays the same behind a third one. -/
theorem prefixes_in_order :
    IsPartialOrder Name (fun p n => p.isPrefixOf n = true) ∧
    (∀ n : Name, empty.isPrefixOf n = true) ∧
    Std.IsLinearOrder Name ∧
    (∀ a b : Name, (compare a b = .eq ↔ a = b) ∧ compare b a = (compare a b).swap) ∧
    (∀ p n : Name, p.isPrefixOf n = true → p ≤ n) ∧
    (∀ p a b c : Name, p.isPrefixOf a = true → p.isPrefixOf c = true → a ≤ b → b ≤ c →
      p.isPrefixOf b = true) ∧
    ∀ x a b : Name, a ≤ b ↔ x ++ a ≤ x ++ b := by
  have hpartial : IsPartialOrder Name (fun p n => p.isPrefixOf n = true) := {
    refl := isPrefixOf_refl
    trans := fun _ _ _ => isPrefixOf_trans
    antisymm := fun _ _ => isPrefixOf_antisymm }
  have hempty (n : Name) : empty.isPrefixOf n = true := isPrefixOf_iff.mpr List.nil_prefix
  have hcompare (a b : Name) : (compare a b = .eq ↔ a = b) ∧ compare b a = (compare a b).swap :=
    ⟨Std.compare_eq_iff_eq, Std.OrientedOrd.eq_swap⟩
  exact ⟨hpartial, hempty, .of_ord, hcompare, fun _ _ => le_of_isPrefixOf,
    fun _ _ _ _ => isPrefixOf_of_between, fun x a b => (append_le_append_iff x a b).symm⟩

/-- All names that begin with the component `a` come before the name of the component `a` with a zero
byte behind it, however great the bytes are that follow in them. -/
theorem prefixes_in_order_bytes :
    let p : Name := ⟨[⟨[97]⟩]⟩
    let b : Name := ⟨[⟨[97]⟩, ⟨[255]⟩]⟩
    let c : Name := ⟨[⟨[97]⟩, ⟨[255, 0]⟩]⟩
    p.isPrefixOf p = true ∧ p.isPrefixOf c = true ∧ p ≤ b ∧ b ≤ c ∧ p.isPrefixOf b = true ∧
      p ≤ c ∧ ¬(⟨[⟨[97, 0]⟩]⟩ : Name) ≤ c := by
  intro p b c
  have hp : p.isPrefixOf p = true := by decide
  have hc : p.isPrefixOf c = true := by decide
  have hpb : p ≤ b := le_iff.mpr (by decide)
  have hbc : b ≤ c := le_iff.mpr (by decide)
  have hbehind : ¬(⟨[⟨[97, 0]⟩]⟩ : Name) ≤ c := le_iff.not.mpr (by decide)
  obtain ⟨-, -, -, -, hle, hbetween, -⟩ := prefixes_in_order
  exact ⟨hp, hc, hpb, hbc, hbetween p p b c hp hc hpb hbc, hle p c hc, hbehind⟩

end Name

end NamePattern
