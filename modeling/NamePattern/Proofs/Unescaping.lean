import Mathlib.Data.List.Forall2
import NamePattern.Proofs.CanonicalForm

/-! Unescaping takes a byte from each of its spellings, and leaves what follows them alone. -/
namespace NamePattern.Component

/-- A hexadecimal digit, in upper or lower case. -/
def Digit (x : Fin 16) (d : UInt8) : Prop :=
  d = (upperHex x).toUInt8 ∨ d = (upperHex x).toLower.toUInt8

instance (x : Fin 16) (d : UInt8) : Decidable (Digit x d) := inferInstanceAs (Decidable (_ ∨ _))

/-- The spellings of a byte: the byte itself, unless it is `%`, and `%` with its two digits. -/
inductive Spelling : UInt8 → List UInt8 → Prop
  | plain {b : UInt8} (h : b ≠ 37) : Spelling b [b]
  | escape {x y : Fin 16} {d e : UInt8} (hd : Digit x d) (he : Digit y e) :
      Spelling (.ofNat (16 * x + y)) [37, d, e]

theorem hexValue?_of_digit {x : Fin 16} {d : UInt8} (h : Digit x d) :
    hexValue? d = some (.ofNat x) := by
  obtain rfl | rfl := h
  · revert x
    decide
  · revert x
    decide

/-- The sum is that of numbers, since two digits write no more than one byte. -/
theorem ofNat_digits (x y : Fin 16) :
    UInt8.ofNat x * 16 + .ofNat y = UInt8.ofNat (16 * x + y) := by
  revert x y
  decide +kernel

theorem Spelling.unescape_append {b : UInt8} {s : List UInt8} (h : Spelling b s)
    (rest : List UInt8) : unescape (s ++ rest) = b :: unescape rest := by
  cases h with
  | plain hb => exact unescape_cons_of_ne hb rest
  | @escape x y d e hd he =>
    have hescape : [37, d, e] ++ rest = 37 :: d :: e :: rest := rfl
    rw [hescape, unescape, if_pos rfl, hexValue?_of_digit hd, hexValue?_of_digit he]
    simp only [ofNat_digits]

/-- By induction on the bytes. What the spellings of the others decode to is looked at no more. -/
theorem unescape_spellings_append {bytes : List UInt8} {spellings : List (List UInt8)}
    (h : List.Forall₂ Spelling bytes spellings) (rest : List UInt8) :
    unescape (spellings.flatten ++ rest) = bytes ++ unescape rest := by
  induction h with
  | nil => rfl
  | cons hb _ ih =>
    rw [List.flatten_cons, List.append_assoc, hb.unescape_append, ih, List.cons_append]

theorem length_unescape_le (s : List UInt8) : (unescape s).length ≤ s.length := by
  fun_induction unescape s with
  | case1 h l rest x hx y hy ih =>
    simp only [List.length_cons]
    omega
  | case2 h l rest _ ih => simpa only [List.length_cons, Nat.add_le_add_iff_right] using ih
  | case3 b h l rest _ ih => simpa only [List.length_cons, Nat.add_le_add_iff_right] using ih
  | case4 => exact Nat.le_refl _

/-- However each byte of a value is spelled, its spellings decode to the value, and in front of any
other text they do so too: that text is decoded as it is on its own. No text becomes longer. -/
theorem unescape_spellings :
    (∀ bytes spellings, List.Forall₂ Spelling bytes spellings →
      unescape spellings.flatten = bytes ∧
        ∀ rest, unescape (spellings.flatten ++ rest) = bytes ++ unescape rest) ∧
    ∀ s, (unescape s).length ≤ s.length := by
  refine ⟨fun bytes spellings h => ⟨?_, unescape_spellings_append h⟩, length_unescape_le⟩
  have hnil : unescape [] = [] := rfl
  have happend := unescape_spellings_append h []
  rwa [hnil, List.append_nil, List.append_nil] at happend

/-- The bytes of `%41/` in four ways of spelling, before a `%` that is cut off. A `%` that has been
decoded is not read again. -/
theorem unescape_spellings_percent :
    let spellings := [[37, 50, 53], [52], [37, 51, 49], [37, 50, 102]]
    List.Forall₂ Spelling [37, 52, 49, 47] spellings ∧
      spellings.flatten = Text.utf8 "%254%31%2f".toList ∧
      unescape (Text.utf8 "%254%31%2f%4".toList) = Text.utf8 "%41/%4".toList := by
  intro spellings
  have hpercent : Spelling 37 [37, 50, 53] := .escape (x := 2) (y := 5) (by decide) (by decide)
  have hone : Spelling 49 [37, 51, 49] := .escape (x := 3) (y := 1) (by decide) (by decide)
  have hslash : Spelling 47 [37, 50, 102] := .escape (x := 2) (y := 15) (by decide) (by decide)
  have hspell : List.Forall₂ Spelling [37, 52, 49, 47] spellings :=
    .cons hpercent (.cons (.plain (by decide)) (.cons hone (.cons hslash .nil)))
  have hdecode := (unescape_spellings.1 _ _ hspell).2 [37, 52]
  exact ⟨hspell, by decide, hdecode⟩

end NamePattern.Component
