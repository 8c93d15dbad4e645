/-! The bytes that write a text, and positions in a text counted in them. -/
namespace NamePattern.Text

/-- The bytes of a text in UTF-8. -/
def utf8 (s : List Char) : List UInt8 := s.flatMap String.utf8EncodeChar

/-- How many bytes write a text. -/
def utf8Length (s : List Char) : Nat := s.foldr (fun c n => c.utf8Size + n) 0

/-- The two parts of a text before and after byte `n`; there are none past the end of the text
or inside a character. -/
def splitAtByte? : Nat → List Char → Option (List Char × List Char)
  | 0, s => some ([], s)
  | _ + 1, [] => none
  | n + 1, c :: s =>
    if c.utf8Size ≤ n + 1 then
      (splitAtByte? (n + 1 - c.utf8Size) s).map fun (before, after) => (c :: before, after)
    else none

@[simp] theorem utf8_nil : utf8 [] = [] := rfl

@[simp] theorem utf8_append (s t : List Char) : utf8 (s ++ t) = utf8 s ++ utf8 t := by
  simp [utf8]

@[simp] theorem utf8Length_append (s t : List Char) :
    utf8Length (s ++ t) = utf8Length s + utf8Length t := by
  induction s with
  | nil => simp [utf8Length]
  | cons c s ih =>
    have : utf8Length (c :: (s ++ t)) = c.utf8Size + utf8Length (s ++ t) := rfl
    have : utf8Length (c :: s) = c.utf8Size + utf8Length s := rfl
    rw [List.cons_append]
    omega

/-- Cutting a text never loses or reorders characters. -/
theorem append_of_splitAtByte? {n : Nat} {s a b : List Char}
    (h : splitAtByte? n s = some (a, b)) : a ++ b = s := by
  induction s generalizing n a with
  | nil =>
    cases n with
    | zero => simp_all [splitAtByte?]
    | succ n => simp [splitAtByte?] at h
  | cons c s ih =>
    cases n with
    | zero => simp_all [splitAtByte?]
    | succ n =>
      simp only [splitAtByte?] at h
      split at h
      · obtain ⟨⟨a', b'⟩, hs, heq⟩ := Option.map_eq_some_iff.mp h
        obtain ⟨rfl, rfl⟩ := Prod.mk.inj heq
        rw [List.cons_append, ih hs]
      · simp at h

end NamePattern.Text
