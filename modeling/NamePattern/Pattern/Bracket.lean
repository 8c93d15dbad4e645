/-! Brackets in patterns. -/
namespace NamePattern.Bracket

/-- The bracket that closes the one a pattern item opens with. -/
def closing? : Char → Option Char
  | '(' => some ')'
  | '<' => some '>'
  | '[' => some ']'
  | _ => none

/-- Cuts a text at the bracket that closes one opened before it: what is inside, and what follows
the closing bracket. `depth` more brackets are open. Other kinds of brackets do not count. -/
def cut? (opening closing : Char) : Nat → List Char → Option (List Char × List Char)
  | _, [] => none
  | depth, c :: s =>
    if c = opening then
      (cut? opening closing (depth + 1) s).map fun (inside, rest) => (c :: inside, rest)
    else if c = closing then
      match depth with
      | 0 => some ([], s)
      | depth + 1 =>
        (cut? opening closing depth s).map fun (inside, rest) => (c :: inside, rest)
    else (cut? opening closing depth s).map fun (inside, rest) => (c :: inside, rest)

/-- A counter of brackets has 31 bits, and overflows where it would reach this number. -/
def counterLimit : Nat := 2147483648

/-- The opening brackets of one kind in a text can be counted, with one in front of it. -/
def Countable (opening : Char) (s : List Char) : Prop := s.count opening + 1 < counterLimit

instance (opening : Char) (s : List Char) : Decidable (Countable opening s) :=
  inferInstanceAs (Decidable (_ < _))

/-- Cuts a text at the bracket that closes the one in front of it, if the brackets that are opened up
to there can be counted. -/
def close? (opening closing : Char) (s : List Char) : Option (List Char × List Char) :=
  (cut? opening closing 0 s).filter fun (inside, _) => Countable opening inside

/-- A cut divides the text at one closing bracket. -/
theorem append_of_cut? {o c : Char} {depth : Nat} {s inside rest : List Char}
    (h : cut? o c depth s = some (inside, rest)) : inside ++ c :: rest = s := by
  induction s generalizing depth inside with
  | nil => simp [cut?] at h
  | cons d s ih =>
    simp only [cut?] at h
    split at h
    · obtain ⟨⟨i, r⟩, hc, he⟩ := Option.map_eq_some_iff.mp h
      obtain ⟨rfl, rfl⟩ := Prod.mk.inj he
      rw [List.cons_append, ih hc]
    · split at h
      · next hd =>
        cases depth with
        | zero =>
          obtain ⟨rfl, rfl⟩ := Prod.mk.inj (Option.some.inj h)
          rw [hd, List.nil_append]
        | succ depth =>
          obtain ⟨⟨i, r⟩, hc, he⟩ := Option.map_eq_some_iff.mp h
          obtain ⟨rfl, rfl⟩ := Prod.mk.inj he
          rw [List.cons_append, ih hc]
      · obtain ⟨⟨i, r⟩, hc, he⟩ := Option.map_eq_some_iff.mp h
        obtain ⟨rfl, rfl⟩ := Prod.mk.inj he
        rw [List.cons_append, ih hc]

theorem length_of_cut? {o c : Char} {depth : Nat} {s inside rest : List Char}
    (h : cut? o c depth s = some (inside, rest)) : inside.length + rest.length < s.length := by
  rw [← append_of_cut? h]
  simp

theorem close?_eq_some_iff_cut? {o c : Char} {s inside rest : List Char} :
    close? o c s = some (inside, rest) ↔ cut? o c 0 s = some (inside, rest) ∧ Countable o inside := by
  rw [close?, Option.filter_eq_some_iff, decide_eq_true_iff]

theorem append_of_close? {o c : Char} {s inside rest : List Char}
    (h : close? o c s = some (inside, rest)) : inside ++ c :: rest = s :=
  append_of_cut? (close?_eq_some_iff_cut?.mp h).1

theorem length_of_close? {o c : Char} {s inside rest : List Char}
    (h : close? o c s = some (inside, rest)) : inside.length + rest.length < s.length :=
  length_of_cut? (close?_eq_some_iff_cut?.mp h).1

end NamePattern.Bracket
