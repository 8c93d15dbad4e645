import NamePattern.Pattern.Basic
import NamePattern.Proofs.Balance
import NamePattern.Text.Utf8

/-! Positions in a text, counted in bytes. The ends of brackets and of quantifiers are looked for byte
by byte, and they are where the text is cut when it is read character by character. -/
namespace NamePattern

namespace Text

/-- The byte at a position. -/
def byte? (s : List Char) (i : Nat) : Option UInt8 := (utf8 s)[i]?

/-- The part of a text from one position up to another. There is none if they are in the wrong order,
past the end or inside a character. -/
def slice? (s : List Char) (start stop : Nat) : Option (List Char) := do
  let (front, _) ← splitAtByte? stop s
  let (_, part) ← splitAtByte? start front
  return part

/-- The position of the first occurrence of a character. -/
def find? (d : Char) : List Char → Option Nat
  | [] => none
  | c :: s => if c = d then some 0 else (find? d s).map (c.utf8Size + ·)

variable {front s mid back : List Char} {c d : Char} {i : Nat}

@[simp] theorem utf8Length_nil : utf8Length [] = 0 := rfl

@[simp] theorem utf8Length_cons (c : Char) (s : List Char) :
    utf8Length (c :: s) = c.utf8Size + utf8Length s := rfl

theorem utf8Length_pos (h : s ≠ []) : 0 < utf8Length s := by
  obtain ⟨c, t, hs⟩ := List.exists_cons_of_ne_nil h
  have hpos := c.utf8Size_pos
  rw [hs, utf8Length_cons]
  omega

theorem length_utf8 (s : List Char) : (utf8 s).length = utf8Length s := by
  induction s with
  | nil => rfl
  | cons c s ih =>
    have hcons : utf8 (c :: s) = String.utf8EncodeChar c ++ utf8 s := rfl
    rw [hcons, List.length_append, String.length_utf8EncodeChar, ih, utf8Length_cons]

theorem toNat_toUInt8_of_ascii (hd : d.val.toNat ≤ 127) : d.toUInt8.toNat = d.val.toNat := by
  have hmod : d.toUInt8.toNat = d.val.toNat % 2 ^ 8 := UInt32.toNat_toUInt8 d.val
  omega

theorem utf8EncodeChar_of_ascii (hd : d.val.toNat ≤ 127) : String.utf8EncodeChar d = [d.toUInt8] := by
  have hbyte : d.toUInt8 = UInt8.ofNat d.val.toNat := by
    rw [← toNat_toUInt8_of_ascii hd, UInt8.ofNat_toNat]
  rw [hbyte]
  unfold String.utf8EncodeChar
  exact if_pos hd

theorem utf8Size_of_ascii (hd : d.val.toNat ≤ 127) : d.utf8Size = 1 := by
  rw [← String.length_utf8EncodeChar, utf8EncodeChar_of_ascii hd]
  rfl

/-- The bytes of a character beyond ASCII are beyond ASCII too. -/
theorem le_of_mem_utf8EncodeChar (hc : 127 < c.val.toNat) {b : UInt8}
    (hb : b ∈ String.utf8EncodeChar c) : 128 ≤ b.toNat := by
  unfold String.utf8EncodeChar at hb
  dsimp only at hb
  rw [if_neg (Nat.not_le_of_lt hc)] at hb
  split at hb
  · simp only [List.mem_cons, List.not_mem_nil, or_false] at hb
    obtain rfl | rfl := hb
    all_goals simp only [UInt8.toNat_ofNat']; omega
  · split at hb
    · simp only [List.mem_cons, List.not_mem_nil, or_false] at hb
      obtain rfl | rfl | rfl := hb
      all_goals simp only [UInt8.toNat_ofNat']; omega
    · simp only [List.mem_cons, List.not_mem_nil, or_false] at hb
      obtain rfl | rfl | rfl | rfl := hb
      all_goals simp only [UInt8.toNat_ofNat']; omega

/-- An ASCII byte occurs in the bytes of its own character only. -/
theorem ne_of_mem_utf8EncodeChar (hd : d.val.toNat ≤ 127) (hne : c ≠ d) {b : UInt8}
    (hb : b ∈ String.utf8EncodeChar c) : b ≠ d.toUInt8 := by
  have hvalue := toNat_toUInt8_of_ascii hd
  intro heq
  by_cases hc : c.val.toNat ≤ 127
  · rw [utf8EncodeChar_of_ascii hc, List.mem_singleton] at hb
    have hvalue' := toNat_toUInt8_of_ascii hc
    have hsame : c.val.toNat = d.val.toNat := by
      rw [← hvalue, ← hvalue', ← hb, heq]
    exact hne (Char.ext (UInt32.toNat_inj.mp hsame))
  · have hle := le_of_mem_utf8EncodeChar (Nat.lt_of_not_le hc) hb
    rw [heq, hvalue] at hle
    omega

theorem splitAtByte?_append (front s : List Char) :
    splitAtByte? (utf8Length front) (front ++ s) = some (front, s) := by
  induction front with
  | nil =>
    rw [utf8Length_nil, List.nil_append]
    unfold splitAtByte?
    rfl
  | cons c front ih =>
    obtain ⟨n, hn⟩ : ∃ n, utf8Length (c :: front) = n + 1 := by
      have hpos := c.utf8Size_pos
      exact ⟨utf8Length (c :: front) - 1, by rw [utf8Length_cons]; omega⟩
    have hle : c.utf8Size ≤ n + 1 := by
      rw [← hn, utf8Length_cons]
      exact Nat.le_add_right _ _
    have hrest : n + 1 - c.utf8Size = utf8Length front := by
      rw [← hn, utf8Length_cons, Nat.add_sub_cancel_left]
    rw [hn, List.cons_append, splitAtByte?, if_pos hle, hrest, ih]
    rfl

theorem slice?_append (front mid back : List Char) :
    slice? (front ++ mid ++ back) (utf8Length front) (utf8Length front + utf8Length mid) =
      some mid := by
  unfold slice?
  rw [← utf8Length_append, splitAtByte?_append]
  simp [splitAtByte?_append]

theorem slice?_cons (front s : List Char) (c : Char) :
    slice? (front ++ c :: s) (utf8Length front) (utf8Length front + c.utf8Size) = some [c] := by
  have hslice := slice?_append front [c] s
  rwa [List.append_assoc, List.singleton_append, utf8Length_cons, utf8Length_nil,
    Nat.add_zero] at hslice

/-- The part of a text behind an ASCII character. -/
theorem slice?_behind (hd : d.val.toNat ≤ 127) (front mid back : List Char) :
    slice? (front ++ d :: (mid ++ back)) (utf8Length front + 1)
      (utf8Length front + 1 + utf8Length mid) = some mid := by
  have hslice := slice?_append (front ++ [d]) mid back
  rwa [utf8Length_append, utf8Length_cons, utf8Length_nil, utf8Size_of_ascii hd,
    List.append_assoc, List.append_assoc, List.singleton_append] at hslice

/-- The rest of a text from the boundary of a character on. -/
theorem slice?_suffix (front s : List Char) :
    slice? (front ++ s) (utf8Length front) (utf8Length (front ++ s)) = some s := by
  have hslice := slice?_append front s []
  rwa [List.append_nil, ← utf8Length_append] at hslice

theorem length_of_slice? {start stop : Nat} (h : slice? s start stop = some mid) :
    mid.length ≤ s.length := by
  unfold slice? at h
  obtain ⟨⟨front, back⟩, hfront, h⟩ := Option.bind_eq_some_iff.mp h
  obtain ⟨⟨before, part⟩, hpart, h⟩ := Option.bind_eq_some_iff.mp h
  have hmid : part = mid := Option.some.inj h
  rw [← append_of_splitAtByte? hfront, ← append_of_splitAtByte? hpart, hmid, List.length_append,
    List.length_append]
  omega

theorem byte?_append (front s : List Char) (i : Nat) :
    byte? (front ++ s) (utf8Length front + i) = (utf8 s)[i]? := by
  unfold byte?
  rw [utf8_append, ← length_utf8, List.getElem?_append_right (Nat.le_add_right _ _),
    Nat.add_sub_cancel_left]

/-- An ASCII byte at the boundary of a character is that character. -/
theorem byte?_eq_iff (hd : d.val.toNat ≤ 127) (front s : List Char) :
    byte? (front ++ s) (utf8Length front) = some d.toUInt8 ↔ s.head? = some d := by
  have hbyte := byte?_append front s 0
  rw [Nat.add_zero] at hbyte
  rw [hbyte]
  cases s with
  | nil => simp
  | cons c s =>
    have hcons : utf8 (c :: s) = String.utf8EncodeChar c ++ utf8 s := rfl
    rw [hcons, List.head?_cons, Option.some.injEq]
    constructor
    · intro h
      refine Decidable.byContradiction fun hne => ?_
      obtain ⟨b, bytes, hb⟩ := List.exists_cons_of_ne_nil (String.utf8EncodeChar_ne_nil (c := c))
      have hmem : b ∈ String.utf8EncodeChar c := hb ▸ List.mem_cons_self
      rw [hb] at h
      exact ne_of_mem_utf8EncodeChar hd hne hmem (Option.some.inj h)
    · intro h
      rw [h, utf8EncodeChar_of_ascii hd]
      rfl

/-- The last byte belongs to the last character. -/
theorem byte?_last (s : List Char) (d : Char) : ∃ b ∈ String.utf8EncodeChar d,
    byte? (s ++ [d]) (utf8Length (s ++ [d]) - 1) = some b := by
  have hpos := d.utf8Size_pos
  have hlt : d.utf8Size - 1 < (String.utf8EncodeChar d).length := by
    rw [String.length_utf8EncodeChar]
    omega
  have hindex : utf8Length (s ++ [d]) - 1 = utf8Length s + (d.utf8Size - 1) := by
    rw [utf8Length_append, utf8Length_cons, utf8Length_nil]
    omega
  have hutf8 : utf8 [d] = String.utf8EncodeChar d := List.append_nil _
  refine ⟨(String.utf8EncodeChar d)[d.utf8Size - 1], List.getElem_mem hlt, ?_⟩
  rw [hindex, byte?_append, hutf8, List.getElem?_eq_getElem hlt]

theorem byte?_isSome (front s : List Char) :
    (∃ b, byte? (front ++ s) (utf8Length front) = some b) ↔ s ≠ [] := by
  have hbyte := byte?_append front s 0
  rw [Nat.add_zero] at hbyte
  rw [hbyte]
  cases s with
  | nil => simp
  | cons c s =>
    obtain ⟨b, bytes, hb⟩ := List.exists_cons_of_ne_nil (String.utf8EncodeChar_ne_nil (c := c))
    have hcons : utf8 (c :: s) = String.utf8EncodeChar c ++ utf8 s := rfl
    rw [hcons, hb]
    simp

theorem find?_eq (d : Char) (s : List Char) : find? d s =
    match s.dropWhile (· != d) with
    | [] => none
    | _ :: _ => some (utf8Length (s.takeWhile (· != d))) := by
  induction s with
  | nil => rfl
  | cons c s ih =>
    by_cases hc : c = d
    · have hstop : ¬ (c != d) = true := by simpa using hc
      rw [find?, if_pos hc, List.dropWhile_cons_of_neg (p := (· != d)) hstop,
        List.takeWhile_cons_of_neg (p := (· != d)) hstop]
      rfl
    · have hgo : (c != d) = true := by simpa using hc
      rw [find?, if_neg hc, List.dropWhile_cons_of_pos (p := (· != d)) hgo,
        List.takeWhile_cons_of_pos (p := (· != d)) hgo, ih]
      split
      · rfl
      · simp

end Text

/-- Why reading by positions ends early: with an operation that has no result, such as a byte past the
end of a text, with a counter that has no next number, or with a fault of the pattern. -/
inductive Stop where
  | undefined
  | overflow
  | fault (e : CompileError)

/-- How reading by positions ends with a fault. -/
def Fault.stop : Fault → Stop
  | refused e => .fault e
  | overflow _ => .overflow

namespace Indexed

open NamePattern.Text (byte? slice? find? utf8 utf8Length)

/-- The result of an operation that may have none. -/
def demand {α : Type} : Option α → Except Stop α
  | some a => .ok a
  | none => .error .undefined

/-- The next number of a counter of brackets. -/
def count (n : Nat) : Except Stop Nat :=
  if n + 1 < Bracket.counterLimit then .ok (n + 1) else .error .overflow

/-- The position behind the bracket that closes those that are still open. -/
def closingEnd (text : List Char) (left right : UInt8) (opened closed index : Nat) :
    Except Stop Nat :=
  if closed < opened then
    match _h : byte? text index with
    | none => .error (.fault (.bracketMismatch text))
    | some b =>
      if b = left then do closingEnd text left right (← count opened) closed (index + 1)
      else if b = right then do closingEnd text left right opened (← count closed) (index + 1)
      else closingEnd text left right opened closed (index + 1)
  else .ok index
termination_by (utf8 text).length - index
decreasing_by
  all_goals
    have hlt : index < (utf8 text).length := (List.getElem?_eq_some_iff.mp _h).1
    omega

/-- The position behind the closing bracket where a text `s` is cut, if it is closed. In front of it
`opened` brackets have been counted. -/
def cutEnd (text : List Char) (start opened : Nat) (o : Char) (s : List Char)
    (cut : Option (List Char × List Char)) : Except Stop Nat :=
  if opened + ((cut.map Prod.fst).getD s).count o < Bracket.counterLimit then
    match cut with
    | none => .error (.fault (.bracketMismatch text))
    | some (inside, _) => .ok (start + utf8Length inside + 1)
  else .error .overflow

/-- The position behind the quantifier at a position, which may be empty. -/
def quantifierEnd (text : List Char) (index : Nat) : Except Stop Nat := do
  match byte? text index with
  | none => return index
  | some b =>
    if b = '+'.toUInt8 ∨ b = '?'.toUInt8 ∨ b = '*'.toUInt8 then return index + 1
    else if b = '{'.toUInt8 then
      let rest ← demand (slice? text index (utf8Length text))
      match find? '}' rest with
      | some close => return index + close + 1
      | none => throw (.fault (.missingRightBrace text))
    else return index

variable {text front s rest q inside : List Char} {o c d : Char} {opened closed index stop : Nat}

theorem bind_eq_ok {α β : Type} {x : Except Stop α} {f : α → Except Stop β} {w : β} :
    (x >>= f) = .ok w ↔ ∃ v, x = .ok v ∧ f v = .ok w := by
  cases x with
  | ok v =>
    refine ⟨fun h => ⟨v, rfl, h⟩, fun h => ?_⟩
    obtain ⟨v', hv, hw⟩ := h
    exact Except.ok.inj hv ▸ hw
  | error e =>
    refine ⟨fun h => ?_, fun h => ?_⟩
    · cases h
    · obtain ⟨v', hv, -⟩ := h
      cases hv

theorem bind_of_ok {α β : Type} {x : Except Stop α} {v : α} (h : x = .ok v)
    (f : α → Except Stop β) : (x >>= f) = f v := by
  rw [h]
  rfl

theorem bind_of_error {α β : Type} {x : Except Stop α} {e : Stop} (h : x = .error e)
    (f : α → Except Stop β) : (x >>= f) = .error e := by
  rw [h]
  rfl

theorem count_of_lt {n : Nat} (h : n + 1 < Bracket.counterLimit) : count n = .ok (n + 1) := if_pos h

theorem count_of_le {n : Nat} (h : Bracket.counterLimit ≤ n + 1) : count n = .error .overflow :=
  if_neg (Nat.not_lt_of_le h)

theorem closingEnd_byte {left right b : UInt8} (hopen : closed < opened)
    (hb : byte? text index = some b) :
    closingEnd text left right opened closed index =
      if b = left then do closingEnd text left right (← count opened) closed (index + 1)
      else if b = right then do closingEnd text left right opened (← count closed) (index + 1)
      else closingEnd text left right opened closed (index + 1) := by
  rw [closingEnd, if_pos hopen]
  split
  · next hnone => cases hnone.symm.trans hb
  · next b' hsome => cases hsome.symm.trans hb; rfl

theorem le_of_closingEnd {left right : UInt8}
    (h : closingEnd text left right opened closed index = .ok stop) : index ≤ stop := by
  fun_induction closingEnd text left right opened closed index with
  | case1 => cases h
  | case2 _ _ _ _ _ ih =>
    obtain ⟨n, -, h⟩ := bind_eq_ok.mp h
    exact Nat.le_of_succ_le (ih n h)
  | case3 _ _ _ _ _ _ ih =>
    obtain ⟨n, -, h⟩ := bind_eq_ok.mp h
    exact Nat.le_of_succ_le (ih n h)
  | case4 _ _ _ _ _ _ _ _ ih => exact Nat.le_of_succ_le (ih h)
  | case5 => exact Nat.le_of_eq (Except.ok.inj h)

/-- Bytes that are no brackets are passed over. -/
theorem closingEnd_skip {left right : UInt8} (hopen : closed < opened) (n index : Nat)
    (h : ∀ i < n, ∃ b, byte? text (index + i) = some b ∧ b ≠ left ∧ b ≠ right) :
    closingEnd text left right opened closed index =
      closingEnd text left right opened closed (index + n) := by
  induction n generalizing index with
  | zero => rfl
  | succ n ih =>
    obtain ⟨b, hb, hleft, hright⟩ := h 0 (Nat.succ_pos n)
    rw [Nat.add_zero] at hb
    rw [closingEnd_byte hopen hb, if_neg hleft, if_neg hright, ih]
    · rw [Nat.add_assoc, Nat.add_comm 1 n]
    · intro i hi
      obtain ⟨b', hb', hne⟩ := h (i + 1) (Nat.succ_lt_succ hi)
      refine ⟨b', ?_, hne⟩
      rw [← hb', Nat.add_assoc, Nat.add_comm 1 i]

/-- No byte of another character is a bracket. -/
theorem closingEnd_other (ho : o.val.toNat ≤ 127) (hc : c.val.toNat ≤ 127) (hdo : d ≠ o)
    (hdc : d ≠ c) (hopen : closed < opened) (front s : List Char) :
    closingEnd (front ++ d :: s) o.toUInt8 c.toUInt8 opened closed (utf8Length front) =
      closingEnd (front ++ d :: s) o.toUInt8 c.toUInt8 opened closed
        (utf8Length front + d.utf8Size) := by
  refine closingEnd_skip hopen d.utf8Size (utf8Length front) fun i hi => ?_
  have hcons : utf8 (d :: s) = String.utf8EncodeChar d ++ utf8 s := rfl
  have hi' : i < (String.utf8EncodeChar d).length := by rwa [String.length_utf8EncodeChar]
  have hmem : (String.utf8EncodeChar d)[i] ∈ String.utf8EncodeChar d := List.getElem_mem hi'
  refine ⟨(String.utf8EncodeChar d)[i], ?_, ?_, ?_⟩
  · rw [Text.byte?_append, hcons, List.getElem?_append_left hi', List.getElem?_eq_getElem hi']
  · exact Text.ne_of_mem_utf8EncodeChar ho hdo hmem
  · exact Text.ne_of_mem_utf8EncodeChar hc hdc hmem

theorem cutEnd_of_le (h : Bracket.counterLimit ≤ opened) (text : List Char) (start : Nat) (o : Char)
    (s : List Char) (cut : Option (List Char × List Char)) :
    cutEnd text start opened o s cut = .error .overflow :=
  if_neg (Nat.not_lt_of_le (Nat.le_add_right_of_le h))

/-- A bracket that is passed over is counted if it is an opening one. -/
theorem cutEnd_map (text : List Char) (start opened : Nat) (o d : Char) (s : List Char)
    (cut : Option (List Char × List Char)) :
    cutEnd text start opened o (d :: s) (cut.map fun (inside, rest) => (d :: inside, rest)) =
      cutEnd text (start + d.utf8Size) (opened + if d = o then 1 else 0) o s cut := by
  have hcount (t : List Char) :
      opened + (d :: t).count o = opened + (if d = o then 1 else 0) + t.count o := by
    rw [List.count_cons, Nat.add_comm (t.count o), Nat.add_assoc]
    simp only [beq_iff_eq]
  cases cut with
  | none => simp only [cutEnd, Option.map_none, Option.getD_none, hcount]
  | some parts =>
    have hend : start + utf8Length (d :: parts.1) + 1 =
        start + d.utf8Size + utf8Length parts.1 + 1 := by
      rw [Text.utf8Length_cons]
      omega
    simp only [cutEnd, Option.map_some, Option.getD_some, hcount, hend]

/-- The position behind the closing bracket is where a cut divides the text, by induction on the
text that is left. -/
theorem closingEnd_eq (ho : o.val.toNat ≤ 127) (hc : c.val.toNat ≤ 127) (hne : o ≠ c)
    (front s : List Char) (depth closed : Nat) (hlimit : closed + depth + 1 < Bracket.counterLimit) :
    closingEnd (front ++ s) o.toUInt8 c.toUInt8 (closed + depth + 1) closed (utf8Length front) =
      cutEnd (front ++ s) (utf8Length front) (closed + depth + 1) o s (Bracket.cut? o c depth s) := by
  have hopen : closed < closed + depth + 1 := by omega
  induction s generalizing front depth closed with
  | nil =>
    have hnone : byte? (front ++ []) (utf8Length front) = none := by
      have hbyte := Text.byte?_append front [] 0
      rwa [Nat.add_zero] at hbyte
    rw [closingEnd, if_pos hopen]
    split
    · exact (if_pos hlimit).symm
    · next b hsome => cases hsome.symm.trans hnone
  | cons d s ih =>
    have htext : front ++ d :: s = front ++ [d] ++ s := by simp
    have hlength : utf8Length (front ++ [d]) = utf8Length front + d.utf8Size := by simp
    by_cases hdo : d = o
    · have hb : byte? (front ++ d :: s) (utf8Length front) = some o.toUInt8 :=
        (Text.byte?_eq_iff ho front _).mpr (by rw [hdo]; rfl)
      have hsize : d.utf8Size = 1 := hdo ▸ Text.utf8Size_of_ascii ho
      have hcut : Bracket.cut? o c depth (d :: s) =
          (Bracket.cut? o c (depth + 1) s).map fun (inside, rest) => (d :: inside, rest) := by
        simp only [Bracket.cut?, if_pos hdo]
      rw [closingEnd_byte hopen hb, if_pos rfl, hcut, cutEnd_map, if_pos hdo]
      by_cases hnext : closed + depth + 1 + 1 < Bracket.counterLimit
      · have hrest := ih (front ++ [d]) (depth + 1) closed hnext (by omega)
        rw [← htext, hlength, hsize] at hrest
        rw [bind_of_ok (count_of_lt hnext), hsize]
        exact hrest
      · have hle := Nat.le_of_not_lt hnext
        rw [bind_of_error (count_of_le hle), cutEnd_of_le hle]
    by_cases hdc : d = c
    · have hb : byte? (front ++ d :: s) (utf8Length front) = some c.toUInt8 :=
        (Text.byte?_eq_iff hc front _).mpr (by rw [hdc]; rfl)
      have hsize : d.utf8Size = 1 := hdc ▸ Text.utf8Size_of_ascii hc
      have hbytes : c.toUInt8 ≠ o.toUInt8 := by
        refine Text.ne_of_mem_utf8EncodeChar ho hne.symm ?_
        rw [Text.utf8EncodeChar_of_ascii hc]
        exact List.mem_singleton_self _
      -- No more brackets are closed than have been opened, so that their counter never overflows.
      have hnext : closed + 1 < Bracket.counterLimit := by omega
      rw [closingEnd_byte hopen hb, if_neg hbytes, if_pos rfl, bind_of_ok (count_of_lt hnext)]
      cases depth with
      | zero =>
        have hcut : Bracket.cut? o c 0 (d :: s) = some ([], s) := by
          simp only [Bracket.cut?, if_neg hdo, if_pos hdc]
        rw [hcut, closingEnd, if_neg (Nat.lt_irrefl _)]
        exact (if_pos hlimit).symm
      | succ depth =>
        have hcut : Bracket.cut? o c (depth + 1) (d :: s) =
            (Bracket.cut? o c depth s).map fun (inside, rest) => (d :: inside, rest) := by
          simp only [Bracket.cut?, if_neg hdo, if_pos hdc]
        have hcount : closed + (depth + 1) + 1 = closed + 1 + depth + 1 := by omega
        have hrest := ih (front ++ [d]) depth (closed + 1) (by omega) (by omega)
        rw [← htext, hlength] at hrest
        rw [hcut, cutEnd_map, if_neg hdo, Nat.add_zero, hcount, ← hrest, hsize]
    · -- The search passes over all bytes of another character.
      have hcut : Bracket.cut? o c depth (d :: s) =
          (Bracket.cut? o c depth s).map fun (inside, rest) => (d :: inside, rest) := by
        simp only [Bracket.cut?, if_neg hdo, if_neg hdc]
      have hrest := ih (front ++ [d]) depth closed hlimit hopen
      rw [← htext, hlength] at hrest
      rw [closingEnd_other ho hc hdo hdc hopen, hcut, cutEnd_map, if_neg hdo, Nat.add_zero, ← hrest]

/-- One bracket is counted where the search begins. -/
theorem cutEnd_close (text : List Char) (start : Nat) (o c : Char) (s : List Char) :
    cutEnd text start 1 o s (Bracket.cut? o c 0 s) =
      match Bracket.close? o c s with
      | none => .error (Fault.unclosed o s text).stop
      | some (inside, _) => .ok (start + utf8Length inside + 1) := by
  have hlimit (t : List Char) :
      1 + t.count o < Bracket.counterLimit ↔ Bracket.Countable o t := by
    rw [Nat.add_comm]
    exact Iff.rfl
  unfold cutEnd
  cases hcut : Bracket.cut? o c 0 s with
  | none =>
    have hclose : Bracket.close? o c s = none := by rw [Bracket.close?, hcut, Option.filter_none]
    rw [hclose]
    by_cases hcountable : Bracket.Countable o s
    · rw [Fault.unclosed_of_countable hcountable]
      exact if_pos ((hlimit s).mpr hcountable)
    · rw [Fault.unclosed_of_not_countable hcountable]
      exact if_neg fun h => hcountable ((hlimit s).mp h)
  | some parts =>
    by_cases hcountable : Bracket.Countable o parts.1
    · have hclose := Bracket.close?_eq_some_iff_cut?.mpr ⟨hcut, hcountable⟩
      rw [hclose]
      exact if_pos ((hlimit parts.1).mpr hcountable)
    · have hclose : Bracket.close? o c s = none := by
        refine Bracket.close?_eq_none_iff.mpr fun inside rest hparts => ?_
        cases hcut.symm.trans hparts
        exact hcountable
      rw [hclose, Bracket.unclosed_of_cut? hcut hcountable]
      exact if_neg fun h => hcountable ((hlimit parts.1).mp h)

theorem ascii_of_closing? (h : Bracket.closing? o = some c) :
    o.val.toNat ≤ 127 ∧ c.val.toNat ≤ 127 := by
  obtain ⟨ho, hc⟩ | ⟨ho, hc⟩ | ⟨ho, hc⟩ := Bracket.closing?_cases h
  · rw [ho, hc]
    decide
  · rw [ho, hc]
    decide
  · rw [ho, hc]
    decide

theorem length_enclosed (h : Bracket.closing? o = some c) (inside : List Char) :
    utf8Length (o :: inside ++ [c]) = 1 + utf8Length inside + 1 := by
  obtain ⟨ho, hc⟩ := ascii_of_closing? h
  rw [List.cons_append, Text.utf8Length_cons, Text.utf8Length_append, Text.utf8Length_cons,
    Text.utf8Length_nil, Text.utf8Size_of_ascii ho, Text.utf8Size_of_ascii hc, Nat.add_assoc]

/-- The closing bracket of the one at a position. -/
theorem closingEnd_opened (h : Bracket.closing? o = some c) (front s : List Char) :
    closingEnd (front ++ o :: s) o.toUInt8 c.toUInt8 1 0 (utf8Length front + 1) =
      match Bracket.close? o c s with
      | none => .error (Fault.unclosed o s (front ++ o :: s)).stop
      | some (inside, _) => .ok (utf8Length front + 1 + utf8Length inside + 1) := by
  obtain ⟨ho, hc⟩ := ascii_of_closing? h
  have hend := closingEnd_eq ho hc (Bracket.ne_of_closing? h) (front ++ [o]) s 0 0 (by decide)
  have hlength : utf8Length (front ++ [o]) = utf8Length front + 1 := by
    rw [Text.utf8Length_append, Text.utf8Length_cons, Text.utf8Length_nil,
      Text.utf8Size_of_ascii ho]
  rw [hlength, List.append_assoc, List.singleton_append] at hend
  rw [← cutEnd_close]
  exact hend

/-- A byte at the boundary of a character tells which ASCII character is there. -/
theorem byte_eq_iff {b : UInt8} (hb : byte? (front ++ c :: s) (utf8Length front) = some b)
    (hd : d.val.toNat ≤ 127) : b = d.toUInt8 ↔ c = d := by
  have hbyte := Text.byte?_eq_iff hd front (c :: s)
  rw [hb, List.head?_cons, Option.some.injEq, Option.some.injEq] at hbyte
  exact hbyte

theorem quantifierEnd_brace (front s : List Char) :
    quantifierEnd (front ++ '{' :: s) (utf8Length front) =
      match Text.find? '}' s with
      | none => .error (.fault (.missingRightBrace (front ++ '{' :: s)))
      | some close => .ok (utf8Length front + close + 2) := by
  have hb : byte? (front ++ '{' :: s) (utf8Length front) = some '{'.toUInt8 :=
    (Text.byte?_eq_iff (by decide) front _).mpr rfl
  have hrest : Text.find? '}' ('{' :: s) = (Text.find? '}' s).map (1 + ·) := rfl
  unfold quantifierEnd
  rw [hb]
  dsimp only
  rw [if_neg (by decide), if_pos rfl, Text.slice?_suffix]
  change (match Text.find? '}' ('{' :: s) with
    | some close => Except.ok (utf8Length front + close + 1)
    | none => Except.error (Stop.fault (.missingRightBrace (front ++ '{' :: s)))) = _
  rw [hrest]
  cases Text.find? '}' s with
  | none => rfl
  | some close =>
    have hend : utf8Length front + (1 + close) + 1 = utf8Length front + close + 2 := by omega
    exact congrArg Except.ok hend

/-- A quantifier ends where it is cut off. -/
theorem quantifierEnd_eq (front s : List Char) :
    quantifierEnd (front ++ s) (utf8Length front) =
      match Pattern.cutQuantifier? s with
      | none => .error (.fault (.missingRightBrace (front ++ s)))
      | some (q, _) => .ok (utf8Length front + utf8Length q) := by
  cases s with
  | nil =>
    have hnone : byte? (front ++ []) (utf8Length front) = none := by
      have hbyte := Text.byte?_append front [] 0
      rwa [Nat.add_zero] at hbyte
    unfold quantifierEnd
    rw [hnone]
    rfl
  | cons c s =>
    obtain ⟨b, hb⟩ := (Text.byte?_isSome front (c :: s)).mpr (List.cons_ne_nil c s)
    by_cases hsign : c = '+' ∨ c = '?' ∨ c = '*'
    · have hbytes : b = '+'.toUInt8 ∨ b = '?'.toUInt8 ∨ b = '*'.toUInt8 := by
        rwa [byte_eq_iff hb (by decide), byte_eq_iff hb (by decide), byte_eq_iff hb (by decide)]
      unfold quantifierEnd
      rw [hb]
      dsimp only
      rw [if_pos hbytes]
      obtain hc | hc | hc := hsign
      all_goals
        rw [hc]
        rfl
    by_cases hbrace : c = '{'
    · rw [hbrace, quantifierEnd_brace, Text.find?_eq]
      cases hdrop : s.dropWhile (· != '}') with
      | nil =>
        have hcut : Pattern.cutQuantifier? ('{' :: s) = none := by
          simp only [Pattern.cutQuantifier?, hdrop]
        rw [hcut]
      | cons brace rest =>
        have hhead := List.head?_dropWhile_not (· != '}') s
        rw [hdrop] at hhead
        have hclosing : brace = '}' := by simpa using hhead
        have hcut : Pattern.cutQuantifier? ('{' :: s) =
            some ('{' :: s.takeWhile (· != '}') ++ ['}'], rest) := by
          simp only [Pattern.cutQuantifier?, hdrop, hclosing]
        have hlength : utf8Length ('{' :: s.takeWhile (· != '}') ++ ['}']) =
            1 + utf8Length (s.takeWhile (· != '}')) + 1 := by
          rw [Text.utf8Length_append]
          rfl
        rw [hcut]
        simp only [hlength]
        congr 1
        omega
    · have hbytes : ¬ (b = '+'.toUInt8 ∨ b = '?'.toUInt8 ∨ b = '*'.toUInt8) := by
        rwa [byte_eq_iff hb (by decide), byte_eq_iff hb (by decide), byte_eq_iff hb (by decide)]
      have hopening : ¬ b = '{'.toUInt8 := by rwa [byte_eq_iff hb (by decide)]
      have hcut : Pattern.cutQuantifier? (c :: s) = some ([], c :: s) := by
        simp only [not_or] at hsign
        obtain ⟨hplus, hopt, hstar⟩ := hsign
        refine Pattern.cutQuantifier?.eq_5 _ (fun _ he => ?_) (fun _ he => ?_) (fun _ he => ?_)
          (fun _ he => ?_)
        · exact hplus (List.cons.inj he).1
        · exact hopt (List.cons.inj he).1
        · exact hstar (List.cons.inj he).1
        · exact hbrace (List.cons.inj he).1
      unfold quantifierEnd
      rw [hb, hcut]
      dsimp only
      rw [if_neg hbytes, if_neg hopening]
      rfl

theorem le_of_quantifierEnd (h : quantifierEnd text index = .ok stop) : index ≤ stop := by
  unfold quantifierEnd at h
  split at h
  · exact Nat.le_of_eq (Except.ok.inj h)
  · split at h
    · exact Nat.le_of_succ_le (Nat.le_of_eq (Except.ok.inj h))
    · split at h
      · cases hrest : slice? text index (utf8Length text) with
        | none =>
          rw [hrest] at h
          cases h
        | some rest =>
          rw [hrest] at h
          change (match Text.find? '}' rest with
            | some close => Except.ok (index + close + 1)
            | none => Except.error (Stop.fault (.missingRightBrace text))) = _ at h
          split at h
          · have hstop := Except.ok.inj h
            omega
          · cases h
      · exact Nat.le_of_eq (Except.ok.inj h)

end Indexed

end NamePattern
