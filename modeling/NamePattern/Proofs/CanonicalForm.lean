import Mathlib
import NamePattern.Proofs.EscapedForm

/-! Which texts are escaped forms. These are the canonical texts, one for each component. -/
namespace NamePattern.Component

/-- The characters `0-9 A-Z a-z + - . _`. -/
def Unreserved (c : Char) : Prop := c.isAlphanum = true ∨ c ∈ ['+', '-', '.', '_']

instance (c : Char) : Decidable (Unreserved c) := inferInstanceAs (Decidable (_ ∨ _))

def upperHex (x : Fin 16) : Char :=
  ['0', '1', '2', '3', '4', '5', '6', '7', '8', '9', 'A', 'B', 'C', 'D', 'E', 'F'].get x

/-- A character that stands for itself, or `%` before the two digits of any other byte. -/
inductive Token : List Char → Prop
  | plain {c : Char} (h : Unreserved c) : Token [c]
  | escape {x y : Fin 16} (h : ¬Unreserved (Char.ofNat (16 * x + y))) :
      Token ['%', upperHex x, upperHex y]

/-- One token or more, but not the path segments that name no component. -/
structure Canonical (s : List Char) : Prop where
  tokens : ∃ ts : List (List Char), ts ≠ [] ∧ (∀ t ∈ ts, Token t) ∧ ts.flatten = s
  ne_period : s ≠ ['.']
  ne_periods : s ≠ ['.', '.']

variable {s t : List Char}

/-- A check of all bytes by their two digits. -/
theorem escapeByte_digits (x y : Fin 16) : escapeByte (.ofNat (16 * x + y)) =
    if Unreserved (Char.ofNat (16 * x + y)) then [Char.ofNat (16 * x + y)]
    else ['%', upperHex x, upperHex y] := by
  revert x y
  decide +kernel

theorem exists_digits {n : Nat} (h : n < 256) : ∃ x y : Fin 16, (16 * x + y : Nat) = n := by
  have hx : n / 16 < 16 := by omega
  have hy : n % 16 < 16 := by omega
  refine ⟨⟨n / 16, hx⟩, ⟨n % 16, hy⟩, ?_⟩
  show 16 * (n / 16) + n % 16 = n
  omega

theorem Unreserved.toNat_lt {c : Char} (h : Unreserved c) : c.toNat < 128 := by
  obtain halpha | hmem := h
  · simp only [Char.isAlphanum, Char.isAlpha, Char.isUpper, Char.isLower, Char.isDigit,
      Bool.or_eq_true, Bool.and_eq_true, decide_eq_true_eq, UInt32.le_iff_toNat_le,
      ge_iff_le] at halpha
    have hnumber : c.toNat = c.val.toNat := rfl
    have hupper : 'Z'.val.toNat = 90 := rfl
    have hlower : 'z'.val.toNat = 122 := rfl
    have hdigit : '9'.val.toNat = 57 := rfl
    omega
  · simp only [List.mem_cons, List.not_mem_nil, or_false] at hmem
    obtain rfl | rfl | rfl | rfl := hmem <;> decide

/-- Tokens are what bytes are escaped to. -/
theorem token_iff : Token t ↔ ∃ b, escapeByte b = t := by
  constructor
  · intro h
    cases h with
    | @plain c hc =>
      have hlt : c.toNat < 256 := by
        have hascii := hc.toNat_lt
        omega
      obtain ⟨x, y, hxy⟩ := exists_digits hlt
      refine ⟨.ofNat (16 * x + y), ?_⟩
      rw [escapeByte_digits, hxy, Char.ofNat_toNat, if_pos hc]
    | @escape x y hxy => exact ⟨.ofNat (16 * x + y), by rw [escapeByte_digits, if_neg hxy]⟩
  · rintro ⟨b, rfl⟩
    obtain ⟨x, y, hxy⟩ := exists_digits b.toNat_lt
    have hb : UInt8.ofNat (16 * x + y) = b := by rw [hxy, UInt8.ofNat_toNat]
    rw [← hb, escapeByte_digits]
    split
    · next hplain => exact .plain hplain
    · next hescape => exact .escape hescape

theorem exists_bytes {ts : List (List Char)} (h : ∀ t ∈ ts, Token t) :
    ∃ bytes : List UInt8, bytes.map escapeByte = ts := by
  induction ts with
  | nil => exact ⟨[], rfl⟩
  | cons t ts ih =>
    obtain ⟨ht, hts⟩ := List.forall_mem_cons.mp h
    obtain ⟨b, rfl⟩ := token_iff.mp ht
    obtain ⟨bytes, rfl⟩ := ih hts
    exact ⟨b :: bytes, rfl⟩

theorem tokens_iff : (∃ ts : List (List Char), ts ≠ [] ∧ (∀ t ∈ ts, Token t) ∧ ts.flatten = s) ↔
    ∃ bytes : List UInt8, bytes ≠ [] ∧ bytes.flatMap escapeByte = s := by
  constructor
  · rintro ⟨ts, hne, hts, rfl⟩
    obtain ⟨bytes, rfl⟩ := exists_bytes hts
    exact ⟨bytes, List.map_eq_nil_iff.not.mp hne, List.flatMap_def⟩
  · rintro ⟨bytes, hne, rfl⟩
    refine ⟨bytes.map escapeByte, List.map_eq_nil_iff.not.mpr hne, ?_, List.flatMap_def.symm⟩
    intro t ht
    obtain ⟨b, -, hb⟩ := List.mem_map.mp ht
    exact token_iff.mpr ⟨b, hb⟩

theorem flatMap_escapeByte_periods (n : Nat) :
    (List.replicate n 46).flatMap escapeByte = List.replicate n '.' := by
  have hperiod : escapeByte 46 = ['.'] := by decide
  rw [List.flatMap_replicate, hperiod, List.flatten_replicate_singleton]

theorem canonical_escaped (c : Component) : Canonical c.escaped := by
  obtain ⟨bytes⟩ := c
  cases h : isPeriods bytes with
  | true =>
    rw [escaped_of_periods h]
    have hnil : List.replicate (bytes.length + 3) (46 : UInt8) ≠ [] := by simp
    have hne {t : List Char} (ht : t.length < 3) : List.replicate (bytes.length + 3) '.' ≠ t := by
      rintro rfl
      rw [List.length_replicate] at ht
      omega
    have htokens := tokens_iff.mpr ⟨_, hnil, flatMap_escapeByte_periods _⟩
    exact ⟨htokens, hne (by decide), hne (by decide)⟩
  | false =>
    rw [escaped_of_not_periods h]
    have hne (n : Nat) : bytes.flatMap escapeByte ≠ List.replicate n '.' := by
      intro heq
      have hbytes : bytes = List.replicate n 46 := by
        rw [← unescape_escapeBytes bytes, heq, unescape_periods]
      rw [hbytes] at h
      simp [isPeriods] at h
    have hnil : bytes ≠ [] := by
      rintro rfl
      exact hne 0 rfl
    exact ⟨tokens_iff.mpr ⟨bytes, hnil, rfl⟩, hne 1, hne 2⟩

/-- Of periods there are three or more, and the component has three fewer. -/
theorem Canonical.exists_escaped (h : Canonical s) : ∃ c : Component, c.escaped = s := by
  obtain ⟨bytes, hnil, hs⟩ := tokens_iff.mp h.tokens
  cases hperiods : isPeriods bytes with
  | true =>
    have hdots : s = List.replicate bytes.length '.' := by
      rw [← hs, isPeriods_iff.mp hperiods, flatMap_escapeByte_periods, List.length_replicate]
    have hzero : bytes.length ≠ 0 := fun hlen => hnil (List.length_eq_zero_iff.mp hlen)
    have hone : bytes.length ≠ 1 := fun hlen => h.ne_period (by rw [hdots, hlen]; rfl)
    have htwo : bytes.length ≠ 2 := fun hlen => h.ne_periods (by rw [hdots, hlen]; rfl)
    refine ⟨⟨List.replicate (bytes.length - 3) 46⟩, ?_⟩
    rw [escaped_of_periods (isPeriods_replicate _), hdots, length, List.length_replicate]
    congr 1
    omega
  | false => exact ⟨⟨bytes⟩, (escaped_of_not_periods hperiods).trans hs⟩

/-- A text is canonical if reading and escaping it gives this text again. -/
theorem canonical_iff : Canonical s ↔ (ofEscaped? s).map escaped = some s := by
  constructor
  · intro h
    obtain ⟨c, rfl⟩ := h.exists_escaped
    rw [ofEscaped?_escaped, Option.map_some]
  · intro h
    obtain ⟨c, -, rfl⟩ := Option.map_eq_some_iff.mp h
    exact canonical_escaped c

instance (s : List Char) : Decidable (Canonical s) := decidable_of_iff _ canonical_iff.symm

theorem Canonical.isSome_ofEscaped? (h : Canonical s) : (ofEscaped? s).isSome = true := by
  obtain ⟨c, rfl⟩ := h.exists_escaped
  rw [ofEscaped?_escaped]
  rfl

theorem Canonical.escaped_get (h : Canonical s) :
    ((ofEscaped? s).get h.isSome_ofEscaped?).escaped = s := by
  obtain ⟨c, rfl⟩ := h.exists_escaped
  simp [ofEscaped?_escaped]

/-- Components and canonical texts, one for one. -/
def canonicalForm : Component ≃ {s // Canonical s} where
  toFun c := ⟨c.escaped, canonical_escaped c⟩
  invFun s := (ofEscaped? s.1).get s.2.isSome_ofEscaped?
  left_inv c := by simp [ofEscaped?_escaped]
  right_inv s := Subtype.ext s.2.escaped_get

/-- Every escaped form is canonical, and every canonical text is the escaped form of the component
that it is read as. Escaping and reading are each other's inverse. -/
theorem escaped_is_canonical : (∀ c : Component, Canonical c.escaped) ∧
    (∀ s, Canonical s → ∃ c, ofEscaped? s = some c ∧ c.escaped = s) ∧
    (∀ c, (canonicalForm c).val = c.escaped) ∧
    ∀ s, ofEscaped? s.val = some (canonicalForm.symm s) := by
  refine ⟨canonical_escaped, fun s h => ?_, fun c => rfl, fun s => ?_⟩
  · obtain ⟨c, rfl⟩ := h.exists_escaped
    exact ⟨c, ofEscaped?_escaped c, rfl⟩
  · exact (Option.some_get _).symm

/-- Four periods stand for one. They are the only spelling of it that is canonical. -/
theorem escaped_is_canonical_periods : Canonical ['.', '.', '.', '.'] ∧
    (∃ c, ofEscaped? ['.', '.', '.', '.'] = some c ∧ c.escaped = ['.', '.', '.', '.']) ∧
    ofEscaped? ['%', '2', 'E', '.', '.', '.'] = some ⟨[46]⟩ ∧
    ¬Canonical ['%', '2', 'E', '.', '.', '.'] := by
  have hcanonical : Canonical ['.', '.', '.', '.'] := by decide +kernel
  obtain ⟨-, hread, -⟩ := escaped_is_canonical
  exact ⟨hcanonical, hread _ hcanonical, by decide +kernel, by decide +kernel⟩

end NamePattern.Component
