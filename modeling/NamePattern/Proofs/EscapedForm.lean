import NamePattern.Component.Escaped

/-! The escaped form of a component is made of a few characters, and it is read back as the
component. -/
namespace NamePattern.Component

/-- A check of all bytes. -/
theorem forall_byte {p : UInt8 → Bool} (h : (List.range 256).all (fun n => p (.ofNat n)) = true)
    (b : UInt8) : p b = true := by
  have hb := List.all_eq_true.mp h b.toNat (List.mem_range.mpr b.toNat_lt)
  rwa [UInt8.ofNat_toNat] at hb

/-- A check of all characters that escaped forms are made of. -/
theorem forall_mem_escaped {p : Char → Bool} (hdot : p '.' = true)
    (h : (List.range 256).all (fun n => (escapeByte (.ofNat n)).all p) = true) {c : Component}
    {ch : Char} (hch : ch ∈ c.escaped) : p ch = true := by
  unfold escaped at hch
  split at hch
  · rw [List.eq_of_mem_replicate hch]
    exact hdot
  · obtain ⟨b, -, hb⟩ := List.mem_flatMap.mp hch
    exact List.all_eq_true.mp (forall_byte (p := fun b => (escapeByte b).all p) h b) ch hb

theorem escaped_ne_nil (c : Component) : c.escaped ≠ [] := by
  unfold escaped
  split
  · simp
  · next h =>
    cases hb : c.bytes with
    | nil =>
      rw [hb] at h
      exact absurd rfl h
    | cons b bytes =>
      have hbyte : escapeByte b ≠ [] := by
        unfold escapeByte
        split <;> simp
      simp [hbyte]

/-- A text without blanks is as it is after trimming. -/
theorem trim_of_free {s : List Char} (h : ∀ ch ∈ s, isBlank ch = false) : trim s = s := by
  have hdrop : ∀ l : List Char, (∀ ch ∈ l, isBlank ch = false) → l.dropWhile isBlank = l := by
    intro l hl
    cases l with
    | nil => rfl
    | cons ch l =>
      rw [List.dropWhile_cons_of_neg]
      rw [hl ch (List.mem_cons_self ..)]
      exact Bool.false_ne_true
  unfold trim
  rw [hdrop _ h, hdrop _ fun ch hch => h ch (List.mem_reverse.mp hch), List.reverse_reverse]

theorem trim_escaped (c : Component) : trim c.escaped = c.escaped := by
  apply trim_of_free
  intro ch hch
  simpa using forall_mem_escaped (p := fun ch => !isBlank ch) (by decide) (by decide +kernel) hch

theorem unescape_cons_of_ne {b : UInt8} (h : b ≠ 37) (rest : List UInt8) :
    unescape (b :: rest) = b :: unescape rest := by
  cases rest with
  | nil => rw [unescape, unescape] <;> simp
  | cons x rest =>
    cases rest with
    | nil => rw [unescape, unescape] <;> simp
    | cons y rest => rw [unescape, if_neg h]

theorem utf8_escapeByte_of_plain {b : UInt8} (h : isPlain b = true) :
    Text.utf8 (escapeByte b) = [b] ∧ b ≠ 37 := by
  have hb := forall_byte (p := fun b => !isPlain b || (Text.utf8 (escapeByte b) == [b] && b != 37))
    (by decide +kernel) b
  simpa [h] using hb

theorem utf8_escapeByte_of_not_plain {b : UInt8} (h : isPlain b = false) :
    Text.utf8 (escapeByte b) = [37, (hexDigit (b / 16)).toUInt8, (hexDigit (b % 16)).toUInt8] := by
  have hb := forall_byte (p := fun b => isPlain b || Text.utf8 (escapeByte b) ==
    [37, (hexDigit (b / 16)).toUInt8, (hexDigit (b % 16)).toUInt8]) (by decide +kernel) b
  simpa [h] using hb

theorem hexValue?_hexDigit (b : UInt8) :
    hexValue? (hexDigit (b / 16)).toUInt8 = some (b / 16) ∧
      hexValue? (hexDigit (b % 16)).toUInt8 = some (b % 16) ∧ b / 16 * 16 + b % 16 = b := by
  have hb := forall_byte (p := fun b => hexValue? (hexDigit (b / 16)).toUInt8 == some (b / 16) &&
    hexValue? (hexDigit (b % 16)).toUInt8 == some (b % 16) && b / 16 * 16 + b % 16 == b)
    (by decide +kernel) b
  simpa [and_assoc] using hb

theorem unescape_escapeByte (b : UInt8) (rest : List UInt8) :
    unescape (Text.utf8 (escapeByte b) ++ rest) = b :: unescape rest := by
  cases h : isPlain b with
  | true =>
    obtain ⟨hutf8, hne⟩ := utf8_escapeByte_of_plain h
    rw [hutf8]
    exact unescape_cons_of_ne hne rest
  | false =>
    obtain ⟨hx, hy, hb⟩ := hexValue?_hexDigit b
    rw [utf8_escapeByte_of_not_plain h]
    change unescape (37 :: _ :: _ :: rest) = _
    rw [unescape, if_pos rfl, hx, hy]
    simp only [hb]

theorem unescape_escapeBytes (bytes : List UInt8) :
    unescape (Text.utf8 (bytes.flatMap escapeByte)) = bytes := by
  induction bytes with
  | nil => rfl
  | cons b bytes ih => rw [List.flatMap_cons, Text.utf8_append, unescape_escapeByte, ih]

theorem unescape_periods (n : Nat) :
    unescape (Text.utf8 (List.replicate n '.')) = List.replicate n 46 := by
  induction n with
  | zero => rfl
  | succ n ih =>
    have hcons : Text.utf8 (List.replicate (n + 1) '.') = 46 :: Text.utf8 (List.replicate n '.') :=
      rfl
    rw [hcons, unescape_cons_of_ne (by decide), ih, List.replicate_succ]

theorem isPeriods_iff {bytes : List UInt8} :
    isPeriods bytes = true ↔ bytes = List.replicate bytes.length 46 := by
  simp [isPeriods, List.eq_replicate_iff]

theorem isPeriods_replicate (n : Nat) : isPeriods (List.replicate n 46) = true := by
  simp [isPeriods]

theorem escaped_of_periods {c : Component} (h : isPeriods c.bytes = true) :
    c.escaped = List.replicate (c.length + 3) '.' := if_pos h

theorem escaped_of_not_periods {c : Component} (h : isPeriods c.bytes = false) :
    c.escaped = c.bytes.flatMap escapeByte := by
  rw [escaped, h, if_neg Bool.false_ne_true]

/-- The escaped form of a component names that component. -/
theorem ofEscaped?_escaped (c : Component) : ofEscaped? c.escaped = some c := by
  unfold ofEscaped?
  rw [trim_escaped]
  cases h : isPeriods c.bytes with
  | true =>
    have hbytes : c.bytes = List.replicate c.length 46 := isPeriods_iff.mp h
    rw [escaped_of_periods h, unescape_periods]
    simp only [isPeriods_replicate, if_true, List.length_replicate, List.drop_replicate,
      Nat.add_sub_cancel, ← hbytes]
    rw [if_neg (by omega)]
  | false =>
    rw [escaped_of_not_periods h, unescape_escapeBytes]
    simp [h]

theorem escaped_injective {c d : Component} (h : c.escaped = d.escaped) : c = d := by
  have hc := ofEscaped?_escaped c
  rw [h, ofEscaped?_escaped] at hc
  exact (Option.some.inj hc).symm

end NamePattern.Component
