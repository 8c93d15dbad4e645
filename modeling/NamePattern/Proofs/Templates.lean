import Mathlib.Algebra.Group.Nat.Defs
import Mathlib.Data.List.TakeWhile
import NamePattern.Proofs.Balance
import NamePattern.Template

/-! Templates as they are written. There is at most one way to divide a template into tokens, and
expanding it goes through these from left to right. -/
namespace NamePattern

open NamePattern.Bracket (Balanced)

theorem Text.numeralValue_eq_ofDigitChars (s : List Char) :
    numeralValue s = Nat.ofDigitChars 10 s 0 := by
  simp [numeralValue, Nat.ofDigitChars_eq_foldl, Nat.mul_comm]

theorem Captures.get?_eq_none_iff {c : Captures} {n : Nat} : c.get? n = none ↔ c.size ≤ n := by
  cases n with
  | zero => simp [get?, size]
  | succ n =>
    rw [get?, size, List.getElem?_eq_none_iff]
    omega

/-- A token as it is written. -/
inductive TokenPhrase where
  | literal (inside : List Char)
  | group (digits : List Char)

namespace TokenPhrase

def text : TokenPhrase → List Char
  | literal inside => '<' :: inside ++ ['>']
  | group digits => '\\' :: digits

theorem length_text_pos (p : TokenPhrase) : 0 < p.text.length := by
  cases p <;> simp [text]

/-- What a token requires of its own text and of the text behind it. A literal closes the brackets
that it opens. A number has at least one digit, and no further digit follows. -/
def Valid : TokenPhrase → List Char → Prop
  | literal inside, _ => Balanced '<' '>' inside
  | group digits, following =>
    digits ≠ [] ∧ (∀ c ∈ digits, c.isDigit = true) ∧ ∀ c ∈ following.head?, c.isDigit = false

/-- The group that digits refer to. A number that does not fit into 64 bits counts as the greatest
one that does. -/
def index (digits : List Char) : Nat := min (Nat.ofDigitChars 10 digits 0) (2 ^ 64 - 1)

theorem index_eq (digits : List Char) :
    index digits = min (Text.numeralValue digits) Text.maxNumber := by
  rw [index, Text.numeralValue_eq_ofDigitChars]
  rfl

def token : TokenPhrase → Token
  | literal inside => .literal inside
  | group digits => .group (index digits)

/-- Cuts the token off the front of a text. -/
def cut? : List Char → Option (TokenPhrase × List Char)
  | '<' :: s => (Bracket.cut? '<' '>' 0 s).map fun (inside, rest) => (literal inside, rest)
  | '\\' :: s =>
    if s.takeWhile Char.isDigit = [] then none
    else some (group (s.takeWhile Char.isDigit), s.dropWhile Char.isDigit)
  | _ => none

variable {p : TokenPhrase} {ps qs : List TokenPhrase} {s t u rest rest' : List Char}

theorem cut?_literal_iff {inside : List Char} :
    cut? s = some (literal inside, rest) ↔
      s = (literal inside).text ++ rest ∧ (literal inside).Valid rest := by
  constructor
  · intro h
    unfold cut? at h
    split at h
    · obtain ⟨⟨_, _⟩, hcut, heq⟩ := Option.map_eq_some_iff.mp h
      cases heq
      obtain ⟨rfl, hbalanced⟩ := (Bracket.cut?_eq_some_iff (by decide)).mp hcut
      exact ⟨by simp [text], hbalanced⟩
    · split at h <;> cases h
    · cases h
  · rintro ⟨rfl, hbalanced⟩
    have hcut : Bracket.cut? '<' '>' 0 (inside ++ '>' :: rest) = some (inside, rest) :=
      (Bracket.cut?_eq_some_iff (by decide)).mpr ⟨rfl, hbalanced⟩
    simp [cut?, text, hcut]

theorem cut?_group_iff {digits : List Char} :
    cut? s = some (group digits, rest) ↔
      s = (group digits).text ++ rest ∧ (group digits).Valid rest := by
  constructor
  · intro h
    unfold cut? at h
    split at h
    · obtain ⟨⟨_, _⟩, -, heq⟩ := Option.map_eq_some_iff.mp h
      cases heq
    · next s =>
      split at h
      · cases h
      · next hne =>
        cases h
        have htext : s.takeWhile Char.isDigit ++ s.dropWhile Char.isDigit = s :=
          List.takeWhile_append_dropWhile
        refine ⟨by rw [text, List.cons_append, htext], hne, fun c hc => List.mem_takeWhile_imp hc,
          fun c hc => ?_⟩
        have hfirst := List.head?_dropWhile_not Char.isDigit s
        rwa [hc] at hfirst
    · cases h
  · rintro ⟨rfl, hne, hdigits, hrest⟩
    have hstop : rest.takeWhile Char.isDigit = [] ∧ rest.dropWhile Char.isDigit = rest := by
      cases rest with
      | nil => exact ⟨rfl, rfl⟩
      | cons c rest => simp [hrest c rfl]
    have htake : (digits ++ rest).takeWhile Char.isDigit = digits := by
      rw [List.takeWhile_append_of_pos hdigits, hstop.1, List.append_nil]
    have hdrop : (digits ++ rest).dropWhile Char.isDigit = rest := by
      rw [List.dropWhile_append_of_pos hdigits, hstop.2]
    simp [cut?, text, htake, hdrop, hne]

/-- A cut finds the only token that may stand at the front of a text. -/
theorem cut?_eq_some_iff : cut? s = some (p, rest) ↔ s = p.text ++ rest ∧ p.Valid rest := by
  cases p with
  | literal inside => exact cut?_literal_iff
  | group digits => exact cut?_group_iff

/-- Cutting tokens as they are written is cutting them as they are read. -/
theorem map_token_cut? (s : List Char) :
    ((cut? s).map fun (p, rest) => (p.token, rest)) = Token.cut? s := by
  unfold cut?
  split
  · rw [Option.map_map]
    rfl
  · next s =>
    rw [Token.cut?]
    split
    · next hnil =>
      rw [hnil]
      rfl
    · next hne =>
      split
      · next hnil => exact absurd hnil hne
      · rw [← index_eq]
        rfl
  · next hliteral hgroup =>
    unfold Token.cut?
    split
    · exact absurd rfl (hliteral _)
    · exact absurd rfl (hgroup _)
    · rfl

/-- A text is made of some tokens and of what follows them. -/
def Decomposes : List Char → List TokenPhrase → List Char → Prop
  | t, [], rest => t = rest
  | t, p :: ps, rest =>
    ∃ following, t = p.text ++ following ∧ p.Valid following ∧ Decomposes following ps rest

/-- No token starts at the front of a text. -/
def Stuck (t : List Char) : Prop :=
  ∀ (p : TokenPhrase) (following : List Char), t = p.text ++ following → ¬ p.Valid following

theorem cut?_eq_none_iff : cut? t = none ↔ Stuck t := by
  constructor
  · intro h p following htext hvalid
    rw [cut?_eq_some_iff.mpr ⟨htext, hvalid⟩] at h
    cases h
  · intro h
    cases hcut : cut? t with
    | none => rfl
    | some o =>
      obtain ⟨htext, hvalid⟩ := cut?_eq_some_iff.mp hcut
      exact absurd hvalid (h o.1 o.2 htext)

theorem stuck_nil : Stuck [] := cut?_eq_none_iff.mp rfl

namespace Decomposes

theorem text_eq (h : Decomposes t ps rest) : t = ps.flatMap text ++ rest := by
  induction ps generalizing t with
  | nil => exact h
  | cons p ps ih =>
    obtain ⟨following, rfl, -, hps⟩ := h
    rw [List.flatMap_cons, List.append_assoc, ← ih hps]

theorem append (h : Decomposes t ps u) (h' : Decomposes u qs rest) :
    Decomposes t (ps ++ qs) rest := by
  induction ps generalizing t with
  | nil => exact h ▸ h'
  | cons p ps ih =>
    obtain ⟨following, htext, hvalid, hps⟩ := h
    exact ⟨following, htext, hvalid, ih hps⟩

/-- At every place at most one token starts, so that all tokens of a text are determined. -/
theorem unique (h : Decomposes t ps rest) (hstuck : Stuck rest) (h' : Decomposes t qs rest')
    (hstuck' : Stuck rest') : ps = qs ∧ rest = rest' := by
  induction ps generalizing t qs with
  | nil =>
    cases qs with
    | nil => exact ⟨rfl, h.symm.trans h'⟩
    | cons q qs =>
      obtain ⟨following, htext, hvalid, -⟩ := h'
      have hrest : t = rest := h
      exact absurd hvalid (hstuck q following (hrest ▸ htext))
  | cons p ps ih =>
    obtain ⟨following, htext, hvalid, hps⟩ := h
    cases qs with
    | nil =>
      have hrest : t = rest' := h'
      exact absurd hvalid (hstuck' p following (hrest ▸ htext))
    | cons q qs =>
      obtain ⟨following', htext', hvalid', hqs⟩ := h'
      have hcut := cut?_eq_some_iff.mpr ⟨htext, hvalid⟩
      have hcut' := cut?_eq_some_iff.mpr ⟨htext', hvalid'⟩
      cases hcut.symm.trans hcut'
      obtain ⟨rfl, hrest⟩ := ih hps hqs
      exact ⟨rfl, hrest⟩

/-- The tokens of a text are cut off until it gets stuck. -/
theorem cutAll_eq (h : Decomposes t ps rest) (hstuck : Stuck rest) :
    Token.cutAll t = (ps.map token, rest) := by
  induction ps generalizing t with
  | nil =>
    have hrest : t = rest := h
    have hcut : Token.cut? rest = none := by
      rw [← map_token_cut?, cut?_eq_none_iff.mpr hstuck]
      rfl
    rw [hrest, Token.cutAll]
    split
    · rfl
    · next hsome => cases hcut.symm.trans hsome
  | cons p ps ih =>
    obtain ⟨following, htext, hvalid, hps⟩ := h
    have hcut : Token.cut? t = some (p.token, following) := by
      rw [← map_token_cut?, cut?_eq_some_iff.mpr ⟨htext, hvalid⟩]
      rfl
    rw [Token.cutAll]
    split
    · next hnone => cases hcut.symm.trans hnone
    · next hsome =>
      cases hcut.symm.trans hsome
      rw [ih hps]
      rfl

theorem read_eq (h : Decomposes t ps rest) (hstuck : Stuck rest) :
    Template.read t = ⟨ps.map token,
      if rest.isEmpty then none else some (Text.utf8Length (ps.flatMap text))⟩ := by
  have hlength : Text.utf8Length t - Text.utf8Length rest = Text.utf8Length (ps.flatMap text) := by
    rw [h.text_eq, Text.utf8Length_append, Nat.add_sub_cancel]
  rw [Template.read, h.cutAll_eq hstuck]
  simp only [hlength]

end Decomposes

theorem exists_decomposes (t : List Char) : ∃ ps rest, Decomposes t ps rest ∧ Stuck rest := by
  induction hn : t.length using Nat.strongRecOn generalizing t with
  | ind n ih =>
    cases hcut : cut? t with
    | none => exact ⟨[], t, rfl, cut?_eq_none_iff.mp hcut⟩
    | some o =>
      obtain ⟨p, following⟩ := o
      obtain ⟨htext, hvalid⟩ := cut?_eq_some_iff.mp hcut
      have hshort : following.length < n := by
        have hpos := p.length_text_pos
        rw [← hn, htext, List.length_append]
        omega
      obtain ⟨ps, rest, hps, hstuck⟩ := ih _ hshort following rfl
      exact ⟨p :: ps, rest, ⟨following, htext, hvalid, hps⟩, hstuck⟩

/-- The group that a token refers to is there. -/
def InRange (c : Captures) : TokenPhrase → Prop
  | literal _ => True
  | group digits => index digits ≤ c.groups.length

/-- The components that a token stands for: one with the bytes of a literal, or all that a group has
captured. -/
def components (c : Captures) : TokenPhrase → List Component
  | literal inside => [⟨Text.utf8 inside⟩]
  | group digits => (c.get? (index digits)).getD []

variable {c : Captures}

theorem expand_of_inRange (h : p.InRange c) : p.token.expand c = .ok (p.components c) := by
  cases p with
  | literal inside => rfl
  | group digits =>
    have hle : index digits ≤ c.groups.length := h
    have hsome : c.get? (index digits) ≠ none := by
      rw [Ne, Captures.get?_eq_none_iff, Captures.size]
      omega
    obtain ⟨held, hheld⟩ := Option.ne_none_iff_exists'.mp hsome
    simp only [token, Token.expand, components, hheld, Option.getD_some]

theorem expand_of_not_inRange {digits : List Char} (h : ¬ (group digits).InRange c) :
    (group digits).token.expand c =
      .error (.backrefOutOfRange (index digits) c.groups.length) := by
  have hlt : ¬ index digits ≤ c.groups.length := h
  have hnone : c.get? (index digits) = none := by
    rw [Captures.get?_eq_none_iff, Captures.size]
    omega
  simp only [token, Token.expand, hnone]

theorem mapM_expand (h : ∀ p ∈ ps, p.InRange c) :
    (ps.map token).mapM (·.expand c) = .ok (ps.map (components c)) := by
  induction ps with
  | nil => rfl
  | cons p ps ih =>
    obtain ⟨hp, hps⟩ := List.forall_mem_cons.mp h
    rw [List.map_cons, List.mapM_cons, expand_of_inRange hp, ih hps]
    rfl

/-- If not all groups are there, some token is the first to refer to none. -/
theorem Decomposes.exists_first (h : Decomposes t ps rest) (hout : ¬ ∀ p ∈ ps, p.InRange c) :
    ∃ front digits following, Decomposes t front ((group digits).text ++ following) ∧
      (group digits).Valid following ∧ (∀ p ∈ front, p.InRange c) ∧
        ¬ (group digits).InRange c := by
  induction ps generalizing t with
  | nil => exact absurd (fun p hp => absurd hp List.not_mem_nil) hout
  | cons p ps ih =>
    obtain ⟨following, htext, hvalid, hps⟩ := h
    by_cases hp : p.InRange c
    · have hrest : ¬ ∀ p ∈ ps, p.InRange c := fun hall =>
        hout (List.forall_mem_cons.mpr ⟨hp, hall⟩)
      obtain ⟨front, digits, behind, hfront, hdigits, hin, hlast⟩ := ih hps hrest
      exact ⟨p :: front, digits, behind, ⟨following, htext, hvalid, hfront⟩, hdigits,
        List.forall_mem_cons.mpr ⟨hp, hin⟩, hlast⟩
    · cases p with
      | literal inside => exact absurd trivial hp
      | group digits =>
        have hnone : ∀ p ∈ ([] : List TokenPhrase), p.InRange c := fun p hp =>
          absurd hp List.not_mem_nil
        exact ⟨[], digits, following, htext, hvalid, hnone, hp⟩

end TokenPhrase

namespace Token

open TokenPhrase (Decomposes)

/-- The number of a group is written in decimal. -/
def phrase : Token → TokenPhrase
  | literal inside => .literal inside
  | group n => .group (Nat.toDigits 10 n)

def text (token : Token) : List Char := token.phrase.text

/-- Tokens that can be written: the brackets of a literal are balanced, and a number has 64 bits. -/
def Writable : Token → Prop
  | literal inside => Balanced '<' '>' inside
  | group n => n < 2 ^ 64

theorem token_phrase {token : Token} (h : token.Writable) : token.phrase.token = token := by
  cases token with
  | literal inside => rfl
  | group n =>
    have hvalue : Nat.ofDigitChars 10 (Nat.toDigits 10 n) 0 = n :=
      Nat.ofDigitChars_toDigits (by decide) (by decide)
    have hlt : n < 2 ^ 64 := h
    rw [phrase, TokenPhrase.token, TokenPhrase.index, hvalue, Nat.min_eq_left (by omega)]

/-- No token begins with a digit, which would lengthen the number in front of it. -/
theorem head_text (tokens : List Token) :
    ∀ c ∈ (tokens.flatMap text).head?, c.isDigit = false := by
  cases tokens with
  | nil => simp
  | cons token tokens => cases token <;> simp [text, phrase, TokenPhrase.text]

theorem decomposes {tokens : List Token} (h : ∀ token ∈ tokens, token.Writable) :
    Decomposes (tokens.flatMap text) (tokens.map phrase) [] := by
  induction tokens with
  | nil => rfl
  | cons token tokens ih =>
    obtain ⟨htoken, htokens⟩ := List.forall_mem_cons.mp h
    refine ⟨tokens.flatMap text, rfl, ?_, ih htokens⟩
    cases token with
    | literal inside => exact htoken
    | group n =>
      have hdigits : ∀ c ∈ Nat.toDigits 10 n, c.isDigit = true := fun c hc =>
        Nat.isDigit_of_mem_toDigits (by decide) (by decide) hc
      exact ⟨Nat.toDigits_ne_nil, hdigits, head_text tokens⟩

theorem read_text {tokens : List Token} (h : ∀ token ∈ tokens, token.Writable) :
    Template.read (tokens.flatMap text) = ⟨tokens, none⟩ := by
  have htokens : (tokens.map phrase).map TokenPhrase.token = tokens :=
    calc (tokens.map phrase).map TokenPhrase.token
      _ = tokens.map (TokenPhrase.token ∘ phrase) := List.map_map
      _ = tokens.map id := List.map_congr_left fun token htoken => token_phrase (h token htoken)
      _ = tokens := tokens.map_id
  rw [(decomposes h).read_eq TokenPhrase.stuck_nil, htokens]
  rfl

end Token

namespace Captures

open TokenPhrase

/-- The result of evaluating the tokens of a template from left to right. -/
inductive Expands (c : Captures) (t : List Char) : Except ExpandError Name → Prop
  /-- The template is made of tokens, and all groups are there. -/
  | name {ps : List TokenPhrase} (h : Decomposes t ps []) (hin : ∀ p ∈ ps, p.InRange c) :
      Expands c t (.ok ⟨ps.flatMap (components c)⟩)
  /-- Behind good tokens, one refers to a group that is not there. Anything may follow. -/
  | outOfRange {ps : List TokenPhrase} {digits following : List Char}
      (h : Decomposes t ps ((group digits).text ++ following))
      (hvalid : (group digits).Valid following) (hin : ∀ p ∈ ps, p.InRange c)
      (hout : ¬ (group digits).InRange c) :
      Expands c t (.error (.backrefOutOfRange (index digits) c.groups.length))
  /-- Behind good tokens, no other starts before the end. -/
  | malformed {ps : List TokenPhrase} {rest : List Char} (h : Decomposes t ps rest)
      (hstuck : Stuck rest) (hne : rest ≠ []) (hin : ∀ p ∈ ps, p.InRange c) :
      Expands c t (.error (.malformed t (Text.utf8Length (ps.flatMap text))))

variable {c : Captures} {t : List Char} {r : Except ExpandError Name}

theorem expand_of_decomposes {ps : List TokenPhrase} {rest : List Char} (h : Decomposes t ps rest)
    (hstuck : Stuck rest) : c.expand t = (do
      let parts ← (ps.map token).mapM (·.expand c)
      if rest.isEmpty then return ⟨parts.flatten⟩
      else throw (.malformed t (Text.utf8Length (ps.flatMap text)))) := by
  rw [expand, h.read_eq hstuck]
  cases rest with
  | nil => rfl
  | cons d rest => rfl

theorem Expands.expand_eq (h : c.Expands t r) : c.expand t = r := by
  cases h with
  | name h hin =>
    rw [expand_of_decomposes h stuck_nil, mapM_expand hin, List.flatMap_def]
    rfl
  | @outOfRange ps digits following h hvalid hin hout =>
    -- The tokens that follow are read, too, but their components do not matter any more.
    obtain ⟨qs, rest, hqs, hstuck⟩ := exists_decomposes following
    have hlast : Decomposes ((group digits).text ++ following) (group digits :: qs) rest :=
      ⟨following, rfl, hvalid, hqs⟩
    rw [expand_of_decomposes (h.append hlast) hstuck, List.map_append, List.mapM_append,
      mapM_expand hin, List.map_cons, List.mapM_cons, expand_of_not_inRange hout]
    rfl
  | malformed h hstuck hne hin =>
    rw [expand_of_decomposes h hstuck, mapM_expand hin]
    exact if_neg fun hnil => hne (List.isEmpty_iff.mp hnil)

/-- No template is without a result. -/
theorem exists_expands (c : Captures) (t : List Char) : ∃ r, c.Expands t r := by
  obtain ⟨ps, rest, hps, hstuck⟩ := exists_decomposes t
  by_cases hin : ∀ p ∈ ps, p.InRange c
  · by_cases hnil : rest = []
    · rw [hnil] at hps
      exact ⟨_, .name hps hin⟩
    · exact ⟨_, .malformed hps hstuck hnil hin⟩
  · obtain ⟨front, digits, following, hfront, hvalid, hin, hout⟩ := hps.exists_first hin
    exact ⟨_, .outOfRange hfront hvalid hin hout⟩

/-- There is at most one way to divide a template into tokens, and expanding it evaluates these from
left to right, up to the first fault. Tokens that are written out are read back. -/
theorem expand_tokens (c : Captures) (t : List Char) :
    (∀ ps qs, Decomposes t ps [] → Decomposes t qs [] → ps = qs) ∧
    (∀ r, c.expand t = r ↔ c.Expands t r) ∧
    ∀ tokens : List Token, (∀ token ∈ tokens, token.Writable) →
      Decomposes (tokens.flatMap Token.text) (tokens.map Token.phrase) [] ∧
        Template.read (tokens.flatMap Token.text) = ⟨tokens, none⟩ := by
  refine ⟨fun ps qs hps hqs => (hps.unique stuck_nil hqs stuck_nil).1, fun r => ⟨fun h => ?_,
    Expands.expand_eq⟩, fun tokens h => ⟨Token.decomposes h, Token.read_text h⟩⟩
  obtain ⟨r', hr'⟩ := c.exists_expands t
  rwa [← h, hr'.expand_eq]

/-- Of the two faults in `<b>\1\02<`, the reference to a second group comes first. -/
theorem expand_tokens_order : (Captures.mk [] [[⟨[97]⟩]] false).expand "<b>\\1\\02<".toList =
    .error (.backrefOutOfRange 2 1) := by
  let c : Captures := ⟨[], [[⟨[97]⟩]], false⟩
  have hliteral : cut? "<b>\\1\\02<".toList = some (.literal "b".toList, "\\1\\02<".toList) := rfl
  have hfirst : cut? "\\1\\02<".toList = some (.group "1".toList, "\\02<".toList) := rfl
  have hsecond : cut? "\\02<".toList = some (.group "02".toList, "<".toList) := rfl
  have hfront : Decomposes "<b>\\1\\02<".toList [.literal "b".toList, .group "1".toList]
      "\\02<".toList :=
    ⟨_, rfl, (cut?_eq_some_iff.mp hliteral).2, _, rfl, (cut?_eq_some_iff.mp hfirst).2, rfl⟩
  have hone : InRange c (.group "1".toList) := by
    rw [InRange]
    decide
  have hin : ∀ p ∈ [.literal "b".toList, .group "1".toList], InRange c p :=
    List.forall_mem_cons.mpr ⟨trivial, List.forall_mem_singleton.mpr hone⟩
  have hout : ¬ InRange c (.group "02".toList) := by
    rw [InRange]
    decide
  have hvalid := (cut?_eq_some_iff.mp hsecond).2
  exact ((c.expand_tokens _).2.1 _).mpr (.outOfRange hfront hvalid hin hout)

end Captures

end NamePattern
