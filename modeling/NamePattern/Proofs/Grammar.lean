import NamePattern.Proofs.Balance
import NamePattern.Proofs.Quantifiers
import NamePattern.Proofs.Reading

/-! The grammar of patterns. A text is read without a fault if it is one of the grammar, and what is
read are its parts. -/
namespace NamePattern

open NamePattern.Bracket (Balanced Countable)

/-- What may stand between angle brackets: nothing, or a regex. -/
def Member.Admits (ignoreCase : Bool) (text : List Char) : Prop :=
  text = [] ∨ ∃ r, CharRegex.readWhole? ignoreCase text = some r

/-- The member that a text between angle brackets stands for. -/
def Member.ofText (ignoreCase : Bool) (text : List Char) : Member :=
  ⟨text, if text = [] then none else CharRegex.readWhole? ignoreCase text⟩

theorem Member.read_eq_ok_iff {ignoreCase : Bool} {text : List Char} {m : Member} :
    read ignoreCase text = .ok m ↔ Admits ignoreCase text ∧ m = ofText ignoreCase text := by
  unfold read ofText Admits
  cases text with
  | nil => simp [eq_comm]
  | cons c text =>
    rw [if_neg (by simp), if_neg (by simp)]
    cases CharRegex.readWhole? ignoreCase (c :: text) <;> simp [eq_comm]

/-- A set of components by its parts: one regex, or any number of them in square brackets. -/
inductive SetPhrase where
  | single (regex : List Char)
  | several (exclusion : Bool) (regexes : List (List Char))

/-- A pattern by its parts: items one behind the other, each an atom with its quantifier. -/
inductive Phrase where
  | done
  | group (inner : Phrase) (quantifier : List Char) (rest : Phrase)
  | set (atom : SetPhrase) (quantifier : List Char) (rest : Phrase)

namespace SetPhrase

def angled (regex : List Char) : List Char := '<' :: regex ++ ['>']

theorem flatMap_angled_cons (regex : List Char) (regexes : List (List Char)) :
    (regex :: regexes).flatMap angled = '<' :: (regex ++ '>' :: regexes.flatMap angled) := by
  simp [angled]

/-- What stands between square brackets. -/
def inside (exclusion : Bool) (regexes : List (List Char)) : List Char :=
  (if exclusion then ['^'] else []) ++ regexes.flatMap angled

def text : SetPhrase → List Char
  | single regex => angled regex
  | several exclusion regexes => '[' :: inside exclusion regexes ++ [']']

def exclusion : SetPhrase → Bool
  | single _ => false
  | several exclusion _ => exclusion

def regexes : SetPhrase → List (List Char)
  | single regex => [regex]
  | several _ regexes => regexes

/-- What may be written between a pair of angle brackets. -/
structure Member (ignoreCase : Bool) (regex : List Char) : Prop where
  balanced : Balanced '<' '>' regex
  admits : Member.Admits ignoreCase regex

def Valid (ignoreCase : Bool) : SetPhrase → Prop
  | single regex => Member ignoreCase regex
  | several exclusion regexes =>
    Balanced '[' ']' (inside exclusion regexes) ∧ ∀ regex ∈ regexes, Member ignoreCase regex

/-- No counter overflows on the brackets of a set. -/
def Counted : SetPhrase → Prop
  | single regex => Countable '<' regex
  | several exclusion regexes =>
    Countable '[' (inside exclusion regexes) ∧ ∀ regex ∈ regexes, Countable '<' regex

theorem Valid.bracketed {ignoreCase : Bool} {atom : SetPhrase} (h : atom.Valid ignoreCase) :
    ∃ c closing inside, Bracket.closing? c = some closing ∧ c ≠ '(' ∧ Balanced c closing inside ∧
      (atom.Counted → Countable c inside) ∧ atom.text = c :: inside ++ [closing] := by
  cases atom with
  | single regex => exact ⟨'<', '>', regex, rfl, by decide, Member.balanced h, id, rfl⟩
  | several exclusion regexes =>
    exact ⟨'[', ']', inside exclusion regexes, rfl, by decide, h.1, And.left, rfl⟩

/-- What a set is read as. -/
def set (ignoreCase : Bool) (s : SetPhrase) : MemberSet :=
  ⟨s.text, !s.exclusion, s.regexes.map (.ofText ignoreCase), none⟩

end SetPhrase

namespace Phrase

def text : Phrase → List Char
  | done => []
  | group inner quantifier rest => '(' :: inner.text ++ [')'] ++ quantifier ++ rest.text
  | set atom quantifier rest => atom.text ++ quantifier ++ rest.text

theorem text_group (inner : Phrase) (q : List Char) (rest : Phrase) :
    (group inner q rest).text = '(' :: (inner.text ++ ')' :: (q ++ rest.text)) := by
  simp [text]

theorem text_set {atom : SetPhrase} {c closing : Char} {inside : List Char}
    (h : atom.text = c :: inside ++ [closing]) (q : List Char) (rest : Phrase) :
    (set atom q rest).text = c :: (inside ++ closing :: (q ++ rest.text)) := by
  simp [text, h]

/-- A quantifier may stand before a text. It is left out only where the text does not begin with
something that would be taken for a quantifier. -/
structure Quantifies (quantifier following : List Char) : Prop where
  written : ∃ b : Bounds, Bounds.Written quantifier b.min b.max
  unambiguous : quantifier = [] → ∀ c ∈ following.head?, c ∉ ['+', '?', '*', '{']

/-- The patterns of the grammar. -/
def Valid (ignoreCase : Bool) : Phrase → Prop
  | done => True
  | group inner quantifier rest =>
    Balanced '(' ')' inner.text ∧ inner.Valid ignoreCase ∧ Quantifies quantifier rest.text ∧
      rest.Valid ignoreCase
  | set atom quantifier rest =>
    atom.Valid ignoreCase ∧ Quantifies quantifier rest.text ∧ rest.Valid ignoreCase

/-- No counter overflows on the brackets of a pattern. -/
def Counted : Phrase → Prop
  | done => True
  | group inner _ rest => Countable '(' inner.text ∧ inner.Counted ∧ rest.Counted
  | set atom _ rest => atom.Counted ∧ rest.Counted

/-- What a pattern of the grammar is read as. -/
def pattern (ignoreCase : Bool) : Phrase → Pattern
  | done => .done
  | group inner quantifier rest =>
    let atom := '(' :: inner.text ++ [')']
    if quantifier.isEmpty then
      .group (atom ++ quantifier) (inner.pattern ignoreCase) (rest.pattern ignoreCase)
    else
      .repeatGroup (atom ++ quantifier) atom (inner.pattern ignoreCase)
        (Bounds.read (atom ++ quantifier) quantifier) (rest.pattern ignoreCase)
  | set atom quantifier rest =>
    .repeatSet (atom.text ++ quantifier) (atom.set ignoreCase)
      (Bounds.read (atom.text ++ quantifier) quantifier) (rest.pattern ignoreCase)

end Phrase

namespace MemberSet

variable {ignoreCase : Bool} {whole s regex : List Char} {regexes : List (List Char)}

open SetPhrase (angled)

theorem readMembers_cons (ignoreCase : Bool) (whole s : List Char) :
    readMembers ignoreCase whole ('<' :: s) =
      match Bracket.close? '<' '>' s with
      | none => ([], some (.unclosed '<' s whole))
      | some (inside, rest) =>
        match Member.read ignoreCase inside with
        | .error e => ([], some (.refused e))
        | .ok m =>
          (m :: (readMembers ignoreCase whole rest).1, (readMembers ignoreCase whole rest).2) := by
  rw [readMembers]
  split
  · next h => simp only [h]
  · next inside rest h =>
    cases hread : Member.read ignoreCase inside with
    | error e => simp only [h, hread]
    | ok m => simp only [h, hread]

/-- A member in front of any text, if its brackets can be counted. -/
theorem readMembers_member (h : SetPhrase.Member ignoreCase regex) (hcountable : Countable '<' regex)
    (whole rest : List Char) :
    readMembers ignoreCase whole ('<' :: (regex ++ '>' :: rest)) =
      (.ofText ignoreCase regex :: (readMembers ignoreCase whole rest).1,
        (readMembers ignoreCase whole rest).2) := by
  have hread := Member.read_eq_ok_iff.mpr ⟨h.admits, rfl⟩
  rw [readMembers_cons, Bracket.close?_of_balanced (by decide) h.balanced hcountable]
  simp only [hread]

theorem readMembers_angled (whole : List Char)
    (h : ∀ regex ∈ regexes, SetPhrase.Member ignoreCase regex)
    (hcounted : ∀ regex ∈ regexes, Countable '<' regex) :
    readMembers ignoreCase whole (regexes.flatMap angled) =
      (regexes.map (.ofText ignoreCase), none) := by
  induction regexes with
  | nil =>
    rw [List.flatMap_nil, readMembers]
    rfl
  | cons regex regexes ih =>
    obtain ⟨hregex, hregexes⟩ := List.forall_mem_cons.mp h
    obtain ⟨hcountable, hcounted⟩ := List.forall_mem_cons.mp hcounted
    rw [SetPhrase.flatMap_angled_cons, readMembers_member hregex hcountable, ih hregexes hcounted,
      List.map_cons]

/-- Members that are read without a fault are regexes in angle brackets. -/
theorem exists_regexes (h : (readMembers ignoreCase whole s).2 = none) :
    ∃ regexes : List (List Char), s = regexes.flatMap angled ∧
      (∀ regex ∈ regexes, SetPhrase.Member ignoreCase regex) ∧
      ∀ regex ∈ regexes, Countable '<' regex := by
  fun_induction readMembers ignoreCase whole s with
  | case1 => exact ⟨[], rfl, by simp, by simp⟩
  | case2 => simp at h
  | case3 => simp at h
  | case4 s inside rest hcut m hread _ ms fault hrest ih =>
    rw [hrest] at ih
    obtain ⟨regexes, htext, hregexes, hcounted⟩ := ih h
    obtain ⟨hs, hbalanced, hcountable⟩ := (Bracket.close?_eq_some_iff (by decide)).mp hcut
    have hadmits := (Member.read_eq_ok_iff.mp hread).1
    refine ⟨inside :: regexes, ?_, List.forall_mem_cons.mpr ⟨⟨hbalanced, hadmits⟩, hregexes⟩,
      List.forall_mem_cons.mpr ⟨hcountable, hcounted⟩⟩
    rw [hs, htext]
    simp [angled]
  | case5 => simp at h

theorem read_angled (ignoreCase : Bool) (hbalanced : Balanced '<' '>' regex)
    (hcounted : Countable '<' regex) :
    read ignoreCase (angled regex) =
      match Member.read ignoreCase regex with
      | .error e => ⟨angled regex, true, [], some (.refused e)⟩
      | .ok m => ⟨angled regex, true, [m], none⟩ := by
  have hcut := Bracket.close?_of_balanced (by decide) hbalanced hcounted []
  obtain ⟨c, rest, hrest⟩ := List.exists_cons_of_ne_nil (l := regex ++ ['>']) (by simp)
  unfold angled
  rw [hrest] at hcut
  rw [List.cons_append, hrest]
  unfold read
  cases hread : Member.read ignoreCase regex with
  | error e => simp only [hcut, hread]
  | ok m => simp only [hcut, hread]

/-- The inside of square brackets, cut at the mark of an exclusion. -/
def splitMark : List Char → Bool × List Char
  | '^' :: body => (false, body)
  | body => (true, body)

theorem read_squared (ignoreCase : Bool) (s : List Char) :
    read ignoreCase ('[' :: s ++ [']']) =
      ⟨'[' :: s ++ [']'], (splitMark s).1,
        (readMembers ignoreCase ('[' :: s ++ [']']) (splitMark s).2).1,
        (readMembers ignoreCase ('[' :: s ++ [']']) (splitMark s).2).2⟩ := by
  have hlast : (s ++ [']']).getLast? = some ']' := List.getLast?_concat
  have hfront : (s ++ [']']).dropLast = s := List.dropLast_concat
  obtain ⟨c, rest, hrest⟩ := List.exists_cons_of_ne_nil (l := s ++ [']']) (by simp)
  rw [List.cons_append]
  rw [hrest] at hlast hfront ⊢
  unfold read
  simp only [hlast, hfront, ne_eq, not_true, if_false]
  rfl

theorem splitMark_inside (exclusion : Bool) (regexes : List (List Char)) :
    splitMark (SetPhrase.inside exclusion regexes) = (!exclusion, regexes.flatMap angled) := by
  unfold SetPhrase.inside
  cases exclusion with
  | true => rfl
  | false => cases regexes <;> rfl

/-- What is read as an inclusion or an exclusion is written as one. -/
theorem inside_of_splitMark (h : (splitMark s).2 = regexes.flatMap angled) :
    s = SetPhrase.inside (!(splitMark s).1) regexes := by
  unfold splitMark SetPhrase.inside at *
  split at h
  · rw [← h]
    rfl
  · exact h

/-- A set of the grammar is read as its parts. -/
theorem read_text {atom : SetPhrase} (h : atom.Valid ignoreCase) (hcounted : atom.Counted) :
    read ignoreCase atom.text = atom.set ignoreCase := by
  cases atom with
  | single regex =>
    have hmember : SetPhrase.Member ignoreCase regex := h
    have hread := Member.read_eq_ok_iff.mpr ⟨hmember.admits, rfl⟩
    rw [SetPhrase.text, read_angled ignoreCase hmember.balanced hcounted, hread]
    rfl
  | several exclusion regexes =>
    rw [SetPhrase.text, read_squared, splitMark_inside, readMembers_angled _ h.2 hcounted.2]
    rfl

theorem valid_of_read_angled (hbalanced : Balanced '<' '>' regex) (hcounted : Countable '<' regex)
    (h : (read ignoreCase (angled regex)).fault = none) :
    (SetPhrase.single regex).Valid ignoreCase := by
  rw [read_angled ignoreCase hbalanced hcounted] at h
  cases hread : Member.read ignoreCase regex with
  | error e => simp [hread] at h
  | ok m => exact ⟨hbalanced, (Member.read_eq_ok_iff.mp hread).1⟩

theorem valid_of_read_squared (hbalanced : Balanced '[' ']' s) (hcountable : Countable '[' s)
    (h : (read ignoreCase ('[' :: s ++ [']'])).fault = none) :
    ∃ atom : SetPhrase, atom.Valid ignoreCase ∧ atom.Counted ∧ atom.text = '[' :: s ++ [']'] := by
  rw [read_squared] at h
  obtain ⟨regexes, htext, hregexes, hcounted⟩ := exists_regexes h
  have hinside := inside_of_splitMark htext
  refine ⟨.several (!(splitMark s).1) regexes, ⟨?_, hregexes⟩, ⟨?_, hcounted⟩, ?_⟩
  · rw [← hinside]
    exact hbalanced
  · rw [← hinside]
    exact hcountable
  · rw [SetPhrase.text, ← hinside]

/-- A set that is read without a fault is one of the grammar. -/
theorem exists_setPhrase {c closing : Char} (hc : Bracket.closing? c = some closing) (hne : c ≠ '(')
    (hbalanced : Balanced c closing s) (hcountable : Countable c s)
    (h : (read ignoreCase (c :: s ++ [closing])).fault = none) :
    ∃ atom : SetPhrase, atom.Valid ignoreCase ∧ atom.Counted ∧
      atom.text = c :: s ++ [closing] := by
  obtain ⟨ho, hclosing⟩ | ⟨ho, hclosing⟩ | ⟨ho, hclosing⟩ := Bracket.closing?_cases hc
  · exact absurd ho hne
  · rw [ho] at hcountable
    rw [ho, hclosing] at hbalanced h ⊢
    exact ⟨.single s, valid_of_read_angled hbalanced hcountable h, hcountable, rfl⟩
  · rw [ho] at hcountable
    rw [ho, hclosing] at hbalanced h ⊢
    exact valid_of_read_squared hbalanced hcountable h

end MemberSet

namespace Pattern

variable {q rest pattern : List Char}

theorem cutQuantifier?_nil (h : ∀ c ∈ rest.head?, c ∉ ['+', '?', '*', '{']) :
    cutQuantifier? rest = some ([], rest) := by
  cases rest with
  | nil => rfl
  | cons c s =>
    have hc : c ∉ ['+', '?', '*', '{'] := h c rfl
    have hne : ∀ d ∈ ['+', '?', '*', '{'], c ≠ d := fun d hd he => hc (he ▸ hd)
    unfold cutQuantifier?
    split
    · next heq => exact absurd (List.cons.inj heq).1 (hne '+' (by decide))
    · next heq => exact absurd (List.cons.inj heq).1 (hne '?' (by decide))
    · next heq => exact absurd (List.cons.inj heq).1 (hne '*' (by decide))
    · next heq => exact absurd (List.cons.inj heq).1 (hne '{' (by decide))
    · rfl

theorem cutQuantifier?_braces {body : List Char} (h : '}' ∉ body) (rest : List Char) :
    cutQuantifier? ('{' :: body ++ ['}'] ++ rest) = some ('{' :: body ++ ['}'], rest) := by
  have hbody : ∀ c ∈ body, (c != '}') = true := by
    intro c hc
    rw [bne_iff_ne]
    exact fun heq => h (heq ▸ hc)
  have htext : '{' :: body ++ ['}'] ++ rest = '{' :: (body ++ '}' :: rest) := by simp
  rw [htext, cutQuantifier?, List.dropWhile_append_of_pos hbody, List.takeWhile_append_of_pos hbody]
  simp

theorem no_brace_of_numeral {s : List Char} {n : Nat} (h : Text.Numeral s n) : '}' ∉ s := by
  intro hmem
  exact absurd (h.digits '}' hmem) (by decide)

/-- A quantifier is cut off where it ends. -/
theorem cutQuantifier?_append_of_quantifies (h : Phrase.Quantifies q rest) :
    cutQuantifier? (q ++ rest) = some (q, rest) := by
  obtain ⟨⟨b, hwritten⟩, hhead⟩ := h
  generalize b.min = n at hwritten
  generalize b.max = m at hwritten
  cases hwritten with
  | once => exact cutQuantifier?_nil (hhead rfl)
  | optional => rfl
  | repeated => rfl
  | any => rfl
  | exactly hs => exact cutQuantifier?_braces (no_brace_of_numeral hs) rest
  | atLeast hs =>
    refine cutQuantifier?_braces ?_ rest
    simpa using no_brace_of_numeral hs
  | atMost ht =>
    refine cutQuantifier?_braces ?_ rest
    simpa using no_brace_of_numeral ht
  | between hs ht =>
    refine cutQuantifier?_braces ?_ rest
    simpa using ⟨no_brace_of_numeral hs, no_brace_of_numeral ht⟩

theorem quantifies_of_cutQuantifier? {s : List Char} {b : Bounds}
    (h : cutQuantifier? s = some (q, rest)) (hb : Bounds.read pattern q = .ok b) :
    Phrase.Quantifies q rest := by
  refine ⟨⟨b, Bounds.read_eq_ok_iff.mp hb⟩, ?_⟩
  intro hq c hc
  rw [hq] at h
  have hs : s = rest := (append_of_cutQuantifier? h).symm
  rw [← hs] at hc
  unfold cutQuantifier? at h
  split at h
  · simp at h
  · simp at h
  · simp at h
  · split at h <;> simp at h
  · next hplus hoptional hstar hbrace =>
    obtain ⟨t, ht⟩ : ∃ t, s = c :: t := List.head?_eq_some_iff.mp hc
    simp only [List.mem_cons, List.not_mem_nil, or_false, not_or]
    refine ⟨?_, ?_, ?_, ?_⟩
    · exact fun hc => hplus t (hc ▸ ht)
    · exact fun hc => hoptional t (hc ▸ ht)
    · exact fun hc => hstar t (hc ▸ ht)
    · exact fun hc => hbrace t (hc ▸ ht)

/-- A pattern of the grammar is read as its parts. -/
theorem readItems_text {ignoreCase : Bool} {p : Phrase} (h : p.Valid ignoreCase)
    (hcounted : p.Counted) (whole : List Char) : readItems ignoreCase whole p.text = p.pattern ignoreCase := by
  induction p generalizing whole with
  | done => exact readItems_nil ignoreCase whole
  | group inner q rest hinner hrest =>
    obtain ⟨hbalanced, hvalid, hquantifies, hfollowing⟩ := h
    obtain ⟨hcountable, hcounted, hcounted'⟩ := hcounted
    have hcut := Bracket.close?_of_balanced (by decide) hbalanced hcountable (q ++ rest.text)
    have hq := cutQuantifier?_append_of_quantifies hquantifies
    rw [Phrase.text_group, readItems_item rfl hcut hq, if_pos rfl, hinner hvalid hcounted,
      hrest hfollowing hcounted']
    rfl
  | set atom q rest hrest =>
    obtain ⟨hatom, hquantifies, hfollowing⟩ := h
    have hq := cutQuantifier?_append_of_quantifies hquantifies
    obtain ⟨c, closing, inside, hc, hne, hbalanced, hcountable, htext⟩ := hatom.bracketed
    have hcut := Bracket.close?_of_balanced (Bracket.ne_of_closing? hc) hbalanced
      (hcountable hcounted.1) (q ++ rest.text)
    rw [Phrase.text_set htext, readItems_item hc hcut hq, if_neg hne, hrest hfollowing hcounted.2,
      ← htext, MemberSet.read_text hatom hcounted.1]
    rfl

theorem pattern_sound {ignoreCase : Bool} {p : Phrase} (h : p.Valid ignoreCase) :
    (p.pattern ignoreCase).Sound := by
  induction p with
  | done => trivial
  | group inner q rest hinner hrest =>
    obtain ⟨-, hvalid, hquantifies, hfollowing⟩ := h
    obtain ⟨b, hwritten⟩ := hquantifies.written
    unfold Phrase.pattern
    by_cases hq : q.isEmpty = true
    · rw [if_pos hq]
      exact ⟨hinner hvalid, hrest hfollowing⟩
    · rw [if_neg hq]
      exact ⟨hinner hvalid, ⟨b, Bounds.read_eq_ok_iff.mpr hwritten⟩, hrest hfollowing⟩
  | set atom q rest hrest =>
    obtain ⟨-, hquantifies, hfollowing⟩ := h
    obtain ⟨b, hwritten⟩ := hquantifies.written
    exact ⟨rfl, ⟨b, Bounds.read_eq_ok_iff.mpr hwritten⟩, hrest hfollowing⟩

theorem valid_group {ignoreCase : Bool} {s inside : List Char} {closing : Char} {p r : Phrase}
    {rest' : List Char} {b : Bounds} (hc : Bracket.closing? '(' = some closing)
    (hcut : Bracket.close? '(' closing s = some (inside, rest))
    (hq : cutQuantifier? rest = some (q, rest')) (hb : Bounds.read pattern q = .ok b)
    (hp : p.Valid ignoreCase) (hpcounted : p.Counted) (hptext : p.text = inside)
    (hr : r.Valid ignoreCase) (hrcounted : r.Counted) (hrtext : r.text = rest') :
    (Phrase.group p q r).Valid ignoreCase ∧ (Phrase.group p q r).Counted ∧
      (Phrase.group p q r).text = '(' :: s := by
  have hclosing : ')' = closing := Option.some.inj hc
  obtain ⟨hs, hbalanced, hcountable⟩ :=
    (Bracket.close?_eq_some_iff (Bracket.ne_of_closing? hc)).mp hcut
  have hquantifies := quantifies_of_cutQuantifier? hq hb
  rw [← hrtext] at hquantifies
  rw [← hclosing, ← hptext] at hbalanced
  rw [← hptext] at hcountable
  refine ⟨⟨hbalanced, hp, hquantifies, hr⟩, ⟨hcountable, hpcounted, hrcounted⟩, ?_⟩
  rw [Phrase.text, hptext, hrtext, hs, ← append_of_cutQuantifier? hq, ← hclosing]
  simp

/-- What is read without a fault is a pattern of the grammar. -/
theorem exists_phrase {ignoreCase : Bool} {whole s : List Char}
    (h : (readItems ignoreCase whole s).Sound) :
    ∃ p : Phrase, p.Valid ignoreCase ∧ p.Counted ∧ p.text = s := by
  fun_induction readItems ignoreCase whole s with
  | case1 whole => exact ⟨.done, trivial, trivial, rfl⟩
  | case2 whole c s hc => exact h.elim
  | case3 whole c s closing hc hcut => exact h.elim
  | case4 whole c s closing hc inside rest hcut hq => exact h.elim
  | case5 whole s closing inside rest q rest' hq inner hempty hc hcut _ atom text hinner hrest =>
    obtain ⟨p, hp, hpcounted, hptext⟩ := hinner h.1
    obtain ⟨r, hr, hrcounted, hrtext⟩ := hrest h.2
    have hnil : q = [] := List.isEmpty_iff.mp hempty
    have hb : Bounds.read [] q = .ok ⟨1, 1, le_rfl⟩ := by
      rw [hnil]
      rfl
    exact ⟨.group p q r,
      valid_group hc hcut hq hb hp hpcounted hptext hr hrcounted hrtext⟩
  | case6 whole s closing inside rest q rest' hq inner hempty hc hcut _ atom text hinner hrest =>
    obtain ⟨p, hp, hpcounted, hptext⟩ := hinner h.1
    obtain ⟨b, hb⟩ := h.2.1
    obtain ⟨r, hr, hrcounted, hrtext⟩ := hrest h.2.2
    exact ⟨.group p q r,
      valid_group hc hcut hq hb hp hpcounted hptext hr hrcounted hrtext⟩
  | case7 whole c s closing hc inside rest hcut q rest' hq _ atom text hne ih =>
    obtain ⟨r, hr, hrcounted, hrtext⟩ := ih h.2.2
    obtain ⟨b, hb⟩ := h.2.1
    obtain ⟨hs, hbalanced, hcountable⟩ :=
      (Bracket.close?_eq_some_iff (Bracket.ne_of_closing? hc)).mp hcut
    obtain ⟨a, ha, hacounted, hatext⟩ :=
      MemberSet.exists_setPhrase hc hne hbalanced hcountable h.1
    have hquantifies := quantifies_of_cutQuantifier? hq hb
    rw [← hrtext] at hquantifies
    refine ⟨.set a q r, ⟨ha, hquantifies, hr⟩, ⟨hacounted, hrcounted⟩, ?_⟩
    rw [Phrase.text, hatext, hrtext, hs, ← append_of_cutQuantifier? hq]
    simp

end Pattern

namespace SetPhrase

variable {ignoreCase : Bool}

theorem angled_regexes_unique {rs rs' : List (List Char)}
    (hrs : ∀ regex ∈ rs, Member ignoreCase regex) (hrs' : ∀ regex ∈ rs', Member ignoreCase regex)
    (h : rs.flatMap angled = rs'.flatMap angled) : rs = rs' := by
  induction rs generalizing rs' with
  | nil =>
    cases rs' with
    | nil => rfl
    | cons r' rs' =>
      rw [flatMap_angled_cons] at h
      cases h
  | cons r rs ih =>
    cases rs' with
    | nil =>
      rw [flatMap_angled_cons] at h
      cases h
    | cons r' rs' =>
      obtain ⟨hr, hrs⟩ := List.forall_mem_cons.mp hrs
      obtain ⟨hr', hrs'⟩ := List.forall_mem_cons.mp hrs'
      rw [flatMap_angled_cons, flatMap_angled_cons] at h
      obtain ⟨hregex, hrest⟩ := Bracket.enclosed_unique (by decide) hr.balanced hr'.balanced
        (List.cons.inj h).2
      rw [hregex, ih hrs hrs' hrest]

/-- A text is no two sets of the grammar. -/
theorem unique {s t : SetPhrase} (hs : s.Valid ignoreCase) (ht : t.Valid ignoreCase)
    (h : s.text = t.text) : s = t := by
  have hlast {c closing : Char} {u v : List Char}
      (h : c :: u ++ [closing] = c :: v ++ [closing]) : u = v :=
    (List.cons.inj (List.append_cancel_right h)).2
  cases s with
  | single r =>
    cases t with
    | single r' => rw [hlast h]
    | several e' rs' => exact absurd (List.cons.inj h).1 (by decide)
  | several e rs =>
    cases t with
    | single r' => exact absurd (List.cons.inj h).1 (by decide)
    | several e' rs' =>
      have hsplit := congrArg MemberSet.splitMark (hlast h)
      rw [MemberSet.splitMark_inside, MemberSet.splitMark_inside] at hsplit
      obtain ⟨he, hrs⟩ := Prod.mk.inj hsplit
      rw [Bool.not_inj he, angled_regexes_unique hs.2 ht.2 hrs]

end SetPhrase

/-- A quantifier ends in only one place. -/
theorem Phrase.Quantifies.unique {q q' following following' : List Char}
    (hq : Quantifies q following) (hq' : Quantifies q' following')
    (h : q ++ following = q' ++ following') : q = q' ∧ following = following' := by
  have hcut := Pattern.cutQuantifier?_append_of_quantifies hq
  rw [h, Pattern.cutQuantifier?_append_of_quantifies hq'] at hcut
  obtain ⟨hqeq, hfollowing⟩ := Prod.mk.inj (Option.some.inj hcut)
  exact ⟨hqeq.symm, hfollowing.symm⟩

/-- A text is no two patterns of the grammar: the first item ends where its brackets and its
quantifier do, and so do those behind it. -/
theorem Phrase.unique {ignoreCase : Bool} {p p' : Phrase} (hp : p.Valid ignoreCase)
    (hp' : p'.Valid ignoreCase) (h : p.text = p'.text) : p = p' := by
  induction p generalizing p' with
  | done =>
    cases p' with
    | done => rfl
    | group inner' q' rest' =>
      rw [text_group] at h
      cases h
    | set atom' q' rest' =>
      obtain ⟨c', closing', inside', -, -, -, -, htext'⟩ := hp'.1.bracketed
      rw [text_set htext'] at h
      cases h
  | group inner q rest hinner hrest =>
    obtain ⟨hbalanced, hvalid, hq, hfollowing⟩ := hp
    cases p' with
    | done =>
      rw [text_group] at h
      cases h
    | group inner' q' rest' =>
      obtain ⟨hbalanced', hvalid', hq', hfollowing'⟩ := hp'
      rw [text_group, text_group] at h
      obtain ⟨hinside, hbehind⟩ := Bracket.enclosed_unique (by decide) hbalanced hbalanced'
        (List.cons.inj h).2
      obtain ⟨hqeq, hresteq⟩ := hq.unique hq' hbehind
      rw [hinner hvalid hvalid' hinside, hqeq, hrest hfollowing hfollowing' hresteq]
    | set atom' q' rest' =>
      obtain ⟨c', closing', inside', -, hne', -, -, htext'⟩ := hp'.1.bracketed
      rw [text_group, text_set htext'] at h
      exact absurd (List.cons.inj h).1.symm hne'
  | set atom q rest hrest =>
    obtain ⟨hatom, hq, hfollowing⟩ := hp
    obtain ⟨c, closing, inside, hc, hne, hbalanced, -, htext⟩ := hatom.bracketed
    rw [text_set htext] at h
    cases p' with
    | done => cases h
    | group inner' q' rest' =>
      rw [text_group] at h
      exact absurd (List.cons.inj h).1 hne
    | set atom' q' rest' =>
      obtain ⟨hatom', hq', hfollowing'⟩ := hp'
      obtain ⟨c', closing', inside', hc', -, hbalanced', -, htext'⟩ := hatom'.bracketed
      rw [text_set htext'] at h
      obtain ⟨heq, hbehind⟩ := List.cons.inj h
      rw [← heq] at hc' hbalanced' htext'
      have hclosing : closing' = closing := Option.some.inj (hc'.symm.trans hc)
      rw [hclosing] at hbalanced' htext' hbehind
      obtain ⟨hinside, hbehind⟩ := Bracket.enclosed_unique (Bracket.ne_of_closing? hc) hbalanced
        hbalanced' hbehind
      obtain ⟨hqeq, hresteq⟩ := hq.unique hq' hbehind
      have hatomeq : atom = atom' :=
        SetPhrase.unique hatom hatom' (by rw [htext, htext', hinside])
      rw [hatomeq, hqeq, hrest hfollowing hfollowing' hresteq]

end NamePattern
