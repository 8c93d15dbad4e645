import Mathlib
import NamePattern.Proofs.Defined
import NamePattern.Proofs.Refusal

/-! What is wrong with a text does not depend on the arena. It is reported with the piece of the text
that cannot be compiled, however deep this piece is nested. -/
namespace NamePattern

/-- What an error finds fault with in its pattern, if it names that. -/
def CompileError.found? : CompileError → Option (List Char)
  | unexpected _ found => some found
  | quantifier _ q => some q
  | overflow _ bound => some bound
  | bracketMismatch _ | missingRightBrace _ | bounds _ _ _ | componentRegex _ => none

/-- A text has more opening brackets of one kind than can be counted. -/
def Bracket.Crowded (text : List Char) : Prop :=
  ∃ o c, closing? o = some c ∧ counterLimit ≤ text.count o

theorem Bracket.Crowded.mono {text whole : List Char} (h : Crowded text) (hsub : text <:+: whole) :
    Crowded whole := by
  obtain ⟨o, c, hc, hle⟩ := h
  exact ⟨o, c, hc, Nat.le_trans hle (hsub.sublist.count_le o)⟩

namespace Fault

variable {f : Fault} {e : CompileError} {ignoreCase : Bool} {o c : Char} {text whole s : List Char}

/-- A text is the pattern of a fault, and what the fault is found with is a piece of it. Only a text
with too many brackets makes a counter overflow. -/
structure About (f : Fault) (text : List Char) : Prop where
  pattern : f.error.pattern = text
  found : ∀ s, f.error.found? = some s → s <:+: text
  crowded : ∀ p, f = .overflow p → Bracket.Crowded text

/-- A fault quotes a piece of a text, and a call on this piece alone has the same fault. -/
structure Quotes (f : Fault) (ignoreCase : Bool) (text : List Char) : Prop where
  pattern : f.error.pattern <:+: text
  found : ∀ s, f.error.found? = some s → s <:+: f.error.pattern
  again : ∃ c : Call, c.text = f.error.pattern ∧ c.fault? ignoreCase = some f
  crowded : ∀ p, f = .overflow p → Bracket.Crowded text

theorem Quotes.mono (h : f.Quotes ignoreCase text) (hsub : text <:+: whole) :
    f.Quotes ignoreCase whole :=
  ⟨h.pattern.trans hsub, h.found, h.again, fun p hp => (h.crowded p hp).mono hsub⟩

theorem About.of_none (h : e.pattern = text) (hnone : e.found? = none) :
    About (.refused e) text := by
  refine ⟨h, fun s hs => ?_, fun p hp => by cases hp⟩
  rw [error, hnone] at hs
  cases hs

theorem About.of_some (h : e.pattern = text) (hsome : e.found? = some s) (hs : s <:+: text) :
    About (.refused e) text := by
  refine ⟨h, fun s' hs' => ?_, fun p hp => by cases hp⟩
  rw [error, hsome] at hs'
  exact Option.some.inj hs' ▸ hs

theorem About.unclosed (hc : Bracket.closing? o = some c) (hs : o :: s <:+: whole) :
    About (unclosed o s whole) whole := by
  by_cases hcountable : Bracket.Countable o s
  · rw [unclosed_of_countable hcountable]
    exact .of_none rfl rfl
  · rw [unclosed_of_not_countable hcountable]
    refine ⟨rfl, fun s hs => (by cases hs), fun _ _ => ⟨o, c, hc, ?_⟩⟩
    have hle := hs.sublist.count_le o
    rw [List.count_cons_self] at hle
    exact Nat.le_trans (Nat.le_of_not_lt hcountable) hle

/-- The text of a call is quoted by a fault about it. -/
theorem About.quotes (h : f.About text) (c : Call) (htext : c.text = text)
    (hc : c.fault? ignoreCase = some f) : f.Quotes ignoreCase text where
  pattern := h.pattern ▸ List.infix_rfl
  found := h.pattern.symm ▸ h.found
  again := ⟨c, htext.trans h.pattern.symm, hc⟩
  crowded := h.crowded

end Fault

namespace Bounds

variable {pattern q s body : List Char} {texts : List (List Char)} {e : CompileError}

theorem Divides.infix_of_mem (h : Divides body texts) : ∀ s ∈ texts, s <:+: body := by
  cases h with
  | whole => simp
  | right t => exact List.forall_mem_singleton.mpr (List.suffix_cons ..).isInfix
  | left => exact List.forall_mem_singleton.mpr (List.prefix_append ..).isInfix
  | @both s t =>
    have hs : s <:+: s ++ ',' :: t := (List.prefix_append ..).isInfix
    have ht : t <:+: s ++ ',' :: t := ((List.suffix_cons ..).trans (List.suffix_append ..)).isInfix
    exact List.forall_mem_cons.mpr ⟨hs, List.forall_mem_singleton.mpr ht⟩

theorem FirstBad.about (h : FirstBad pattern q texts e) (hq : q <:+: pattern)
    (htexts : ∀ s ∈ texts, s <:+: pattern) : Fault.About (.refused e) pattern := by
  induction h with
  | here hbad later =>
    cases hbad with
    | shape => exact .of_some rfl rfl hq
    | large => exact .of_some rfl rfl (htexts _ (List.mem_cons_self ..))
  | later _ _ ih => exact ih (List.forall_mem_cons.mp htexts).2

/-- A quantifier is refused with the item that it stands in. -/
theorem Refused.about (h : Refused pattern q e) (hq : q <:+: pattern) :
    Fault.About (.refused e) pattern := by
  cases h with
  | shape => exact .of_some rfl rfl hq
  | @bound body texts _ heq hbody hbad =>
    refine hbad.about hq fun s hs => (hbody.infix_of_mem s hs).trans (List.IsInfix.trans ?_ hq)
    rw [heq]
    exact ⟨['{'], ['}'], rfl⟩
  | reversed => exact .of_none rfl rfl

end Bounds

namespace Bracket

variable {o c : Char} {s inside rest : List Char}

theorem infix_of_close? (h : close? o c s = some (inside, rest)) : inside <:+: s :=
  append_of_close? h ▸ (List.prefix_append ..).isInfix

theorem suffix_of_close? (h : close? o c s = some (inside, rest)) : rest <:+ s :=
  append_of_close? h ▸ (List.suffix_cons ..).trans (List.suffix_append ..)

end Bracket

theorem Member.about_of_read {ignoreCase : Bool} {text : List Char} {e : CompileError}
    (h : read ignoreCase text = .error e) : Fault.About (.refused e) text := by
  unfold read at h
  split at h
  · cases h
  · split at h
    · cases h
    · cases h
      exact .of_none rfl rfl

namespace MemberSet

variable {ignoreCase : Bool} {text whole s : List Char} {f : Fault}

theorem member_quotes {e : CompileError} (h : Member.read ignoreCase s = .error e) :
    Fault.Quotes (.refused e) ignoreCase s := by
  refine (Member.about_of_read h).quotes (.component s) rfl ?_
  rw [Call.fault?, h]
  rfl

theorem splitMark_suffix (s : List Char) : (splitMark s).2 <:+ s := by
  unfold splitMark
  split
  · exact List.suffix_cons ..
  · exact List.suffix_rfl

/-- By induction on the members: what is left of them stays a piece of the set. -/
theorem readMembers_quotes (hs : s <:+: whole) (h : (readMembers ignoreCase whole s).2 = some f) :
    f.About whole ∨ f.Quotes ignoreCase whole := by
  fun_induction readMembers ignoreCase whole s with
  | case1 => cases h
  | case2 s hcut =>
    cases h
    exact .inl (.unclosed rfl hs)
  | case3 s inside rest hcut e' hread =>
    cases h
    have hinside : inside <:+: '<' :: s :=
      (Bracket.infix_of_close? hcut).trans (List.suffix_cons ..).isInfix
    exact .inr ((member_quotes hread).mono (hinside.trans hs))
  | case4 s inside rest hcut m hread _ ms fault hrest ih =>
    rw [hrest] at ih
    have hsuffix : rest <:+ '<' :: s := (Bracket.suffix_of_close? hcut).trans (List.suffix_cons ..)
    exact ih (hsuffix.isInfix.trans hs) h
  | case5 s =>
    cases h
    exact .inl (.of_some rfl rfl hs)

theorem angled_quotes (hs : s ≠ []) (h : (read ignoreCase ('<' :: s)).fault = some f) :
    f.About ('<' :: s) ∨ f.Quotes ignoreCase ('<' :: s) := by
  obtain ⟨c, t, rfl⟩ := List.exists_cons_of_ne_nil hs
  have hsub : c :: t <:+ '<' :: c :: t := List.suffix_cons ..
  unfold read at h
  cases hcut : Bracket.close? '<' '>' (c :: t) with
  | none =>
    simp only [hcut] at h
    cases h
    exact .inl (.unclosed rfl List.infix_rfl)
  | some parts =>
    obtain ⟨inside, rest⟩ := parts
    have hinside := (Bracket.infix_of_close? hcut).trans hsub.isInfix
    have hrest := (Bracket.suffix_of_close? hcut).trans hsub
    cases rest with
    | cons d rest =>
      simp only [hcut] at h
      cases h
      exact .inl (.of_some rfl rfl hrest.isInfix)
    | nil =>
      cases hread : Member.read ignoreCase inside with
      | ok m => simp [hcut, hread] at h
      | error e' =>
        simp only [hcut, hread] at h
        cases h
        exact .inr ((member_quotes hread).mono hinside)

theorem squared_quotes (h : (read ignoreCase ('[' :: s ++ [']'])).fault = some f) :
    f.About ('[' :: s ++ [']']) ∨ f.Quotes ignoreCase ('[' :: s ++ [']']) := by
  rw [read_squared] at h
  have hbody : (splitMark s).2 <:+: '[' :: s ++ [']'] :=
    (splitMark_suffix s).isInfix.trans ⟨['['], [']'], rfl⟩
  exact readMembers_quotes hbody h

theorem read_about_or_quotes (h : (read ignoreCase text).fault = some f) :
    f.About text ∨ f.Quotes ignoreCase text := by
  have hread := h
  unfold read at hread
  dsimp only at hread
  split at hread
  · cases hread
    exact .inl (.of_some rfl rfl List.infix_rfl)
  · cases hread
    exact .inl (.of_some rfl rfl List.infix_rfl)
  · next s hs => exact angled_quotes hs h
  · next s _ =>
    split at hread
    · cases hread
      exact .inl (.of_none rfl rfl)
    · next hlast =>
      obtain ⟨body, hs⟩ := List.getLast?_eq_some_iff.mp (not_not.mp hlast)
      rw [hs, ← List.cons_append] at h ⊢
      exact squared_quotes h
  · cases hread
    exact .inl (.of_some rfl rfl (List.prefix_append [_] _).isInfix)

/-- A set is refused with its own text or with that of the regex of a member. -/
theorem read_quotes (h : (read ignoreCase text).fault = some f) : f.Quotes ignoreCase text := by
  obtain habout | hquotes := read_about_or_quotes h
  · exact habout.quotes (.componentSet text) rfl h
  · exact hquotes

end MemberSet

namespace Pattern

variable {ignoreCase : Bool} {c closing : Char} {text whole s inside rest q rest' atom : List Char}
  {f : Fault}

/-- What is inside an item, the item with its quantifier and what follows are pieces of the text from
the item on. -/
theorem pieces_of_item (hcut : Bracket.close? c closing s = some (inside, rest))
    (hq : cutQuantifier? rest = some (q, rest')) :
    inside <:+: c :: s ∧ c :: inside ++ [closing] ++ q <:+: c :: s ∧ rest' <:+: c :: s := by
  have hs : c :: s = c :: inside ++ [closing] ++ q ++ rest' := by
    rw [← Bracket.append_of_close? hcut, ← append_of_cutQuantifier? hq]
    simp
  refine ⟨(Bracket.infix_of_close? hcut).trans (List.suffix_cons ..).isInfix, ?_, ?_⟩
  · rw [hs]
    exact (List.prefix_append ..).isInfix
  · rw [hs]
    exact (List.suffix_append ..).isInfix

/-- A quantifier is refused together with what it repeats, if that is not refused itself. -/
theorem repeated_quotes
    (hatom : ∀ f, atomFault? ignoreCase atom = some f → f.Quotes ignoreCase atom)
    (h : (atomFault? ignoreCase atom).or (Fault.of? (Bounds.read (atom ++ q) q)) = some f) :
    f.Quotes ignoreCase (atom ++ q) := by
  have hcall : (Call.repeatAt (atom ++ q) (Text.utf8Length atom)).fault? ignoreCase = some f := by
    rw [Call.fault?, Text.splitAtByte?_append]
    exact h
  obtain h | ⟨-, h⟩ := Option.or_eq_some_iff.mp h
  · exact (hatom f h).mono (List.prefix_append ..).isInfix
  · obtain ⟨e, hread, he⟩ := Fault.of?_eq_some.mp h
    rw [he] at hcall ⊢
    have hq : q <:+: atom ++ q := (List.suffix_append ..).isInfix
    exact ((Bounds.read_eq_error_iff.mp hread).about hq).quotes _ rfl hcall

/-- A list of items is refused with its own text or with a piece of it. -/
theorem quotes_of_cases (h : (read ignoreCase s).fault? = some f)
    (hcases : f.About s ∨ f.Quotes ignoreCase s) : f.Quotes ignoreCase s := by
  obtain habout | hquotes := hcases
  · exact habout.quotes (.patternList s) rfl h
  · exact hquotes

theorem item_quotes (hs : c :: s <:+: whole)
    (hc : Bracket.closing? c = some closing) (hcut : Bracket.close? c closing s = some (inside, rest))
    (hq : cutQuantifier? rest = some (q, rest'))
    (hinner : c = '(' → ∀ f, (read ignoreCase inside).fault? = some f →
      f.About inside ∨ f.Quotes ignoreCase inside)
    (hrest : ∀ f, (readItems ignoreCase whole rest').fault? = some f →
      f.About whole ∨ f.Quotes ignoreCase whole)
    (h : (readItems ignoreCase whole (c :: s)).fault? = some f) :
    f.About whole ∨ f.Quotes ignoreCase whole := by
  obtain ⟨hinside, htext, -⟩ := pieces_of_item hcut hq
  rw [fault?_readItems hc hcut hq] at h
  obtain h | ⟨-, h⟩ := Option.or_eq_some_iff.mp h
  · refine .inr ((repeated_quotes (fun f' hf' => ?_) h).mono (htext.trans hs))
    by_cases hgroup : c = '('
    · rw [hgroup] at hc hf' ⊢
      have hclosing : closing = ')' := (Option.some.inj hc).symm
      rw [hclosing, atomFault?_group] at hf'
      have hquotes := quotes_of_cases hf' (hinner hgroup f' hf')
      exact hquotes.mono ⟨['('], [closing], rfl⟩
    · rw [List.cons_append, atomFault?_set hgroup] at hf'
      exact MemberSet.read_quotes hf'
  · exact hrest f h

/-- By induction on what is left of a list of items. Its own faults are about the whole list, and the
others lie within an item. -/
theorem readItems_quotes (hs : s <:+: whole) :
    ∀ f, (readItems ignoreCase whole s).fault? = some f →
      f.About whole ∨ f.Quotes ignoreCase whole := by
  fun_induction readItems ignoreCase whole s with
  | case1 whole =>
    intro f h
    cases h
  | case2 whole c s hc =>
    intro f h
    cases h
    exact .inl (.of_some rfl rfl ((List.prefix_append [c] s).isInfix.trans hs))
  | case3 whole c s closing hc hcut =>
    intro f h
    cases h
    exact .inl (.unclosed hc hs)
  | case4 whole c s closing hc inside rest hcut hq =>
    intro f h
    cases h
    exact .inl (.of_none rfl rfl)
  | case5 whole s closing inside rest q rest' hq inner hempty hc hcut _ atom text ihinner ih =>
    intro f h
    obtain ⟨-, -, hrest⟩ := pieces_of_item hcut hq
    refine item_quotes hs hc hcut hq (fun _ => ihinner List.infix_rfl) (ih (hrest.trans hs)) ?_
    rw [readItems_item hc hcut hq, if_pos rfl, if_pos hempty]
    exact h
  | case6 whole s closing inside rest q rest' hq inner hempty hc hcut _ atom text ihinner ih =>
    intro f h
    obtain ⟨-, -, hrest⟩ := pieces_of_item hcut hq
    refine item_quotes hs hc hcut hq (fun _ => ihinner List.infix_rfl) (ih (hrest.trans hs)) ?_
    rw [readItems_item hc hcut hq, if_pos rfl, if_neg hempty]
    exact h
  | case7 whole c s closing hc inside rest hcut q rest' hq _ atom text hne ih =>
    intro f h
    obtain ⟨-, -, hrest⟩ := pieces_of_item hcut hq
    refine item_quotes hs hc hcut hq (fun heq => absurd heq hne) (ih (hrest.trans hs)) ?_
    rw [readItems_item hc hcut hq, if_neg hne]
    exact h

theorem read_quotes (h : (read ignoreCase s).fault? = some f) : f.Quotes ignoreCase s :=
  quotes_of_cases h (readItems_quotes List.infix_rfl f h)

theorem readGroup_quotes (h : (readGroup ignoreCase s).fault? = some f) :
    f.Quotes ignoreCase s := by
  have hcall : (Call.backref s).fault? ignoreCase = some f := h
  cases hinside : inside? s with
  | none =>
    rw [readGroup, hinside] at h
    cases h
    exact (Fault.About.of_none rfl rfl).quotes _ rfl hcall
  | some inside =>
    rw [readGroup, hinside] at h
    have htext := eq_of_inside? hinside
    exact (read_quotes h).mono ⟨['('], [')'], htext.symm⟩

theorem atomFault?_quotes (h : atomFault? ignoreCase atom = some f) : f.Quotes ignoreCase atom := by
  unfold atomFault? at h
  split at h
  · exact readGroup_quotes h
  · exact MemberSet.read_quotes h

end Pattern

/-- A call is refused with a piece of its text. -/
theorem Call.fault?_quotes {ignoreCase : Bool} {f : Fault} (c : Call)
    (h : c.fault? ignoreCase = some f) : f.Quotes ignoreCase c.text := by
  cases c with
  | component text =>
    obtain ⟨e, hread, he⟩ := Fault.of?_eq_some.mp h
    rw [he]
    exact MemberSet.member_quotes hread
  | componentSet text => exact MemberSet.read_quotes h
  | backref text => exact Pattern.readGroup_quotes h
  | repeatAt text indicator =>
    have hcall := h
    rw [fault?] at h
    cases hsplit : Text.splitAtByte? indicator text with
    | none =>
      rw [hsplit] at h
      cases h
      exact (Fault.About.of_some rfl rfl List.infix_rfl).quotes _ rfl hcall
    | some parts =>
      obtain ⟨atom, quantifier⟩ := parts
      rw [hsplit] at h
      have htext : atom ++ quantifier = text := Text.append_of_splitAtByte? hsplit
      rw [← htext] at h ⊢
      exact Pattern.repeated_quotes (fun f' => Pattern.atomFault?_quotes) h
  | patternList text => exact Pattern.read_quotes h

/-- However deep a fault lies, the error quotes a piece of the text that was to be compiled, and of
this piece what it finds fault with. A call on this piece alone fails in the same way. -/
theorem Call.error_quotes {a b : Arena} {e : CompileError} (c : Call) (h : c.build a = .error e b) :
    e.pattern <:+: c.text ∧ (∀ s, e.found? = some s → s <:+: e.pattern) ∧
      ∃ d : Call, d.text = e.pattern ∧ ∀ a' : Arena, a'.ignoreCase = a.ignoreCase →
        ∃ b', d.build a' = .error e b' := by
  obtain ⟨f, hfault, he⟩ := c.indexed_follows.error_iff.mp ⟨b, h⟩
  obtain ⟨hpattern, hfound, ⟨d, hd, hagain⟩, -⟩ := c.fault?_quotes hfault
  rw [he] at hpattern hfound hd
  refine ⟨hpattern, hfound, d, hd, fun a' ha' => d.indexed_follows.error_iff.mpr ⟨f, ?_, he⟩⟩
  rw [ha']
  exact hagain

/-- The quantifier is quoted with the item in two groups that it belongs to, and not with the groups
or with the quantifier behind them. -/
theorem Call.error_quotes_nested : ∃ b,
    (Call.patternList "<a>((<b>{2,x}))*".toList).build (.empty false) =
        .error (.quantifier "<b>{2,x}".toList "{2,x}".toList) b ∧
      "<b>{2,x}".toList <:+: "<a>((<b>{2,x}))*".toList ∧
      "{2,x}".toList <:+: "<b>{2,x}".toList ∧
      ∃ d : Call, d.text = "<b>{2,x}".toList ∧
        ∃ b', d.build (.empty false) =
          .error (.quantifier "<b>{2,x}".toList "{2,x}".toList) b' := by
  obtain ⟨b, hb⟩ : ∃ b, (Call.patternList "<a>((<b>{2,x}))*".toList).build (.empty false) =
      .error (.quantifier "<b>{2,x}".toList "{2,x}".toList) b := ⟨_, by cbv⟩
  obtain ⟨hpattern, hfound, d, hd, hagain⟩ := Call.error_quotes _ hb
  exact ⟨b, hb, hpattern, hfound _ rfl, d, hd, hagain _ rfl⟩

end NamePattern
