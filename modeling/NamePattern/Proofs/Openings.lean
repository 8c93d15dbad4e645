import NamePattern.Proofs.Classes

/-! What a parenthesis opens is read alike with the closing behind the text. -/
namespace NamePattern.CharRegex

variable {x : Bool} {c : Char} {s : List Char}

/-- The flags of a group with the character that ends them, and what is left apart. -/
def readFlagGroup (change : FlagChange) (minus dangling : Bool) (s : List Char) :
    Option ((FlagChange × Char) × List Char) :=
  (readFlags change minus dangling s).map fun p => ((p.1, p.2.1), p.2.2)

theorem readFlagGroup_steady (change : FlagChange) (minus dangling : Bool) :
    Steady 1 never (readFlagGroup change minus dangling) := by
  intro s
  induction s generalizing change minus dangling with
  | nil =>
    refine .ofNone rfl fun h hr => ?_
    cases dangling with
    | true => cases h
    | false =>
      cases h
      have hlength : closing.length = 3 := rfl
      simp [hlength] at hr
  | cons c s ih =>
    by_cases hstop : c = ':' ∨ c = ')'
    · have hend : Steady 0 never fun s => if dangling then none else some ((change, c), s) :=
        .ite .none (.pure _)
      refine (hend s).cons fun r => ?_
      simp only [readFlagGroup, readFlags, if_pos hstop]
      cases dangling <;> rfl
    by_cases hminus : c = '-'
    · cases minus with
      | true =>
        have hnone (r : List Char) : readFlagGroup change true dangling (c :: r) = none := by
          rw [hminus]
          rfl
        exact .refuse (hnone s) (hnone _)
      | false =>
        refine ((ih change true true).cons fun r => ?_).mono (Nat.le_succ 1)
        rw [hminus]
        rfl
    · cases hflag : Flag.ofChar? c with
      | none =>
        have hnone (r : List Char) : readFlagGroup change minus dangling (c :: r) = none := by
          simp only [readFlagGroup, readFlags, if_neg hstop, if_neg hminus, hflag]
          rfl
        exact .refuse (hnone s) (hnone _)
      | some f =>
        by_cases hnew : (change.get? f).isSome
        · have hnone (r : List Char) : readFlagGroup change minus dangling (c :: r) = none := by
            simp only [readFlagGroup, readFlags, if_neg hstop, if_neg hminus, hflag, if_pos hnew]
            rfl
          exact .refuse (hnone s) (hnone _)
        · refine ((ih (change ++ [(f, !minus)]) minus false).cons fun r => ?_).mono (Nat.le_succ 1)
          simp only [readFlagGroup, readFlags, if_neg hstop, if_neg hminus, hflag, if_neg hnew]

/-- The name of a group, if it is one. -/
def groupName? : List Char → Option (List Char)
  | [] => none
  | first :: others =>
    let isNameChar (c : Char) :=
      c == '_' || c == '.' || c == '[' || c == ']' || Text.isLetterOrNumber c
    if (first == '_' || Text.isLetter first) && others.all isNameChar then some (first :: others)
    else none

theorem readGroupName_eq (s : List Char) : readGroupName s =
    match s.dropWhile (· != '>') with
    | [] => none
    | _ :: r => (groupName? (s.takeWhile (· != '>'))).map fun name => (name, r) := by
  unfold readGroupName groupName?
  simp only
  cases s.takeWhile (· != '>') with
  | nil => cases s.dropWhile (· != '>') <;> rfl
  | cons first others =>
    cases s.dropWhile (· != '>') with
    | nil => rfl
    | cons c r =>
      simp only
      split <;> rfl

theorem readGroupName_steady : Steady 0 never readGroupName := by
  intro s
  have happend := (List.takeWhile_append_dropWhile (p := (· != '>')) (l := s)).symm
  have hp : closing.all (· != '>') = true := by decide
  obtain ⟨hs, hclosed⟩ | ⟨c, r, hs, hclosed, htake⟩ := span_closing hp s
  · exact .refuse (by rw [readGroupName_eq, hs]) (by rw [readGroupName_eq, hclosed])
  · rw [hs] at happend
    have halone : readGroupName s =
        (groupName? (s.takeWhile (· != '>'))).map fun name => (name, r) := by
      rw [readGroupName_eq, hs]
    have hbehind : readGroupName (s ++ closing) =
        (groupName? (s.takeWhile (· != '>'))).map fun name => (name, r ++ closing) := by
      rw [readGroupName_eq, hclosed, htake]
    cases hname : groupName? (s.takeWhile (· != '>')) with
    | none =>
      rw [hname] at halone hbehind
      exact .refuse halone hbehind
    | some name =>
      rw [hname] at halone hbehind
      have htaken : s = (s.takeWhile (· != '>') ++ [c]) ++ r := by
        rw [List.append_assoc]
        exact happend
      exact .answer halone hbehind htaken (Nat.zero_le _)

/-- What reading has found so far, without the text that is left. -/
structure Setting where
  groups : Nat
  names : List (List Char)
  extended : Bool

/-- Reading goes on with some text. -/
def Setting.on (σ : Setting) (s : List Char) : Progress := ⟨s, σ.groups, σ.names, σ.extended⟩

def Progress.setting (p : Progress) : Setting := ⟨p.groups, p.names, p.extended⟩

/-- A name that no other group has, and the group with this name. -/
def readNamed (σ : Setting) (s : List Char) : Option ((Opening × Setting) × List Char) :=
  readGroupName s >>= fun (name, s) =>
    if σ.names.contains name then none
    else some ((.capture (σ.groups + 1), ⟨σ.groups + 1, name :: σ.names, σ.extended⟩), s)

/-- Flags that are set for a group or for the rest of one. -/
def readFlagOpening (σ : Setting) (s : List Char) : Option ((Opening × Setting) × List Char) :=
  readFlagGroup [] false false s >>= fun (p, s) =>
    if p.2 = ':' then some ((.group p.1, σ), s)
    else if p.1.isEmpty then none
    else some ((.flags p.1, σ), s)

/-- What follows a question mark behind a parenthesis. -/
def readQuestioned (σ : Setting) : List Char → Option ((Opening × Setting) × List Char)
  | 'P' :: '<' :: s => readNamed σ s
  | '<' :: s => readNamed σ s
  | s => readFlagOpening σ s

/-- What a parenthesis opens, with what is left apart. -/
def readOpened (σ : Setting) : List Char → Option ((Opening × Setting) × List Char)
  | '?' :: s => readQuestioned σ s
  | s => some ((.capture (σ.groups + 1), ⟨σ.groups + 1, σ.names, σ.extended⟩), s)

/-- No flag and no name begins like a group that looks around. -/
theorem readFlagOpening_look {c : Char} (hc : c = '=' ∨ c = '!') (σ : Setting) (s : List Char) :
    readFlagOpening σ (c :: s) = none := by
  have hflags : readFlags [] false false (c :: s) = none := by
    obtain hc | hc := hc
    · rw [hc]
      simp [readFlags, Flag.ofChar?]
    · rw [hc]
      simp [readFlags, Flag.ofChar?]
  unfold readFlagOpening readFlagGroup
  rw [hflags]
  rfl

theorem readNamed_look {c : Char} (hc : c = '=' ∨ c = '!') (σ : Setting) (s : List Char) :
    readNamed σ (c :: s) = none := by
  have hname : readGroupName (c :: s) = none := by
    have hstart : (c != '>') = true ∧ (c == '_' || Text.isLetter c) = false := by
      obtain hc | hc := hc
      · rw [hc]
        decide +kernel
      · rw [hc]
        decide +kernel
    rw [readGroupName_eq, List.takeWhile_cons, if_pos hstart.1]
    split
    · rfl
    · simp [groupName?, hstart.2]
  unfold readNamed
  rw [hname]
  rfl

theorem readOpening_eq (p : Progress) (s : List Char) :
    (readOpening p s).map (fun o => ((o.1, o.2.setting), o.2.rest)) =
      readOpened p.setting (skip p.extended s) := by
  have hnamed (s : List Char) : readNamed p.setting s = (readGroupName s >>= fun o =>
      if p.names.contains o.1 then none
      else some (Opening.capture (p.groups + 1),
        { p with rest := o.2, groups := p.groups + 1, names := o.1 :: p.names })).map
          fun o => ((o.1, o.2.setting), o.2.rest) := by
    unfold readNamed
    cases readGroupName s with
    | none => rfl
    | some o =>
      simp only [Option.bind_eq_bind, Option.bind_some]
      by_cases hused : p.names.contains o.1 = true
      · have hsetting : p.setting.names.contains o.1 = true := hused
        rw [if_pos hused, if_pos hsetting]
        rfl
      · have hsetting : ¬p.setting.names.contains o.1 = true := hused
        rw [if_neg hused, if_neg hsetting]
        rfl
  have hflags (s : List Char) : readFlagOpening p.setting s =
      (readFlags [] false false s >>= fun o =>
        if o.2.1 = ':' then some (Opening.group o.1, { p with rest := o.2.2 })
        else if o.1.isEmpty then none
        else some (.flags o.1, { p with rest := o.2.2 })).map
          fun o => ((o.1, o.2.setting), o.2.rest) := by
    unfold readFlagOpening readFlagGroup
    cases readFlags [] false false s with
    | none => rfl
    | some o =>
      simp only [Option.map_some, Option.bind_eq_bind, Option.bind_some]
      split
      · rfl
      · split <;> rfl
  unfold readOpening
  simp only
  generalize skip p.extended s = u
  split
  · exact (readFlagOpening_look (.inl rfl) _ _).symm
  · exact (readFlagOpening_look (.inr rfl) _ _).symm
  · exact (readNamed_look (.inl rfl) _ _).symm
  · exact (readNamed_look (.inr rfl) _ _).symm
  · exact (hnamed _).symm
  · exact (hnamed _).symm
  · next s _ _ hequals hbang hname hplain =>
    refine (hflags s).symm.trans ?_
    have hquestioned : readQuestioned p.setting s = readFlagOpening p.setting s := by
      unfold readQuestioned
      split
      · exact absurd rfl (hname _)
      · exact absurd rfl (hplain _)
      · rfl
    exact hquestioned.symm
  · next hquestion =>
    have hplain : readOpened p.setting u = some ((.capture (p.setting.groups + 1),
        ⟨p.setting.groups + 1, p.setting.names, p.setting.extended⟩), u) := by
      unfold readOpened
      split
      · exact absurd rfl (hquestion _)
      · rfl
    exact hplain.symm

theorem readNamed_steady (σ : Setting) : Steady 0 never (readNamed σ) :=
  readGroupName_steady.bind fun _ => .ite .none (.pure _)

theorem readFlagOpening_steady (σ : Setting) : Steady 1 never (readFlagOpening σ) :=
  (readFlagGroup_steady [] false false).bind fun _ => .ite (.pure _) (.ite .none (.pure _))

theorem readQuestioned_steady (σ : Setting) : Steady 0 never (readQuestioned σ) := by
  intro s
  have hflags (s : List Char) (hangle : s.head? ≠ some '<') (hname : s.take 2 ≠ ['P', '<']) :
      readQuestioned σ s = readFlagOpening σ s := by
    unfold readQuestioned
    split
    · exact absurd rfl hname
    · exact absurd rfl hangle
    · rfl
  by_cases hangle : s.head? = some '<'
  · obtain ⟨r, hr⟩ := List.head?_eq_some_iff.mp hangle
    rw [hr]
    exact ((readNamed_steady σ r).cons fun _ => rfl).mono (Nat.zero_le _)
  by_cases hname : s.take 2 = ['P', '<']
  · obtain ⟨r, hr⟩ : ∃ r, s = 'P' :: '<' :: r :=
      ⟨s.drop 2, by rw [← List.take_append_drop 2 s, hname]; rfl⟩
    rw [hr]
    exact ((readNamed_steady σ r).cons_cons fun _ => rfl).mono (Nat.zero_le _)
  · refine ((readFlagOpening_steady σ s).mono (Nat.zero_le _)).congr (hflags s hangle hname)
      (hflags _ (head?_append_closing (by decide) hangle) ?_)
    · cases s with
      | nil => decide
      | cons c s =>
        cases s with
        | nil => simp [closing]
        | cons d s => exact hname

theorem readOpened_steady (σ : Setting) : Steady 0 never (readOpened σ) := by
  refine .onHead '?' (by decide) (fun _ => rfl) (readQuestioned_steady σ)
    (.pure (.capture (σ.groups + 1), ⟨σ.groups + 1, σ.names, σ.extended⟩)) (Nat.zero_le _) rfl ?_
  intro c s hc
  simp [readOpened, hc]

end NamePattern.CharRegex
