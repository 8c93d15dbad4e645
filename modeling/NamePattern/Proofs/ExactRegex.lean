import NamePattern.Proofs.Hygiene
import NamePattern.Proofs.Room

/-! A text whose characters are escaped is a regex that matches this text and no other. -/
namespace NamePattern.CharRegex

theorem readEscape_metacharacter {c : Char} (hc : c ∈ metacharacters) (s : List Char) :
    readEscape false (c :: s) = some (.literal ⟨c, false⟩, s) := by
  simp only [metacharacters, List.mem_cons, List.not_mem_nil, or_false] at hc
  rcases hc with rfl | rfl | rfl | rfl | rfl | rfl | rfl | rfl | rfl | rfl | rfl | rfl | rfl | rfl |
    rfl | rfl | rfl | rfl <;> rfl

variable {n groups : Nat} {names : List (List Char)} {parts : List Tree} {c : Char} {s : List Char}

theorem readSequence_metacharacter (hc : c ∈ metacharacters) :
    readSequence (n + 1) parts ⟨'\\' :: c :: s, groups, names, false⟩ =
      readSequence n (.literal ⟨c, false⟩ :: parts) ⟨s, groups, names, false⟩ := by
  rw [readSequence]
  simp only [skip, Bool.false_eq_true, if_false, readEscape_metacharacter hc]
  rfl

theorem readSequence_char (hc : c ∉ metacharacters) :
    readSequence (n + 1) parts ⟨c :: s, groups, names, false⟩ =
      readSequence n (.literal ⟨c, false⟩ :: parts) ⟨s, groups, names, false⟩ := by
  have hne : ∀ d ∈ metacharacters, c ≠ d := fun d hd he => hc (he ▸ hd)
  rw [readSequence]
  simp only [skip, Bool.false_eq_true, if_false]
  -- Every case but the last is about one metacharacter.
  split
  case h_1 h => cases h
  case h_14 h =>
    cases h
    rfl
  all_goals
    next h => exact absurd (List.cons.inj h).1 (hne _ (by decide))

theorem escape_cons (c : Char) (s : List Char) :
    escape (c :: s) = (if metacharacters.contains c then ['\\', c] else [c]) ++ escape s :=
  List.flatMap_cons

/-- The characters of a text, each standing for itself. -/
def literals (s : List Char) : List Tree := s.map fun c => .literal ⟨c, false⟩

theorem readSequence_escape (text : List Char) :
    readSequence (n + text.length) parts ⟨escape text ++ s, groups, names, false⟩ =
      readSequence n ((literals text).reverse ++ parts)
        ⟨s, groups, names, false⟩ := by
  induction text generalizing parts with
  | nil => rfl
  | cons c text ih =>
    have hliterals : literals (c :: text) = .literal ⟨c, false⟩ :: literals text := rfl
    rw [escape_cons, List.length_cons, ← Nat.add_assoc, hliterals, List.reverse_cons,
      List.append_assoc, List.append_assoc, List.singleton_append, ← ih]
    by_cases hc : c ∈ metacharacters
    · rw [if_pos (List.contains_iff_mem.mpr hc)]
      exact readSequence_metacharacter hc
    · rw [if_neg (fun h => hc (List.contains_iff_mem.mp h))]
      exact readSequence_char hc

/-- How a text is read that is escaped and put between anchors. -/
def exactTree (s : List Char) : Tree :=
  .seq (.assertion .textStart) (.seq (.group [] (.ofParts (literals s))) (.assertion .textEnd))

theorem length_le_escape (s : List Char) : s.length ≤ (escape s).length := by
  induction s with
  | nil => exact Nat.le_refl _
  | cons c s ih =>
    rw [escape_cons, List.length_append, List.length_cons]
    split <;> simp <;> omega

theorem readAlternatives_escape (s : List Char) (n : Nat) :
    readAlternatives (n + s.length + 2) ⟨escape s ++ closing, groups, names, false⟩ =
      some (.ofParts (literals s), ⟨closing, groups, names, false⟩) := by
  have hfuel : n + s.length + 2 = n + 1 + s.length + 1 := by omega
  have hstop (parts : List Tree) : readSequence (n + 1) parts ⟨closing, groups, names, false⟩ =
      some (.ofParts parts.reverse, ⟨closing, groups, names, false⟩) := rfl
  rw [hfuel, readAlternatives, readSequence_escape, List.append_nil, hstop, List.reverse_reverse]
  rfl

/-- Characters in sequence nest once, however many they are. -/
theorem depth_literals_le (s : List Char) (run : Run) :
    (Tree.ofParts (literals s)).depth run ≤ 1 := by
  have hcons (c d : Char) (s : List Char) (run : Run) :
      (Tree.ofParts (literals (c :: d :: s))).depth run =
        max 0 ((Tree.ofParts (literals (d :: s))).depth .sequence) +
          if run = .sequence then 0 else 1 := rfl
  have hseq (s : List Char) : (Tree.ofParts (literals s)).depth .sequence = 0 := by
    induction s with
    | nil => rfl
    | cons c s ih =>
      cases s with
      | nil => rfl
      | cons d s => rw [hcons, ih, if_pos rfl, Nat.max_self]
  cases s with
  | nil => exact Nat.zero_le _
  | cons c s =>
    cases s with
    | nil => exact Nat.zero_le _
    | cons d s =>
      rw [hcons, hseq]
      split <;> decide

theorem read?_escape (s : List Char) :
    Tree.read? (opening ++ escape s ++ closing) = some (exactTree s) := by
  have hopening : opening.length = 5 := rfl
  have hclosing : closing.length = 3 := rfl
  have hle := length_le_escape s
  -- Steps for the anchors, for the group, and one for each character.
  obtain ⟨n, hn⟩ : ∃ n, 2 * (opening ++ escape s ++ closing).length + 2 = n + s.length + 5 := by
    rw [List.length_append, List.length_append, hopening, hclosing]
    exact ⟨2 * (escape s).length + 13 - s.length, by omega⟩
  have hbody : readChoice (n + s.length + 2) .start (escape s ++ closing) =
      some ((.ofParts (literals s), .start), closing) := by
    rw [readChoice_start, readAlternatives_escape]
    rfl
  obtain ⟨τ, hread⟩ := readChoice_whole hbody
  have hdepth : (exactTree s).depth .none = (Tree.ofParts (literals s)).depth .none + 2 :=
    Tree.depth_whole _
  have hparts := depth_literals_le s .none
  refine read?_eq_some.mpr ⟨⟨τ, ?_⟩, ?_⟩
  · rw [hn, List.append_assoc]
    exact hread
  · unfold nestLimit
    omega

/-- A text between anchors. -/
def exactExpr (s : List Char) : Expr :=
  .seq (.look .textStart) (.seq (.literal s) (.look .textEnd))

/-- The regex that a text is read as after its characters are escaped. -/
def exact (s : List Char) : CharRegex := ⟨.ofExpr (exactExpr s), 0⟩

theorem expr?_literal (c : Char) :
    Literal.expr? (.start false) ⟨c, false⟩ = some (.literal [c]) := by
  have hset : Expr.ofSet (.single c) = .literal [c] := by
    unfold Expr.ofSet CharSet.single CharSet.range CharSet.single?
    simp [Char.ofNat_toNat]
  exact congrArg some hset

theorem alternatives?_literals (c : Char) (s : List Char) :
    (Tree.ofParts (literals (c :: s))).alternatives? (.start false) =
      some ([.literal (c :: s)], .start false) := by
  have hsingle (c : Char) : Tree.alternatives? (.literal ⟨c, false⟩) (.start false) =
      some ([.literal [c]], .start false) := by
    rw [Tree.alternatives?, expr?_literal]
    rfl
  induction s generalizing c with
  | nil => exact hsingle c
  | cons d s ih =>
    have hparts : Tree.ofParts (literals (c :: d :: s)) =
        .seq (.literal ⟨c, false⟩) (.ofParts (literals (d :: s))) := rfl
    rw [hparts]
    exact alternatives?_seq (hsingle c) (ih d)

theorem expr?_exactTree {s : List Char} (hs : s ≠ []) :
    (exactTree s).expr? (.start false) = some (exactExpr s) := by
  obtain ⟨c, s, rfl⟩ := List.exists_cons_of_ne_nil hs
  have hwhole : exactTree (c :: s) = (Tree.ofParts (literals (c :: s))).whole := rfl
  rw [hwhole, Tree.expr?_whole, Tree.expr?, alternatives?_literals]
  rfl

theorem bytes_exactExpr (s : List Char) :
    ((exactExpr s).footprint .forwards).bytes = 32 * (Text.utf8Length s + 6) ∧
      ((exactExpr s).footprint .backwards).bytes = 32 * (Text.utf8Length s + 4) := by
  constructor
  · have hfoot : (exactExpr s).footprint .forwards =
        (((((Footprint.mk 1 0).add 1 0).add 1 0).add (Text.utf8Length s) 0).add 1 0).add 2 0 := by
      simp only [exactExpr, Expr.footprint, Expr.addTo]
      rfl
    rw [hfoot]
    simp only [Footprint.bytes_add]
    have h1 : (Footprint.mk 1 0).bytes = 32 := rfl
    omega
  · have hfoot : (exactExpr s).footprint .backwards =
        ((((Footprint.mk 1 0).add 1 0).add (Text.utf8Length s) 0).add 1 0).add 1 0 := by
      simp only [exactExpr, Expr.footprint, Expr.addTo]
      rfl
    rw [hfoot]
    simp only [Footprint.bytes_add]
    have h1 : (Footprint.mk 1 0).bytes = 32 := rfl
    omega

theorem fits_exactExpr_iff (s : List Char) :
    (exactExpr s).fits = true ↔ Text.utf8Length s ≤ 327674 := by
  obtain ⟨hforwards, hbackwards⟩ := bytes_exactExpr s
  simp only [Expr.fits, Footprint.isTooLarge, hforwards, hbackwards, Bool.and_eq_true,
    Bool.not_eq_true', decide_eq_false_iff_not]
  omega

/-- An escaped text that is not empty is read, if it is not too long, as a regex of its own. -/
theorem readWhole?_escape {s : List Char} (hs : s ≠ []) :
    readWhole? false (escape s) = if Text.utf8Length s ≤ 327674 then some (exact s) else none := by
  have hgroups : (exactExpr s).groupCount = 0 := rfl
  rw [readWhole?_eq (read?_escape s) (expr?_exactTree hs), hgroups]
  simp only [fits_exactExpr_iff]
  rfl

/-- A text that is escaped matches itself and nothing else. -/
theorem exact_accepts_iff {s text : List Char} :
    ((exact s).captures text).isSome = true ↔ text = s := by
  have hwhole : exact s = ⟨.ofExpr (Expr.literal s).whole, 0⟩ := rfl
  rw [hwhole, Expr.captures_whole]
  rfl

end NamePattern.CharRegex
