import NamePattern.Proofs.Guarded
import NamePattern.Proofs.Positions
import NamePattern.Proofs.Spelling

/-! Compiling by positions. A text is read byte by byte and cut at byte positions, and a step has no
result where a byte is read past the end, where a cut lies inside a character or behind its end, where
a difference is negative and where a node is written that does not exist. None of this ever happens.
A counter of brackets can overflow, and otherwise every call ends as its builder does. -/
namespace NamePattern

/-- A step of compiling by positions. It keeps the arena as a builder does. -/
abbrev Step := EStateM Stop Arena

namespace Step

instance : MonadLift (Except Stop) Step where
  monadLift
    | .ok v => pure v
    | .error e => throw e

/-- A builder as a step. -/
def ofBuilder {α : Type} (x : Builder α) : Step α := fun a =>
  match x a with
  | .ok v b => .ok v b
  | .error e b => .error (.fault e) b

/-- Ends with a fault. -/
def fail {α : Type} (e : CompileError) : Step α := throw (.fault e)

/-- Compiles the regex of one component. -/
def leaf (text : List Char) : Step Leaf := do
  match Member.read (← get).ignoreCase text with
  | .error e => fail e
  | .ok m => ofBuilder (Builder.member m)

/-- Allocates and registers a group, and writes its node when what is inside it has been compiled.
There has to be such a node. Only a fault takes registrations back. -/
def group (text : List Char) (inner : Step (Matcher Leaf)) : Step (Matcher Leaf) := do
  let registered := (← get).registry.size
  let id ← ofBuilder (Builder.alloc text .reserved)
  ofBuilder (Builder.register id)
  fun a =>
    match inner a with
    | .ok m b =>
      let g : Matcher Leaf := .group id m
      if id < b.size then .ok g (b.fill id text (.matcher g)) else .error .undefined b
    | .error (.fault e) b => .error (.fault e) { b with registry := b.registry.take registered }
    | .error stop b => .error stop b

end Step

namespace Indexed

open NamePattern.Text (byte? slice? find? utf8Length)
open NamePattern.Word (sub?)

/-- The brackets of an item that begins with a byte. -/
def brackets? (b : UInt8) : Option (UInt8 × UInt8) :=
  if b = '('.toUInt8 then some ('('.toUInt8, ')'.toUInt8)
  else if b = '<'.toUInt8 then some ('<'.toUInt8, '>'.toUInt8)
  else if b = '['.toUInt8 then some ('['.toUInt8, ']'.toUInt8)
  else none

/-- The character at a position, or nothing at the end of the text. -/
def found (text : List Char) (index : Nat) : Except Stop (List Char) := do
  match ← demand (slice? text index (utf8Length text)) with
  | [] => return []
  | c :: _ => demand (slice? text index (index + c.utf8Size))

/-- The bracket that the item at a position opens with, and the positions behind the bracket that closes
it and behind its quantifier. -/
def itemEnd (text : List Char) (index : Nat) : Except Stop (UInt8 × Nat × Nat) := do
  match brackets? (← demand (byte? text index)) with
  | none => throw (.fault (.unexpected text (← found text index)))
  | some (left, right) =>
    let indicator ← closingEnd text left right 1 0 (index + 1)
    let stop ← quantifierEnd text indicator
    return (left, indicator, stop)

/-- Compiles the members of a set from a position up to the last bracket. -/
def members (text : List Char) (last index : Nat) : Step (List Leaf) :=
  if index < last then do
    if (← demand (byte? text index)) ≠ '<'.toUInt8 then
      Step.fail (.unexpected text (← demand (slice? text index last)))
    else
      match _h : closingEnd text '<'.toUInt8 '>'.toUInt8 1 0 (index + 1) with
      | .error e => throw e
      | .ok stop =>
        let regex ← demand (slice? text (index + 1) (← demand (sub? stop 1)))
        let leaf ← Step.leaf regex
        let leaves ← members text last stop
        return leaf :: leaves
  else if index = last then return []
  else Step.fail (.bracketMismatch text)
termination_by last - index
decreasing_by
  have hle := le_of_closingEnd _h
  omega

/-- Compiles a set of components. -/
def componentSet (text : List Char) : Step (Matcher Leaf) :=
  if utf8Length text < 2 then Step.fail (.unexpected text text)
  else do
    let b ← demand (byte? text 0)
    if b = '<'.toUInt8 then
      let stop ← closingEnd text '<'.toUInt8 '>'.toUInt8 1 0 1
      if stop ≠ utf8Length text then
        Step.fail (.unexpected text (← demand (slice? text stop (utf8Length text))))
      else
        let leaf ← Step.leaf (← demand (slice? text 1 (← demand (sub? stop 1))))
        Step.ofBuilder (Builder.allocMatcher text fun id => .set id [leaf] true)
    else if b = '['.toUInt8 then
      let last ← demand (sub? (utf8Length text) 1)
      if (← demand (byte? text last)) ≠ ']'.toUInt8 then Step.fail (.bracketMismatch text)
      else
        let mark ← demand (byte? text 1)
        let (inclusion, start) := if mark = '^'.toUInt8 then (false, 2) else (true, 1)
        let leaves ← members text last start
        Step.ofBuilder (Builder.allocMatcher text fun id => .set id leaves inclusion)
    else Step.fail (.unexpected text (← found text 0))

theorem demand_eq {α : Type} {o : Option α} {v : α} (h : o = some v) : demand o = .ok v :=
  congrArg demand h

theorem lt_of_itemEnd {text : List Char} {index indicator stop : Nat} {left : UInt8}
    (h : itemEnd text index = .ok (left, indicator, stop)) : index < stop := by
  unfold itemEnd at h
  obtain ⟨b, hb, h⟩ := bind_eq_ok.mp h
  cases hbrackets : brackets? b with
  | none =>
    rw [hbrackets] at h
    obtain ⟨c, hc, h⟩ := bind_eq_ok.mp h
    cases h
  | some brackets =>
    rw [hbrackets] at h
    obtain ⟨closing, hclosing, h⟩ := bind_eq_ok.mp h
    obtain ⟨stop', hstop, h⟩ := bind_eq_ok.mp h
    cases h
    have hle : index + 1 ≤ indicator := le_of_closingEnd hclosing
    have hle' : indicator ≤ stop := le_of_quantifierEnd hstop
    omega

theorem length_of_inside? {text inside : List Char} (h : Pattern.inside? text = some inside) :
    inside.length < text.length := by
  rw [Pattern.eq_of_inside? h, List.length_append, List.length_cons]
  omega

theorem length_of_splitAtByte? {n : Nat} {text atom q : List Char}
    (h : Text.splitAtByte? n text = some (atom, q)) : atom.length ≤ text.length := by
  rw [← Text.append_of_splitAtByte? h, List.length_append]
  exact Nat.le_add_right _ _

mutual

/-- Compiles a group. -/
def backref (text : List Char) : Step (Matcher Leaf) :=
  Step.group text
    (match _h : Pattern.inside? text with
    | none => Step.fail (.bracketMismatch text)
    | some inside => patternList inside)
termination_by (text.length, 0)
decreasing_by exact Prod.Lex.left _ _ (length_of_inside? _h)

/-- Compiles a set or a group that ends at a position, with the quantifier behind it. -/
def repeatAt (text : List Char) (indicator : Nat) : Step (Matcher Leaf) :=
  match _h : Text.splitAtByte? indicator text with
  | none => Step.fail (.unexpected text text)
  | some (atom, quantifier) => do
    let m ← (if atom.head? = some '(' then backref atom else componentSet atom)
    match Bounds.read text quantifier with
    | .error e => Step.fail e
    | .ok bounds => Step.ofBuilder (Builder.allocMatcher text fun id => .repeated id m bounds)
termination_by (text.length, 1)
decreasing_by exact Prod.Lex.right' _ (length_of_splitAtByte? _h) (Nat.zero_lt_one)

/-- Compiles the items of a pattern from a position on. -/
def items (text : List Char) (index : Nat) : Step (List (Matcher Leaf)) :=
  if _hi : index < utf8Length text then
    match _h : itemEnd text index with
    | .error e => throw e
    | .ok (left, indicator, stop) =>
      match _hs : slice? text index stop with
      | none => throw .undefined
      | some item => do
        let m ← (if left = '('.toUInt8 ∧ indicator = stop then backref item
          else do repeatAt item (← demand (sub? indicator index)))
        let ms ← items text stop
        return m :: ms
  else return []
termination_by (text.length, 2 + (utf8Length text - index))
decreasing_by
  · exact Prod.Lex.right' _ (Text.length_of_slice? _hs) (by omega)
  · exact Prod.Lex.right' _ (Text.length_of_slice? _hs) (by omega)
  · have hlt : index < stop := lt_of_itemEnd _h
    exact Prod.Lex.right _ (by omega)

/-- Compiles a pattern. -/
def patternList (text : List Char) : Step (Matcher Leaf) := do
  let ms ← items text 0
  Step.ofBuilder (Builder.allocMatcher text fun id => .list id ms)
termination_by (text.length, 3 + utf8Length text)
decreasing_by exact Prod.Lex.right _ (by omega)

end

end Indexed

/-- A call made by positions. -/
def Call.indexed : Call → Step (Matcher Leaf)
  | component text => do
    let leaf ← Step.leaf text
    return .component leaf.id leaf
  | componentSet text => Indexed.componentSet text
  | backref text => Indexed.backref text
  | repeatAt text indicator => Indexed.repeatAt text indicator
  | patternList text => Indexed.patternList text

def CompiledPattern.indexed (ignoreCase : Bool) (text : List Char) : Except Stop CompiledPattern :=
  match Indexed.patternList text (.empty ignoreCase) with
  | .ok m arena => .ok ⟨arena, m.id⟩
  | .error e _ => .error e

/-- Compiles a regex by positions. -/
def NameRegex.indexed (ignoreCase : Bool) (text template : List Char) : Except Stop NameRegex := do
  let (first, second) := forms text
  let primary ← CompiledPattern.indexed ignoreCase first
  let secondary ← second.mapM (CompiledPattern.indexed ignoreCase)
  return ⟨text, template, primary, secondary, .unmatched primary.groups⟩

namespace Step

variable {α β : Type} {a b : Arena}

theorem bind_of_ok {x : Step α} {f : α → Step β} {v : α} (h : x a = .ok v b) :
    (x >>= f) a = f v b := by
  simp only [bind, EStateM.bind, h]

theorem bind_of_error {x : Step α} {f : α → Step β} {e : Stop} (h : x a = .error e b) :
    (x >>= f) a = .error e b := by
  simp only [bind, EStateM.bind, h]

theorem lift_bind_of_ok {x : Except Stop α} {v : α} (h : x = .ok v) (f : α → Step β) :
    ((liftM x : Step α) >>= f) = f v := by
  rw [h]
  rfl

theorem lift_bind_of_error {x : Except Stop α} {e : Stop} (h : x = .error e) (f : α → Step β) :
    ((liftM x : Step α) >>= f) = throw e := by
  rw [h]
  rfl

/-- What is there is not demanded in vain. -/
theorem demand_bind {o : Option α} {v : α} (h : o = some v) (f : α → Step β) :
    ((liftM (Indexed.demand o) : Step α) >>= f) = f v :=
  lift_bind_of_ok (Indexed.demand_eq h) f

theorem ofBuilder_of_ok {x : Builder α} {v : α} (h : x a = .ok v b) : ofBuilder x a = .ok v b := by
  simp only [ofBuilder, h]

theorem group_apply (text : List Char) (x : Step (Matcher Leaf)) (a : Arena) : group text x a =
    match x ((a.push text .reserved).enroll a.size) with
    | .ok m b =>
      if a.size < b.size then
        .ok (.group a.size m) (b.fill a.size text (.matcher (.group a.size m)))
      else .error .undefined b
    | .error (.fault e) b =>
      .error (.fault e) { b with registry := b.registry.take a.registry.size }
    | .error stop b => .error stop b := rfl

end Step

namespace Indexed

open NamePattern.Text (byte? slice? find? utf8Length)
open NamePattern.Word (sub?)

theorem found_eq (front s : List Char) :
    found (front ++ s) (utf8Length front) = .ok (s.take 1) := by
  unfold found
  rw [Text.slice?_suffix]
  cases s with
  | nil => rfl
  | cons c s => exact congrArg demand (Text.slice?_cons front s c)

theorem brackets?_eq {front s : List Char} {c : Char} {b : UInt8}
    (hb : byte? (front ++ c :: s) (utf8Length front) = some b) :
    brackets? b = (Bracket.closing? c).map fun d => (c.toUInt8, d.toUInt8) := by
  have hround : b = '('.toUInt8 ↔ c = '(' := byte_eq_iff hb (by decide)
  have hangle : b = '<'.toUInt8 ↔ c = '<' := byte_eq_iff hb (by decide)
  have hsquare : b = '['.toUInt8 ↔ c = '[' := byte_eq_iff hb (by decide)
  unfold brackets?
  simp only [hround, hangle, hsquare]
  by_cases h1 : c = '('
  · rw [if_pos h1, h1]
    rfl
  by_cases h2 : c = '<'
  · rw [if_neg h1, if_pos h2, h2]
    rfl
  by_cases h3 : c = '['
  · rw [if_neg h1, if_neg h2, if_pos h3, h3]
    rfl
  · have hnone : Bracket.closing? c = none := Bracket.closing?.eq_4 c h1 h2 h3
    rw [if_neg h1, if_neg h2, if_neg h3, hnone]
    rfl

theorem itemEnd_other {c : Char} (h : Bracket.closing? c = none) (front s : List Char) :
    itemEnd (front ++ c :: s) (utf8Length front) =
      .error (.fault (.unexpected (front ++ c :: s) [c])) := by
  obtain ⟨b, hb⟩ := (Text.byte?_isSome front (c :: s)).mpr (List.cons_ne_nil c s)
  have hbrackets : brackets? b = none := by rw [brackets?_eq hb, h, Option.map_none]
  unfold itemEnd
  rw [bind_of_ok (demand_eq hb)]
  simp only [hbrackets]
  rw [bind_of_ok (found_eq front (c :: s))]
  rfl

/-- An item ends where its brackets and its quantifier are cut off. -/
theorem itemEnd_item {c closing : Char} (h : Bracket.closing? c = some closing)
    (front s : List Char) :
    itemEnd (front ++ c :: s) (utf8Length front) =
      match Bracket.close? c closing s with
      | none => .error (Fault.unclosed c s (front ++ c :: s)).stop
      | some (inside, rest) =>
        match Pattern.cutQuantifier? rest with
        | none => .error (.fault (.missingRightBrace (front ++ c :: s)))
        | some (q, _) => .ok (c.toUInt8, utf8Length (front ++ (c :: inside ++ [closing])),
            utf8Length (front ++ (c :: inside ++ [closing])) + utf8Length q) := by
  obtain ⟨b, hb⟩ := (Text.byte?_isSome front (c :: s)).mpr (List.cons_ne_nil c s)
  have hbrackets : brackets? b = some (c.toUInt8, closing.toUInt8) := by
    rw [brackets?_eq hb, h, Option.map_some]
  have hclosing := closingEnd_opened h front s
  unfold itemEnd
  rw [bind_of_ok (demand_eq hb)]
  simp only [hbrackets]
  cases hcut : Bracket.close? c closing s with
  | none =>
    rw [hcut] at hclosing
    exact bind_of_error hclosing _
  | some parts =>
    obtain ⟨inside, rest⟩ := parts
    have htext : front ++ c :: s = front ++ (c :: inside ++ [closing]) ++ rest := by
      rw [← Bracket.append_of_close? hcut]
      simp
    have hlength : utf8Length front + 1 + utf8Length inside + 1 =
        utf8Length (front ++ (c :: inside ++ [closing])) := by
      rw [Text.utf8Length_append, length_enclosed h]
      omega
    have hquantifier := quantifierEnd_eq (front ++ (c :: inside ++ [closing])) rest
    rw [← htext] at hquantifier
    rw [hcut] at hclosing
    simp only [hlength] at hclosing
    rw [bind_of_ok hclosing]
    dsimp only
    cases hq : Pattern.cutQuantifier? rest with
    | none =>
      simp only [hq] at hquantifier
      exact bind_of_error hquantifier _
    | some parts =>
      simp only [hq] at hquantifier
      exact bind_of_ok hquantifier _

/-- Characters of more than one byte move what is behind them. -/
example : itemEnd "<\u00e9>+<b>".toList 0 = .ok ('<'.toUInt8, 4, 5) := by
  cbv

theorem members_of_error {text : List Char} {index last : Nat} {e : Stop} (hlt : index < last)
    (hb : byte? text index = some '<'.toUInt8)
    (h : closingEnd text '<'.toUInt8 '>'.toUInt8 1 0 (index + 1) = .error e) :
    members text last index = throw e := by
  rw [members, if_pos hlt, Step.demand_bind hb, if_neg (not_not.mpr rfl)]
  split
  · next e' he =>
    cases he.symm.trans h
    rfl
  · next stop hstop => cases hstop.symm.trans h

theorem members_of_member {text regex : List Char} {index last stop : Nat} (hlt : index < last)
    (hb : byte? text index = some '<'.toUInt8)
    (h : closingEnd text '<'.toUInt8 '>'.toUInt8 1 0 (index + 1) = .ok (stop + 1))
    (hregex : slice? text (index + 1) stop = some regex) :
    members text last index = do
      let leaf ← Step.leaf regex
      let leaves ← members text last (stop + 1)
      return leaf :: leaves := by
  have hsub : sub? (stop + 1) 1 = some stop := Word.sub?_of_le (Nat.le_add_left 1 stop)
  rw [members, if_pos hlt, Step.demand_bind hb, if_neg (not_not.mpr rfl)]
  split
  · next e he => cases he.symm.trans h
  · next stop' hstop =>
    cases hstop.symm.trans h
    rw [Step.demand_bind hsub, Step.demand_bind hregex]

theorem items_of_error {text : List Char} {index : Nat} {e : Stop} (hlt : index < utf8Length text)
    (h : itemEnd text index = .error e) : items text index = throw e := by
  rw [items, dif_pos hlt]
  split
  · next e' he =>
    cases he.symm.trans h
    rfl
  · next hok => cases hok.symm.trans h

theorem items_of_item {text item : List Char} {left : UInt8} {index indicator stop : Nat}
    (hlt : index < utf8Length text) (h : itemEnd text index = .ok (left, indicator, stop))
    (hitem : slice? text index stop = some item) :
    items text index = do
      let m ← (if left = '('.toUInt8 ∧ indicator = stop then backref item
        else do repeatAt item (← demand (sub? indicator index)))
      let ms ← items text stop
      return m :: ms := by
  rw [items, dif_pos hlt]
  split
  · next e he => cases he.symm.trans h
  · next left' indicator' stop' hok =>
    cases hok.symm.trans h
    split
    · next hnone => cases hnone.symm.trans hitem
    · next item' hsome =>
      cases hsome.symm.trans hitem
      rfl

end Indexed

end NamePattern
