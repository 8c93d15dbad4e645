import NamePattern.Proofs.Faults
import NamePattern.Proofs.Indexed

/-! Compiling by positions is always defined, and it is the same as compiling: every step ends as a
builder does, unless a counter of brackets overflows. -/
namespace NamePattern

namespace Step

variable {α β : Type} {a b : Arena}

/-- A step ends as a builder does that is told whether case is ignored, and a success extends the
arena. Of the texts that both read, the step reports the first fault, and only where this is a counter
that overflows the builder knows no more than an error. -/
structure Follows (x : Step α) (y : Bool → Builder α) (fault? : Bool → Option Fault) : Prop where
  ok : ∀ {a v b}, y a.ignoreCase a = .ok v b →
    x a = .ok v b ∧ a.Extends b ∧ fault? a.ignoreCase = none
  error : ∀ {a e b}, y a.ignoreCase a = .error e b → ∃ f c, fault? a.ignoreCase = some f ∧
    f.error = e ∧ x a = .error f.stop c ∧ (f = .refused e → c = b)

namespace Follows

protected theorem pure (v : α) : Follows (pure v) (fun _ => pure v) fun _ => none where
  ok h := by
    cases h
    exact ⟨rfl, .refl _, rfl⟩
  error h := by cases h

protected theorem fault (f : Fault) :
    Follows (throw f.stop : Step α) (fun _ => throw f.error) fun _ => some f where
  ok h := by cases h
  error {a e b} h := by
    cases h
    exact ⟨f, a, rfl, rfl, rfl, fun _ => rfl⟩

protected theorem fail (e : CompileError) :
    Follows (fail e : Step α) (fun _ => throw e) fun _ => some (.refused e) :=
  .fault (.refused e)

variable {x : Step α} {y : Bool → Builder α} {r r' : Bool → Option Fault}

theorem congr (h : Follows x y r) (hr : ∀ ignoreCase, r ignoreCase = r' ignoreCase) :
    Follows x y r' :=
  funext hr ▸ h

/-- The first of two steps that meets a fault decides. -/
theorem bind {f : α → Step β} {g : Bool → α → Builder β} (hx : Follows x y r)
    (hf : ∀ v, Follows (f v) (fun ignoreCase => g ignoreCase v) r') :
    Follows (x >>= f) (fun ignoreCase => y ignoreCase >>= g ignoreCase)
      fun ignoreCase => (r ignoreCase).or (r' ignoreCase) where
  ok h := by
    obtain ⟨v, c, hv, h⟩ := Builder.bind_eq_ok.mp h
    obtain ⟨hstep, hext, hnone⟩ := hx.ok hv
    rw [← hext.ignoreCase] at h
    obtain ⟨hrest, hext', hnone'⟩ := (hf v).ok h
    refine ⟨(bind_of_ok hstep).trans hrest, hext.trans hext', ?_⟩
    rw [hnone, Option.none_or, ← hext.ignoreCase, hnone']
  error h := by
    obtain h | ⟨v, c, hv, h⟩ := Builder.bind_eq_error.mp h
    · obtain ⟨f, c, hr, hf, hstep, hc⟩ := hx.error h
      exact ⟨f, c, by rw [hr, Option.some_or], hf, bind_of_error hstep, hc⟩
    · obtain ⟨hstep, hext, hnone⟩ := hx.ok hv
      rw [← hext.ignoreCase] at h
      obtain ⟨f, d, hr', hf, hrest, hd⟩ := (hf v).error h
      refine ⟨f, d, ?_, hf, (bind_of_ok hstep).trans hrest, hd⟩
      rw [hnone, Option.none_or, ← hext.ignoreCase, hr']

/-- The builder fails if and only if there is a fault. -/
theorem error_iff (h : Follows x y r) {a : Arena} {e : CompileError} :
    (∃ b, y a.ignoreCase a = .error e b) ↔ ∃ f, r a.ignoreCase = some f ∧ f.error = e := by
  constructor
  · rintro ⟨b, hb⟩
    obtain ⟨f, c, hr, hf, -⟩ := h.error hb
    exact ⟨f, hr, hf⟩
  · rintro ⟨f, hr, hf⟩
    cases hy : y a.ignoreCase a with
    | ok v b => cases hr.symm.trans (h.ok hy).2.2
    | error e' b =>
      obtain ⟨f', c, hr', hf', -⟩ := h.error hy
      cases hr.symm.trans hr'
      exact ⟨b, by rw [← hf, ← hf']⟩

theorem bind_total {f : α → Step β} {g : Bool → α → Builder β} (hx : Follows x y r)
    (hf : ∀ v, Follows (f v) (fun ignoreCase => g ignoreCase v) fun _ => none) :
    Follows (x >>= f) (fun ignoreCase => y ignoreCase >>= g ignoreCase) r :=
  (hx.bind hf).congr fun _ => Option.or_none

theorem ofBuilder {x : Builder α} (hx : x.Total) (h : ∀ {a v b}, x a = .ok v b → a.Extends b) :
    Follows (ofBuilder x) (fun _ => x) fun _ => none where
  ok hv := ⟨ofBuilder_of_ok hv, h hv, rfl⟩
  error {a e b} he := by
    obtain ⟨v, c, hv⟩ := hx a
    cases hv.symm.trans he

theorem allocMatcher (text : List Char) (m : NodeId → Matcher Leaf) :
    Follows (Step.ofBuilder (Builder.allocMatcher text m)) (fun _ => Builder.allocMatcher text m)
      fun _ => none := by
  refine ofBuilder (Builder.allocMatcher_total text m) fun {a m' b} h => ?_
  rw [Builder.allocMatcher_apply] at h
  cases h
  exact .push a ..

end Follows

end Step

namespace Builder

/-- Allocates a member behind its groups if its regex can be read. -/
def leaf (ignoreCase : Bool) (text : List Char) : Builder Leaf :=
  match Member.read ignoreCase text with
  | .error e => throw e
  | .ok m => member m

/-- Allocates members up to a fault. -/
def membersUpTo (read : List Member × Option Fault) : Builder (List Leaf) := do
  let leaves ← members read.1
  match read.2 with
  | some f => throw f.error
  | none => return leaves

theorem memberSet_eq (s : MemberSet) : memberSet s =
    membersUpTo (s.members, s.fault) >>= fun leaves =>
      allocMatcher s.text fun id => .set id leaves s.inclusion := by
  unfold memberSet membersUpTo
  rw [bind_assoc]
  cases s.fault with
  | none => simp only [pure_bind]
  | some f => rfl

theorem membersUpTo_cons (m : Member) (ms : List Member) (fault : Option Fault) :
    membersUpTo (m :: ms, fault) = member m >>= fun leaf =>
      membersUpTo (ms, fault) >>= fun leaves => pure (leaf :: leaves) := by
  unfold membersUpTo
  simp only [members, bind_assoc, pure_bind]
  cases fault with
  | none => simp only [pure_bind]
  | some e => rfl

/-- The members from one on whose regex may be faulty. -/
theorem membersUpTo_read (ignoreCase : Bool) (inside : List Char)
    (read : List Member × Option Fault) :
    membersUpTo (match Member.read ignoreCase inside with
      | .error e => ([], some (.refused e))
      | .ok m => (m :: read.1, read.2)) =
      leaf ignoreCase inside >>= fun leaf =>
        membersUpTo read >>= fun leaves => pure (leaf :: leaves) := by
  unfold leaf
  cases Member.read ignoreCase inside with
  | error e => rfl
  | ok m => exact membersUpTo_cons m read.1 read.2

theorem memberSet_single (ignoreCase : Bool) (text inside : List Char) :
    memberSet (match Member.read ignoreCase inside with
      | .error e => ⟨text, true, [], some (.refused e)⟩
      | .ok m => ⟨text, true, [m], none⟩) =
      leaf ignoreCase inside >>= fun leaf => allocMatcher text fun id => .set id [leaf] true := by
  unfold leaf
  cases Member.read ignoreCase inside with
  | error e => rfl
  | ok m =>
    unfold memberSet
    simp only [members, bind_assoc, pure_bind]

end Builder

namespace Step.Follows

theorem leaf (text : List Char) :
    Follows (Step.leaf text) (fun ignoreCase => Builder.leaf ignoreCase text)
      fun ignoreCase => Fault.of? (Member.read ignoreCase text) := by
  have happly (a : Arena) : Step.leaf text a =
      (match Member.read a.ignoreCase text with
      | .error e => Step.fail e
      | .ok m => Step.ofBuilder (Builder.member m) : Step Leaf) a := rfl
  have hmember (m : Member) :
      Follows (Step.ofBuilder (Builder.member m)) (fun _ => Builder.member m) fun _ => none :=
    ofBuilder (Builder.member_total m) fun h => ((Builder.member_adds m).ok h).2.toExtends
  refine ⟨fun {a leaf b} h => ?_, fun {a e b} h => ?_⟩
  · rw [happly]
    unfold Builder.leaf at h
    cases hread : Member.read a.ignoreCase text with
    | error e =>
      rw [hread] at h
      cases h
    | ok m =>
      rw [hread] at h
      exact (hmember m).ok h
  · rw [happly]
    unfold Builder.leaf at h
    cases hread : Member.read a.ignoreCase text with
    | error e' =>
      rw [hread] at h
      exact (Follows.fail e').error h
    | ok m =>
      rw [hread] at h
      exact (hmember m).error h

/-- The node of a group is still there when it is written. -/
theorem group {x : Step (Matcher Leaf)} {y : Bool → Builder (Matcher Leaf)}
    {r : Bool → Option Fault} (hx : Follows x y r) (text : List Char) :
    Follows (Step.group text x) (fun ignoreCase => Builder.group text (y ignoreCase)) r where
  ok {a m b} h := by
    cases hi : y a.ignoreCase ((a.push text .reserved).enroll a.size) with
    | ok i c =>
      rw [Builder.group_of_ok text hi] at h
      cases h
      obtain ⟨hstep, hext, hnone⟩ := hx.ok (a := (a.push text .reserved).enroll a.size) hi
      have hlt : a.size < c.size := by
        have hle := hext.size_le
        rwa [Arena.size_enroll, Arena.size_push] at hle
      have hreserved : a.Extends ((a.push text .reserved).enroll a.size) :=
        (Arena.Extends.push a text .reserved).trans (.enroll _ _)
      refine ⟨?_, (hreserved.trans hext).fill (Nat.le_refl _) text _, hnone⟩
      rw [Step.group_apply, hstep]
      exact if_pos hlt
    | error e c =>
      rw [Builder.group_of_error text hi] at h
      cases h
  error {a e b} h := by
    cases hi : y a.ignoreCase ((a.push text .reserved).enroll a.size) with
    | ok i c =>
      rw [Builder.group_of_ok text hi] at h
      cases h
    | error e' c =>
      rw [Builder.group_of_error text hi] at h
      cases h
      obtain ⟨f, d, hr, hf, hstep, hd⟩ := hx.error (a := (a.push text .reserved).enroll a.size) hi
      cases f with
      | refused e =>
        have hsame : d = c := hd (by rw [← hf]; rfl)
        refine ⟨.refused e, _, hr, hf, ?_, fun _ => rfl⟩
        rw [Step.group_apply, hstep, hsame]
        rfl
      | overflow p =>
        refine ⟨.overflow p, d, hr, hf, ?_, fun h => (by cases h)⟩
        rw [Step.group_apply, hstep]
        rfl

theorem repetition {x : Step (Matcher Leaf)} {y : Bool → Builder (Matcher Leaf)}
    {r : Bool → Option Fault} (hx : Follows x y r) (text : List Char)
    (bounds : Except CompileError Bounds) :
    Follows (do
      let m ← x
      match bounds with
      | .error e => Step.fail e
      | .ok bounds => Step.ofBuilder (Builder.allocMatcher text fun id => .repeated id m bounds))
      (fun ignoreCase => Builder.repetition text (y ignoreCase) bounds)
      fun ignoreCase => (r ignoreCase).or (Fault.of? bounds) := by
  refine hx.bind fun m => ?_
  cases bounds with
  | error e => exact .fail e
  | ok bounds => exact .allocMatcher text fun id => .repeated id m bounds

end Step.Follows

namespace Indexed

open NamePattern.Text (byte? slice? find? utf8Length)
open NamePattern.Word (sub?)
open NamePattern.Builder (membersUpTo)

/-- The members of a set from the boundary of a character on are those that are read, and the last
bracket is never passed. -/
theorem members_follows {text front body : List Char} {last : Nat}
    (htext : text = front ++ body ++ [']']) (hlast : last = utf8Length (front ++ body)) :
    Step.Follows (members text last (utf8Length front))
      (fun ignoreCase => membersUpTo (MemberSet.readMembers ignoreCase text body))
      fun ignoreCase => (MemberSet.readMembers ignoreCase text body).2 := by
  match body with
  | [] =>
    have hend : last = utf8Length front := by rw [hlast, List.append_nil]
    have hread (ignoreCase : Bool) : MemberSet.readMembers ignoreCase text [] = ([], none) :=
      MemberSet.readMembers.eq_1 ..
    simp only [hread]
    rw [members, if_neg (Nat.not_lt_of_le (Nat.le_of_eq hend)), if_pos hend.symm]
    exact .pure []
  | c :: s =>
    have hlt : utf8Length front < last := by
      have hpos := Text.utf8Length_pos (List.cons_ne_nil c s)
      rw [hlast, Text.utf8Length_append]
      omega
    have hsplit : text = front ++ c :: (s ++ [']']) := by
      rw [htext, List.append_assoc, List.cons_append]
    by_cases hc : c = '<'
    · rw [hc] at hsplit ⊢
      have hb : byte? text (utf8Length front) = some '<'.toUInt8 :=
        hsplit ▸ (Text.byte?_eq_iff (by decide) front _).mpr rfl
      have hclosing := closingEnd_opened (show Bracket.closing? '<' = some '>' from rfl) front
        (s ++ [']'])
      rw [← hsplit] at hclosing
      cases hcut : Bracket.close? '<' '>' s with
      | none =>
        -- The search goes on behind the members, where no angle bracket is left.
        have hbehind : Bracket.close? '<' '>' (s ++ [']']) = none :=
          Bracket.close?_append_eq_none (fun depth => rfl) hcut
        have hfault : Fault.unclosed '<' (s ++ [']']) text = .unclosed '<' s text := by
          have hcount : Bracket.Countable '<' (s ++ [']']) ↔ Bracket.Countable '<' s := by
            simp [Bracket.Countable]
          exact if_congr hcount rfl rfl
        have hread (ignoreCase : Bool) : MemberSet.readMembers ignoreCase text ('<' :: s) =
            ([], some (.unclosed '<' s text)) := by
          rw [MemberSet.readMembers_cons, hcut]
        rw [hbehind] at hclosing
        simp only [hfault] at hclosing
        simp only [hread]
        rw [members_of_error hlt hb hclosing]
        exact .fault _
      | some parts =>
        obtain ⟨inside, rest⟩ := parts
        have hbehind := Bracket.close?_append hcut [']']
        have hs : inside ++ '>' :: rest = s := Bracket.append_of_close? hcut
        have hfaults (ignoreCase : Bool) :
            (MemberSet.readMembers ignoreCase text ('<' :: s)).2 =
              (Fault.of? (Member.read ignoreCase inside)).or
                (MemberSet.readMembers ignoreCase text rest).2 := by
          rw [MemberSet.readMembers_cons, hcut]
          cases hmember : Member.read ignoreCase inside with
          | error e => simp [hmember, Fault.of?]
          | ok m => simp [hmember, Fault.of?]
        have hread (ignoreCase : Bool) :
            membersUpTo (MemberSet.readMembers ignoreCase text ('<' :: s)) =
              Builder.leaf ignoreCase inside >>= fun leaf =>
                membersUpTo (MemberSet.readMembers ignoreCase text rest) >>= fun leaves =>
                  pure (leaf :: leaves) := by
          rw [MemberSet.readMembers_cons, hcut]
          exact Builder.membersUpTo_read ..
        have hregex : slice? text (utf8Length front + 1) (utf8Length front + 1 + utf8Length inside) =
            some inside := by
          rw [hsplit, ← hs, List.append_assoc]
          exact Text.slice?_behind (by decide) front inside _
        have hbody : front ++ ('<' :: inside ++ ['>']) ++ rest = front ++ '<' :: s := by
          rw [← hs]
          simp
        have hstop : utf8Length front + 1 + utf8Length inside + 1 =
            utf8Length (front ++ ('<' :: inside ++ ['>'])) := by
          rw [Text.utf8Length_append, length_enclosed rfl]
          omega
        have hrest : Step.Follows (members text last (utf8Length (front ++ ('<' :: inside ++ ['>']))))
            (fun ignoreCase => membersUpTo (MemberSet.readMembers ignoreCase text rest))
            fun ignoreCase => (MemberSet.readMembers ignoreCase text rest).2 :=
          members_follows (by rw [hbody, htext, hc]) (by rw [hbody, hlast, hc])
        rw [hbehind] at hclosing
        simp only [hread, hfaults]
        rw [members_of_member hlt hb hclosing hregex, hstop]
        exact (Step.Follows.leaf inside).bind fun leaf => hrest.bind_total fun leaves =>
          .pure (leaf :: leaves)
    · have hfound : slice? text (utf8Length front) last = some (c :: s) := by
        rw [htext, hlast, Text.utf8Length_append]
        exact Text.slice?_append front (c :: s) [']']
      have hread (ignoreCase : Bool) : MemberSet.readMembers ignoreCase text (c :: s) =
          ([], some (.refused (.unexpected text (c :: s)))) :=
        MemberSet.readMembers.eq_3 _ _ _ (List.cons_ne_nil c s) fun u heq =>
          hc (List.cons.inj heq).1
      obtain ⟨b, hb⟩ := (Text.byte?_isSome front (c :: (s ++ [']']))).mpr (List.cons_ne_nil _ _)
      have hother : b ≠ '<'.toUInt8 := fun heq => hc ((byte_eq_iff hb (by decide)).mp heq)
      rw [← hsplit] at hb
      simp only [hread]
      rw [members, if_pos hlt, Step.demand_bind hb, if_pos hother, Step.demand_bind hfound]
      exact .fail _
termination_by body.length
decreasing_by
  simp only [← hs, List.length_append, List.length_cons]
  omega

theorem componentSet_angled {s : List Char} (hs : s ≠ []) :
    Step.Follows (componentSet ('<' :: s))
      (fun ignoreCase => Builder.memberSet (.read ignoreCase ('<' :: s)))
      fun ignoreCase => (MemberSet.read ignoreCase ('<' :: s)).fault := by
  have hopening : '<'.utf8Size = 1 := Text.utf8Size_of_ascii (by decide)
  have hlength : ¬ utf8Length ('<' :: s) < 2 := by
    have hpos := Text.utf8Length_pos hs
    rw [Text.utf8Length_cons, hopening]
    omega
  have hfirst : byte? ('<' :: s) 0 = some '<'.toUInt8 :=
    (Text.byte?_eq_iff (by decide) [] _).mpr rfl
  have hclosing := closingEnd_opened (show Bracket.closing? '<' = some '>' from rfl) [] s
  rw [List.nil_append, Text.utf8Length_nil, Nat.zero_add] at hclosing
  rw [componentSet, if_neg hlength, Step.demand_bind hfirst, if_pos rfl]
  cases hcut : Bracket.close? '<' '>' s with
  | none =>
    have hread (ignoreCase : Bool) : MemberSet.read ignoreCase ('<' :: s) =
        ⟨'<' :: s, true, [], some (.unclosed '<' s ('<' :: s))⟩ := by
      rw [MemberSet.read.eq_3 _ _ hs, hcut]
    rw [hcut] at hclosing
    simp only [hread]
    rw [Step.lift_bind_of_error hclosing]
    exact .fault _
  | some parts =>
    obtain ⟨inside, rest⟩ := parts
    have happend : inside ++ '>' :: rest = s := Bracket.append_of_close? hcut
    have hsize : utf8Length ('<' :: s) = 1 + utf8Length inside + 1 + utf8Length rest := by
      have hsplit : '<' :: s = '<' :: inside ++ ['>'] ++ rest := by
        rw [← happend, List.append_assoc, List.singleton_append, List.cons_append]
      rw [hsplit, Text.utf8Length_append, length_enclosed rfl]
    rw [hcut] at hclosing
    rw [Step.lift_bind_of_ok hclosing]
    cases rest with
    | nil =>
      have hread (ignoreCase : Bool) : MemberSet.read ignoreCase ('<' :: s) =
          match Member.read ignoreCase inside with
          | .error e => ⟨'<' :: s, true, [], some (.refused e)⟩
          | .ok m => ⟨'<' :: s, true, [m], none⟩ := by
        rw [MemberSet.read.eq_3 _ _ hs]
        cases hmember : Member.read ignoreCase inside with
        | error e => simp only [hcut, hmember]
        | ok m => simp only [hcut, hmember]
      have hstop : ¬ 1 + utf8Length inside + 1 ≠ utf8Length ('<' :: s) := not_not.mpr hsize.symm
      have hsub : sub? (1 + utf8Length inside + 1) 1 = some (1 + utf8Length inside) := by
        rw [Word.sub?_of_le (Nat.le_add_left _ _), Nat.add_sub_cancel]
      have hslice : slice? ('<' :: s) 1 (1 + utf8Length inside) = some inside := by
        have hbehind := Text.slice?_behind (show '<'.val.toNat ≤ 127 by decide) [] inside ['>']
        rwa [happend, List.nil_append, Text.utf8Length_nil, Nat.zero_add] at hbehind
      have hfault (ignoreCase : Bool) :
          (MemberSet.read ignoreCase ('<' :: s)).fault =
            Fault.of? (Member.read ignoreCase inside) := by
        rw [hread]
        cases Member.read ignoreCase inside <;> rfl
      simp only [hfault]
      simp only [hread, Builder.memberSet_single]
      rw [if_neg hstop, Step.demand_bind hsub, Step.demand_bind hslice]
      exact (Step.Follows.leaf inside).bind_total fun leaf => .allocMatcher _ _
    | cons r rest =>
      have hread (ignoreCase : Bool) : MemberSet.read ignoreCase ('<' :: s) =
          ⟨'<' :: s, true, [], some (.refused (.unexpected ('<' :: s) (r :: rest)))⟩ := by
        rw [MemberSet.read.eq_3 _ _ hs, hcut]
      have hne : 1 + utf8Length inside + 1 ≠ utf8Length ('<' :: s) := by
        have hpos := Text.utf8Length_pos (List.cons_ne_nil r rest)
        omega
      have hslice : slice? ('<' :: s) (1 + utf8Length inside + 1) (utf8Length ('<' :: s)) =
          some (r :: rest) := by
        have hsuffix := Text.slice?_suffix ('<' :: inside ++ ['>']) (r :: rest)
        rwa [length_enclosed rfl, List.append_assoc, List.singleton_append, List.cons_append,
          happend] at hsuffix
      simp only [hread]
      rw [if_pos hne, Step.demand_bind hslice]
      exact .fail _

/-- What stands in square brackets, from its first member on. -/
theorem squared_follows {inclusion : Bool} {u : List Char} (front body : List Char)
    (hfront : '[' :: u = front ++ body) (hsplit : MemberSet.splitMark u = (inclusion, body)) :
    Step.Follows (do
      let leaves ← members ('[' :: u ++ [']']) (utf8Length ('[' :: u ++ [']']) - 1)
        (utf8Length front)
      Step.ofBuilder (Builder.allocMatcher ('[' :: u ++ [']']) fun id => .set id leaves inclusion))
      (fun ignoreCase =>
        membersUpTo (MemberSet.readMembers ignoreCase ('[' :: u ++ [']']) (MemberSet.splitMark u).2)
          >>= fun leaves => Builder.allocMatcher ('[' :: u ++ [']']) fun id =>
            .set id leaves (MemberSet.splitMark u).1)
      fun ignoreCase =>
        (MemberSet.readMembers ignoreCase ('[' :: u ++ [']']) (MemberSet.splitMark u).2).2 := by
  have hlast : utf8Length ('[' :: u ++ [']']) - 1 = utf8Length (front ++ body) := by
    rw [hfront, Text.utf8Length_append]
    rfl
  have hmembers := members_follows (congrArg (· ++ [']']) hfront) hlast
  rw [hsplit]
  exact hmembers.bind_total fun leaves => .allocMatcher _ _

theorem componentSet_squared {s : List Char} (hs : s ≠ []) :
    Step.Follows (componentSet ('[' :: s))
      (fun ignoreCase => Builder.memberSet (.read ignoreCase ('[' :: s)))
      fun ignoreCase => (MemberSet.read ignoreCase ('[' :: s)).fault := by
  have hopening : '['.utf8Size = 1 := Text.utf8Size_of_ascii (by decide)
  have hpos := Text.utf8Length_pos hs
  have hlength : ¬ utf8Length ('[' :: s) < 2 := by
    rw [Text.utf8Length_cons, hopening]
    omega
  have hfirst : byte? ('[' :: s) 0 = some '['.toUInt8 :=
    (Text.byte?_eq_iff (by decide) [] _).mpr rfl
  have hsub : sub? (utf8Length ('[' :: s)) 1 = some (utf8Length ('[' :: s) - 1) :=
    Word.sub?_of_le (by omega)
  obtain hnil | ⟨u, d, hu⟩ := List.eq_nil_or_concat' s
  · exact absurd hnil hs
  obtain ⟨b, hmem, hlast⟩ := Text.byte?_last ('[' :: u) d
  have htext : '[' :: s = '[' :: u ++ [d] := by rw [hu, List.cons_append]
  rw [← htext] at hlast
  rw [componentSet, if_neg hlength, Step.demand_bind hfirst, if_neg (by decide), if_pos rfl,
    Step.demand_bind hsub, Step.demand_bind hlast]
  by_cases hd : d = ']'
  · have hb : b = ']'.toUInt8 := by
      rwa [hd, Text.utf8EncodeChar_of_ascii (by decide), List.mem_singleton] at hmem
    rw [hd] at htext
    rw [if_neg (not_not.mpr hb)]
    simp only [htext, MemberSet.read_squared, Builder.memberSet_eq]
    obtain ⟨mark, hmark⟩ := (Text.byte?_isSome ['['] (u ++ [']'])).mpr (by simp)
    have hexcludes := Text.byte?_eq_iff (show '^'.val.toNat ≤ 127 by decide) ['['] (u ++ [']'])
    have hmark' : byte? ('[' :: u ++ [']']) 1 = some mark := hmark
    rw [hmark, Option.some.injEq] at hexcludes
    rw [Step.demand_bind hmark']
    by_cases hhead : mark = '^'.toUInt8
    · rw [if_pos hhead]
      obtain ⟨body, hbody⟩ : ∃ body, u = '^' :: body := by
        have hu := hexcludes.mp hhead
        cases u with
        | nil => cases hu
        | cons c body => exact ⟨body, by rw [← Option.some.inj hu]⟩
      have hfront : '[' :: u = ['[', '^'] ++ body := congrArg ('[' :: ·) hbody
      have hsplit : MemberSet.splitMark u = (false, body) := by
        rw [hbody]
        rfl
      exact squared_follows ['[', '^'] body hfront hsplit
    · rw [if_neg hhead]
      have hsplit : MemberSet.splitMark u = (true, u) := by
        unfold MemberSet.splitMark
        split
        · exact absurd (hexcludes.mpr rfl) hhead
        · rfl
      exact squared_follows ['['] u rfl hsplit
  · have hb : b ≠ ']'.toUInt8 := Text.ne_of_mem_utf8EncodeChar (by decide) hd hmem
    have hread (ignoreCase : Bool) : MemberSet.read ignoreCase ('[' :: s) =
        ⟨'[' :: s, true, [], some (.refused (.bracketMismatch ('[' :: s)))⟩ := by
      have hne : s.getLast? ≠ some ']' := by
        rw [hu, List.getLast?_concat]
        exact fun h => hd (Option.some.inj h)
      rw [MemberSet.read.eq_4 _ _ hs, if_pos hne]
    simp only [hread]
    rw [if_pos hb]
    exact .fail _

theorem componentSet_follows (text : List Char) :
    Step.Follows (componentSet text)
      (fun ignoreCase => Builder.memberSet (.read ignoreCase text))
      fun ignoreCase => (MemberSet.read ignoreCase text).fault := by
  cases text with
  | nil =>
    simp only [MemberSet.read.eq_1]
    exact .fail _
  | cons c s =>
    by_cases hlength : utf8Length (c :: s) < 2
    · have hs : s = [] := by
        have hsize := c.utf8Size_pos
        refine Decidable.byContradiction fun hne => ?_
        have hpos := Text.utf8Length_pos hne
        rw [Text.utf8Length_cons] at hlength
        omega
      rw [componentSet, if_pos hlength, hs]
      simp only [MemberSet.read.eq_2]
      exact .fail _
    have hmore (hd : c.val.toNat ≤ 127) : s ≠ [] := by
      intro hs
      rw [hs, Text.utf8Length_cons, Text.utf8Size_of_ascii hd] at hlength
      exact hlength (by decide)
    by_cases hangled : c = '<'
    · rw [hangled]
      exact componentSet_angled (hmore (by rw [hangled]; decide))
    by_cases hsquared : c = '['
    · rw [hsquared]
      exact componentSet_squared (hmore (by rw [hsquared]; decide))
    obtain ⟨b, hb⟩ := (Text.byte?_isSome [] (c :: s)).mpr (List.cons_ne_nil c s)
    have hfirst : byte? (c :: s) 0 = some b := hb
    have hfound : found (c :: s) 0 = .ok [c] := found_eq [] (c :: s)
    have hb1 : b ≠ '<'.toUInt8 := fun h => hangled ((byte_eq_iff hb (by decide)).mp h)
    have hb2 : b ≠ '['.toUInt8 := fun h => hsquared ((byte_eq_iff hb (by decide)).mp h)
    have hread (ignoreCase : Bool) : MemberSet.read ignoreCase (c :: s) =
        ⟨c :: s, true, [], some (.refused (.unexpected (c :: s) [c]))⟩ := by
      cases s with
      | nil => exact MemberSet.read.eq_2 ..
      | cons d s => exact MemberSet.read.eq_5 _ _ _ (List.cons_ne_nil d s) hangled hsquared
    simp only [hread]
    rw [componentSet, if_neg hlength, Step.demand_bind hfirst, if_neg hb1, if_neg hb2,
      Step.lift_bind_of_ok hfound]
    exact .fail _

/-- Patterns shorter than some length are compiled as their builders do. -/
def Shorter (n : Nat) : Prop :=
  ∀ inside : List Char, inside.length < n →
    Step.Follows (patternList inside)
      (fun ignoreCase => Builder.list inside (.read ignoreCase inside))
      fun ignoreCase => (Pattern.read ignoreCase inside).fault?

theorem Shorter.mono {m n : Nat} (h : Shorter n) (hle : m ≤ n) : Shorter m :=
  fun inside hinside => h inside (Nat.lt_of_lt_of_le hinside hle)

theorem backref_follows (text : List Char) (hlists : Shorter text.length) :
    Step.Follows (backref text)
      (fun ignoreCase =>
        Builder.group text (Builder.list text.tail.dropLast (.readGroup ignoreCase text)))
      fun ignoreCase => (Pattern.readGroup ignoreCase text).fault? := by
  rw [backref]
  refine .group ?_ text
  unfold Pattern.readGroup
  split
  · next hnone =>
    simp only [hnone]
    exact .fail _
  · next inside hinside =>
    have htext := Pattern.eq_of_inside? hinside
    have hbody : text.tail.dropLast = inside := by
      rw [htext, List.cons_append, List.tail_cons, List.dropLast_concat]
    simp only [hinside, hbody]
    exact hlists inside (length_of_inside? hinside)

theorem repeatAt_follows {text atom quantifier : List Char} {indicator : Nat}
    (hsplit : Text.splitAtByte? indicator text = some (atom, quantifier))
    (hlists : Shorter text.length) :
    Step.Follows (repeatAt text indicator)
      (fun ignoreCase => Builder.repetition text
        (if atom.head? = some '(' then
          Builder.group atom (Builder.list atom.tail.dropLast (.readGroup ignoreCase atom))
        else Builder.memberSet (.read ignoreCase atom)) (Bounds.read text quantifier))
      fun ignoreCase =>
        (Pattern.atomFault? ignoreCase atom).or (Fault.of? (Bounds.read text quantifier)) := by
  have hatom : Step.Follows (if atom.head? = some '(' then backref atom else componentSet atom)
      (fun ignoreCase => if atom.head? = some '(' then
          Builder.group atom (Builder.list atom.tail.dropLast (.readGroup ignoreCase atom))
        else Builder.memberSet (.read ignoreCase atom))
      fun ignoreCase => Pattern.atomFault? ignoreCase atom := by
    unfold Pattern.atomFault?
    by_cases hgroup : atom.head? = some '('
    · simp only [if_pos hgroup]
      exact backref_follows atom (hlists.mono (length_of_splitAtByte? hsplit))
    · simp only [if_neg hgroup]
      exact componentSet_follows atom
  rw [repeatAt]
  split
  · next hnone => cases hnone.symm.trans hsplit
  · next atom' quantifier' hsome =>
    cases hsome.symm.trans hsplit
    exact hatom.repetition text (Bounds.read text quantifier)

/-- An item of a pattern on its own. -/
def item (ignoreCase : Bool) (c closing : Char) (inside q : List Char) : Builder (Matcher Leaf) :=
  let atom := c :: inside ++ [closing]
  let group := Builder.group atom (Builder.list inside (.read ignoreCase inside))
  if c = '(' ∧ q = [] then group
  else Builder.repetition (atom ++ q)
    (if c = '(' then group else Builder.memberSet (.read ignoreCase atom)) (Bounds.read (atom ++ q) q)

theorem items_cons {c closing : Char} {s inside rest rest' q : List Char}
    (hc : Bracket.closing? c = some closing) (hcut : Bracket.close? c closing s = some (inside, rest))
    (hq : Pattern.cutQuantifier? rest = some (q, rest')) (ignoreCase : Bool) (whole : List Char) :
    Builder.items (.readItems ignoreCase whole (c :: s)) =
      item ignoreCase c closing inside q >>= fun m =>
        Builder.items (.readItems ignoreCase whole rest') >>= fun ms => pure (m :: ms) := by
  have hinside : (c :: inside ++ [closing]).tail.dropLast = inside := by
    rw [List.cons_append, List.tail_cons, List.dropLast_concat]
  rw [Pattern.readItems_item hc hcut hq]
  unfold item
  by_cases hgroup : c = '('
  · rw [if_pos hgroup]
    cases q with
    | nil =>
      have hempty : ([] : List Char).isEmpty = true := rfl
      rw [if_pos hempty, if_pos ⟨hgroup, rfl⟩, List.append_nil, Builder.items, hinside]
      rfl
    | cons d q =>
      have hempty : ¬ (d :: q).isEmpty = true := Bool.false_ne_true
      have hnil : ¬ (c = '(' ∧ d :: q = []) := fun h => List.cons_ne_nil d q h.2
      rw [if_neg hempty, if_neg hnil, if_pos hgroup, Builder.items, hinside]
      rfl
  · have hnil : ¬ (c = '(' ∧ q = []) := fun h => hgroup h.1
    rw [if_neg hgroup, if_neg hnil, if_neg hgroup]
    rfl

theorem item_follows {c closing : Char} (hc : Bracket.closing? c = some closing)
    {inside q : List Char} {index indicator stop : Nat}
    (hindicator : indicator = index + utf8Length (c :: inside ++ [closing]))
    (hstop : stop = indicator + utf8Length q)
    (hlists : Shorter (c :: inside ++ [closing] ++ q).length) :
    Step.Follows (if c.toUInt8 = '('.toUInt8 ∧ indicator = stop then
        backref (c :: inside ++ [closing] ++ q)
      else do repeatAt (c :: inside ++ [closing] ++ q) (← demand (sub? indicator index)))
      (fun ignoreCase => item ignoreCase c closing inside q)
      fun ignoreCase => (Pattern.atomFault? ignoreCase (c :: inside ++ [closing])).or
        (Fault.of? (Bounds.read (c :: inside ++ [closing] ++ q) q)) := by
  have hround : c.toUInt8 = '('.toUInt8 ↔ c = '(' := by
    have hfirst : byte? ([] ++ [c]) (utf8Length []) = some c.toUInt8 :=
      (Text.byte?_eq_iff (ascii_of_closing? hc).1 [] [c]).mpr rfl
    exact byte_eq_iff hfirst (by decide)
  have hnone : indicator = stop ↔ q = [] := by
    refine ⟨fun h => ?_, fun h => ?_⟩
    · refine Decidable.byContradiction fun hne => ?_
      have hpos := Text.utf8Length_pos hne
      omega
    · rw [hstop, h, Text.utf8Length_nil, Nat.add_zero]
  have hinside : (c :: inside ++ [closing]).tail.dropLast = inside := by
    rw [List.cons_append, List.tail_cons, List.dropLast_concat]
  have hgroup (hparen : c = '(') (ignoreCase : Bool) :
      Pattern.readGroup ignoreCase (c :: inside ++ [closing]) = .read ignoreCase inside := by
    rw [hparen] at hc ⊢
    have hclosing : closing = ')' := (Option.some.inj hc).symm
    rw [hclosing, Pattern.readGroup_enclosed]
  have hbare : (c.toUInt8 = '('.toUInt8 ∧ indicator = stop) ↔ c = '(' ∧ q = [] :=
    and_congr hround hnone
  have hhead : (c :: inside ++ [closing]).head? = some '(' ↔ c = '(' := by
    rw [List.cons_append, List.head?_cons, Option.some.injEq]
  unfold item
  by_cases hwhole : c = '(' ∧ q = []
  · rw [if_pos (hbare.mpr hwhole)]
    simp only [if_pos hwhole]
    have hcompiled := backref_follows _ hlists
    rw [hwhole.2, List.append_nil] at hcompiled ⊢
    simp only [hinside, hgroup hwhole.1] at hcompiled
    refine hcompiled.congr fun ignoreCase => ?_
    have honce : Fault.of? (Bounds.read (c :: inside ++ [closing]) []) = none := rfl
    rw [Pattern.atomFault?, if_pos (hhead.mpr hwhole.1), hgroup hwhole.1, honce, Option.or_none]
  · rw [if_neg fun h => hwhole (hbare.mp h)]
    simp only [if_neg hwhole]
    have hsub : sub? indicator index = some (utf8Length (c :: inside ++ [closing])) := by
      rw [Word.sub?_of_le (by omega), hindicator, Nat.add_sub_cancel_left]
    have hcompiled := repeatAt_follows
      (Text.splitAtByte?_append (c :: inside ++ [closing]) q) hlists
    rw [Step.demand_bind hsub]
    simp only [hhead, hinside] at hcompiled
    by_cases hparen : c = '('
    · simp only [if_pos hparen, hgroup hparen] at hcompiled ⊢
      exact hcompiled
    · simp only [if_neg hparen] at hcompiled ⊢
      exact hcompiled

/-- The items of a text from the boundary of a character on are those of the text that is left. -/
theorem items_follows {text s : List Char} (front : List Char) (htext : text = front ++ s)
    (hlists : Shorter text.length) :
    Step.Follows (items text (utf8Length front))
      (fun ignoreCase => Builder.items (.readItems ignoreCase text s))
      fun ignoreCase => (Pattern.readItems ignoreCase text s).fault? := by
  -- Every item has brackets at least, so that less text is left behind it.
  match s with
  | [] =>
    have hend : ¬ utf8Length front < utf8Length text := by
      rw [htext, List.append_nil]
      exact Nat.lt_irrefl _
    simp only [Pattern.readItems_nil]
    rw [items, dif_neg hend]
    exact .pure []
  | c :: s =>
    have hlt : utf8Length front < utf8Length text := by
      have hpos := Text.utf8Length_pos (List.cons_ne_nil c s)
      rw [htext, Text.utf8Length_append]
      omega
    have hfault {f : Fault} (hend : itemEnd text (utf8Length front) = .error f.stop)
        (hread : ∀ ignoreCase, Pattern.readItems ignoreCase text (c :: s) = .fault f) :
        Step.Follows (items text (utf8Length front))
          (fun ignoreCase => Builder.items (.readItems ignoreCase text (c :: s)))
          fun ignoreCase => (Pattern.readItems ignoreCase text (c :: s)).fault? := by
      simp only [hread]
      rw [items_of_error hlt hend]
      exact .fault f
    cases hc : Bracket.closing? c with
    | none =>
      refine hfault (f := .refused (.unexpected text [c])) (htext ▸ itemEnd_other hc front s)
        fun ignoreCase => ?_
      rw [Pattern.readItems_cons, hc]
    | some closing =>
      have hend := itemEnd_item hc front s
      rw [← htext] at hend
      cases hcut : Bracket.close? c closing s with
      | none =>
        simp only [hcut] at hend
        refine hfault hend fun ignoreCase => ?_
        simp only [Pattern.readItems_cons, hc, hcut]
      | some parts =>
        obtain ⟨inside, rest⟩ := parts
        simp only [hcut] at hend
        cases hq : Pattern.cutQuantifier? rest with
        | none =>
          simp only [hq] at hend
          refine hfault (f := .refused (.missingRightBrace text)) hend fun ignoreCase => ?_
          simp only [Pattern.readItems_cons, hc, hcut, hq]
        | some parts =>
          obtain ⟨q, rest'⟩ := parts
          simp only [hq] at hend
          have hs : inside ++ closing :: (q ++ rest') = s := by
            rw [Pattern.append_of_cutQuantifier? hq, Bracket.append_of_close? hcut]
          have hparts : text = front ++ (c :: inside ++ [closing] ++ q) ++ rest' := by
            rw [htext, ← hs]
            simp
          have hstop : utf8Length (front ++ (c :: inside ++ [closing])) + utf8Length q =
              utf8Length (front ++ (c :: inside ++ [closing] ++ q)) := by
            rw [← Text.utf8Length_append, List.append_assoc]
          have hitem : slice? text (utf8Length front)
              (utf8Length (front ++ (c :: inside ++ [closing])) + utf8Length q) =
              some (c :: inside ++ [closing] ++ q) := by
            rw [hparts, hstop, Text.utf8Length_append]
            exact Text.slice?_append ..
          have hshort : (c :: inside ++ [closing] ++ q).length ≤ text.length := by
            simp only [hparts, List.length_append]
            omega
          have hfirst := item_follows hc (Text.utf8Length_append front _) rfl (hlists.mono hshort)
          have hrest := items_follows _ hparts hlists
          simp only [items_cons hc hcut hq, Pattern.fault?_readItems hc hcut hq]
          rw [items_of_item hlt hend hitem]
          refine hfirst.bind fun m => ?_
          rw [hstop]
          exact hrest.bind_total fun ms => .pure (m :: ms)
termination_by s.length
decreasing_by
  simp only [← hs, List.length_append, List.length_cons]
  omega

theorem patternList_follows (text : List Char) : Step.Follows (patternList text)
    (fun ignoreCase => Builder.list text (.read ignoreCase text))
    fun ignoreCase => (Pattern.read ignoreCase text).fault? := by
  -- What is inside a group of the pattern is shorter than the pattern.
  induction hn : text.length using Nat.strongRecOn generalizing text with
  | ind n ih =>
    have hlists : Shorter text.length := fun inside hinside =>
      ih inside.length (hn ▸ hinside) inside rfl
    have hitems := items_follows [] rfl hlists
    rw [patternList]
    exact hitems.bind_total fun ms => .allocMatcher text fun id => .list id ms

end Indexed

/-- Of what an arena holds, a builder only looks at whether case is ignored. -/
theorem Step.Follows.of_apply {x : Step (Matcher Leaf)} {y : Bool → Builder (Matcher Leaf)}
    {z : Builder (Matcher Leaf)} {r : Bool → Option Fault} (hx : Follows x y r)
    (hz : ∀ a, z a = y a.ignoreCase a) : Follows x (fun _ => z) r where
  ok h := hx.ok ((hz _).symm.trans h)
  error h := hx.error ((hz _).symm.trans h)

/-- A call by positions ends as its builder does, and with the first fault of its text. -/
theorem Call.indexed_follows (c : Call) :
    Step.Follows c.indexed (fun _ => c.build) fun ignoreCase => c.fault? ignoreCase := by
  cases c with
  | component text =>
    have hleaf := (Step.Follows.leaf text).bind_total fun leaf =>
      .pure (Matcher.component leaf.id leaf)
    refine hleaf.of_apply fun a => ?_
    rw [build]
    cases hread : Member.read a.ignoreCase text with
    | error e =>
      rw [Builder.component_of_error hread, Builder.leaf, hread]
      rfl
    | ok m => rw [Builder.component_of_ok hread, Builder.leaf, hread]
  | componentSet text =>
    exact (Indexed.componentSet_follows text).of_apply (Builder.componentSet_apply text)
  | backref text =>
    have hgroup := Indexed.backref_follows text fun inside _ =>
      Indexed.patternList_follows inside
    exact hgroup.of_apply (Builder.backref_apply text)
  | repeatAt text indicator =>
    cases hsplit : Text.splitAtByte? indicator text with
    | none =>
      have hbuild : (repeatAt text indicator).build = throw (.unexpected text text) := by
        simp only [build, Builder.repeatAt, hsplit]
      have hfault (ignoreCase : Bool) : (repeatAt text indicator).fault? ignoreCase =
          some (.refused (.unexpected text text)) := by
        simp only [fault?, hsplit]
      simp only [hfault]
      rw [hbuild, indexed, Indexed.repeatAt]
      split
      · exact .fail _
      · next hsome => cases hsome.symm.trans hsplit
    | some parts =>
      obtain ⟨atom, quantifier⟩ := parts
      have hrepeat := Indexed.repeatAt_follows hsplit fun inside _ =>
        Indexed.patternList_follows inside
      have hfault (ignoreCase : Bool) : (repeatAt text indicator).fault? ignoreCase =
          (Pattern.atomFault? ignoreCase atom).or (Fault.of? (Bounds.read text quantifier)) := by
        simp only [fault?, hsplit]
      simp only [hfault]
      refine hrepeat.of_apply fun a => ?_
      simp only [build, Builder.repeatAt, hsplit]
      apply Builder.repetition_congr
      by_cases hgroup : atom.head? = some '('
      · rw [if_pos hgroup, if_pos hgroup, Builder.backref_apply]
      · rw [if_neg hgroup, if_neg hgroup, Builder.componentSet_apply]
  | patternList text =>
    exact (Indexed.patternList_follows text).of_apply (Builder.patternList_apply text)

/-- A pattern without faults compiles in both ways, and otherwise both report the first fault of its
text. -/
theorem CompiledPattern.indexed_cases (ignoreCase : Bool) (text : List Char) :
    (∃ p, (Pattern.read ignoreCase text).Sound ∧
        indexed ignoreCase text = .ok p ∧ compile ignoreCase text = .ok p) ∨
      ∃ f, (Pattern.read ignoreCase text).fault? = some f ∧
        indexed ignoreCase text = .error f.stop ∧ compile ignoreCase text = .error f.error := by
  have hfollows := (Call.patternList text).indexed_follows
  unfold indexed compile
  cases hbuild : Builder.patternList text (.empty ignoreCase) with
  | ok m b =>
    obtain ⟨hstep, -, hnone⟩ := hfollows.ok hbuild
    have hstep : Indexed.patternList text (.empty ignoreCase) = .ok m b := hstep
    rw [hstep]
    exact .inl ⟨_, Pattern.sound_iff_fault?.mpr hnone, rfl, rfl⟩
  | error e b =>
    obtain ⟨f, c, hf, he, hstep, -⟩ := hfollows.error hbuild
    have hstep : Indexed.patternList text (.empty ignoreCase) = .error f.stop c := hstep
    rw [hstep, ← he]
    exact .inr ⟨f, hf, rfl, rfl⟩

theorem CompiledPattern.indexed_of_fault {ignoreCase : Bool} {text : List Char} {f : Fault}
    (h : (Pattern.read ignoreCase text).fault? = some f) :
    indexed ignoreCase text = .error f.stop := by
  obtain ⟨p, hsound, -⟩ | ⟨f', hf, hindexed, -⟩ := indexed_cases ignoreCase text
  · cases h.symm.trans (Pattern.sound_iff_fault?.mp hsound)
  · cases h.symm.trans hf
    exact hindexed

/-- A regex compiles in both ways, or both report the first fault of one of its forms. -/
theorem NameRegex.indexed_cases (ignoreCase : Bool) (text template : List Char) :
    (∃ r, indexed ignoreCase text template = .ok r ∧ compile ignoreCase text template = .ok r) ∨
      ∃ f s, (s = (forms text).1 ∨ s ∈ (forms text).2) ∧
        (Pattern.read ignoreCase s).fault? = some f ∧
        indexed ignoreCase text template = .error f.stop ∧
        compile ignoreCase text template = .error f.error := by
  unfold indexed compile
  generalize forms text = parts
  obtain ⟨first, second⟩ := parts
  obtain ⟨primary, -, hfirst, hfirst'⟩ | ⟨f, hf, hfirst, hfirst'⟩ :=
    CompiledPattern.indexed_cases ignoreCase first
  · cases second with
    | none =>
      simp only [hfirst, hfirst']
      exact .inl ⟨_, rfl, rfl⟩
    | some second =>
      obtain ⟨secondary, -, hsecond, hsecond'⟩ | ⟨f, hf, hsecond, hsecond'⟩ :=
        CompiledPattern.indexed_cases ignoreCase second
      · simp only [hfirst, hfirst', Option.mapM, hsecond, hsecond']
        exact .inl ⟨_, rfl, rfl⟩
      · simp only [hfirst, hfirst', Option.mapM, hsecond, hsecond']
        exact .inr ⟨f, second, .inr rfl, hf, rfl, rfl⟩
  · simp only [hfirst, hfirst']
    exact .inr ⟨f, first, .inl rfl, hf, rfl, rfl⟩

end NamePattern
