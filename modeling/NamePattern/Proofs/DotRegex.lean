import NamePattern.Proofs.Enclosed
import NamePattern.Proofs.EscapedForm
import NamePattern.Proofs.Room

/-! The regex `.*` accepts the escaped form of every component. -/
namespace NamePattern.CharRegex

/-- All characters but the newline. -/
def dotSet : CharSet := ⟨[(0, 9), (11, maxCodePoint)]⟩

/-- What `.*` between anchors means. -/
def dotExpr : Expr :=
  .seq (.look .textStart) (.seq (.repeated 0 none true (.set dotSet)) (.look .textEnd))

/-- The regex that `.*` is read as. -/
def dots : CharRegex := ⟨.ofExpr dotExpr, 0⟩

theorem footprint_dotExpr (d : Direction) :
    (dotExpr.footprint d).bytes ≤ 4096 := by
  have hlength : (ByteRuns.ofSet dotSet).length = 10 := by decide
  have htotal : (ByteRuns.ofSet dotSet).flatten.length = 28 := by decide
  have hruns : dotSet.runs.length = 2 := rfl
  cases d with
  | forwards =>
    have hset := dotSet.bytes_addTo_forwards_le ((Footprint.mk 3 0).add 1 8)
    have hfoot : dotExpr.footprint .forwards =
        ((dotSet.addTo .forwards ((Footprint.mk 3 0).add 1 8)).add 1 0).add 2 0 := by
      simp only [dotExpr, Expr.footprint, Expr.addTo]
      rfl
    have hstart : ((Footprint.mk 3 0).add 1 8).bytes = 136 := rfl
    rw [hfoot, Footprint.bytes_add, Footprint.bytes_add]
    omega
  | backwards =>
    have hset := dotSet.bytes_addTo_backwards_le ((Footprint.mk 2 0).add 1 8)
    have hfoot : dotExpr.footprint .backwards =
        ((dotSet.addTo .backwards ((Footprint.mk 2 0).add 1 8)).add 1 0).add 1 0 := by
      simp only [dotExpr, Expr.footprint, Expr.addTo]
      rfl
    have hstart : ((Footprint.mk 2 0).add 1 8).bytes = 104 := rfl
    rw [hfoot, Footprint.bytes_add, Footprint.bytes_add]
    omega

theorem dotExpr_fits : dotExpr.fits = true := by
  have hforwards := footprint_dotExpr .forwards
  have hbackwards := footprint_dotExpr .backwards
  simp only [Expr.fits, Footprint.isTooLarge, Bool.and_eq_true, Bool.not_eq_true',
    decide_eq_false_iff_not]
  omega

theorem readWhole?_dots (ignoreCase : Bool) : readWhole? ignoreCase ['.', '*'] = some dots := by
  let t : Tree := .repeated 0 none true .any
  have htree : Tree.read? (opening ++ ['.', '*'] ++ closing) = some t.whole := rfl
  have hexpr : t.whole.expr? (.start ignoreCase) = some dotExpr := by cases ignoreCase <;> rfl
  rw [readWhole?_eq htree hexpr, if_pos dotExpr_fits]
  rfl

theorem dots_accepts (c : Component) : (dots.captures c.escaped).isSome = true := by
  have hwhole : dots = ⟨.ofExpr (Expr.repeated 0 none true (.set dotSet)).whole, 0⟩ := rfl
  have hdot : ∀ ch ∈ c.escaped, dotSet.ascii.contains ch = true := fun ch hch =>
    Component.forall_mem_escaped (p := dotSet.ascii.contains) (by decide) (by decide +kernel) hch
  rw [hwhole, Expr.captures_whole]
  exact ⟨c.escaped.length, Nat.zero_le _, by simp, Span.times_one hdot⟩

end NamePattern.CharRegex
