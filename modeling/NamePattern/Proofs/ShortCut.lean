import NamePattern.Proofs.Stack

/-! Repetitions of a set try one component each and no other length. This changes neither what they
match nor what is captured. -/
namespace NamePattern

namespace Arena

variable {a : Arena} {ts : List (Matcher Leaf)} {inner : NodeId} {text : List Char}
  {name : Name} {offset length : Nat}

/-- Whether a node matches does not depend on what the slots hold. -/
theorem isMatchAt_decides_matchAt (a : Arena) (id : NodeId) (name : Name) (offset length : Nat) :
    (a.isMatchAt id name offset length).Decides
      ((a.matchAt id name offset length).isSome = true) := by
  intro s
  rw [matchAt_isSome]
  obtain ⟨_, m, -, hrun⟩ | hfail := a.isMatchAt_cases id name offset length
  · have hdecides := (m.answering name).run_decides offset length
    rw [hrun, hdecides s, hdecides (.empty a.size)]
  · rw [hfail]
    rfl

/-- A set decides which runs it matches by single components. -/
theorem isMatchAt_set_decides {m : Matcher Leaf} (hnode : a.nodes[inner]? = some ⟨text, .matcher m⟩)
    (hset : m.isSet = true) (name : Name) (o t : Nat) :
    (a.isMatchAt inner name o t).Decides
      (∃ i, List.range' o t = [i] ∧ (a.matchAt inner name i 1).isSome = true) := by
  rw [exists_range'_eq_singleton]
  by_cases ht : t = 1
  · rw [ht]
    exact (a.isMatchAt_decides_matchAt inner name o 1).congr (by simp)
  · rw [isMatchAt_of_isSet hnode hset name o t ht]
    exact Attempt.Decides.fail.congr (by simp [ht])

/-- Repetitions of a set, with any bounds, try one component each, or every length from the longest
down: they succeed alike and leave the same slots. They succeed if there are as many components as
the bounds allow and the set matches each of them. This is how an arena repeats its sets. -/
theorem Built.repeated_set_runs {setId : NodeId} {members : List Leaf} {inclusion : Bool}
    (h : a.Built ts)
    (hnode : a.nodes[inner]? = some ⟨text, .matcher (.set setId members inclusion)⟩)
    (bounds : Bounds) (hle : offset + length ≤ name.length) (s : Slots) :
    let attempt := a.isMatchAt inner name
    let result := Repetition.run attempt bounds true offset length s
    result = Repetition.run attempt bounds false offset length s ∧
      (result.1 = true ↔ bounds.min ≤ length ∧ length ≤ bounds.max ∧
        ∀ i, offset ≤ i → i < offset + length → (a.matchAt inner name i 1).isSome = true) ∧
      ∀ id text', a.nodes[id]? =
          some ⟨text', .matcher (.repeated id (.set setId members inclusion) bounds)⟩ →
        a.isMatchAt id name offset length s = result := by
  intro attempt result
  have hsingle : ∀ o t, t ≠ 1 → attempt o t = .fail := isMatchAt_of_isSet hnode rfl name
  have htrue : Repetition.run attempt bounds true offset length =
      Repetition.recur attempt bounds 0 offset length :=
    Repetition.run_eq_recur (fun _ => hsingle) offset length
  have hfalse : Repetition.run attempt bounds false offset length =
      Repetition.recur attempt bounds 0 offset length :=
    Repetition.run_eq_recur (fun hf => absurd hf Bool.false_ne_true) offset length
  refine ⟨?_, ?_, fun id text' hrepeated => ?_⟩
  · rw [hfalse, ← htrue]
  · let one (u : List Nat) : Prop := ∃ i, u = [i] ∧ (a.matchAt inner name i 1).isSome = true
    have hone : ∀ o t, (attempt o t).Decides (one (List.range' o t)) :=
      isMatchAt_set_decides hnode rfl name
    have hdecides := Repetition.recur_decides hone (Nat.zero_le bounds.max) offset length s
    rw [← htrue, ← Bounds.repeats_iff_completes, Bounds.repeats_one_each, List.length_range']
      at hdecides
    rw [hdecides]
    simp only [List.mem_range'_1, and_imp]
  · have hid : setId = inner := (h.wellFormed.stored inner text _ hnode).1
    rw [h.wellFormed.isMatchAt_repeated hrepeated hle, Matcher.id, hid, ← htrue]

/-- The loop over all lengths finds three components for `<(a)>{2,3}`, with the group that the last
of them fills. -/
theorem Built.repeated_set_runs_group :
    let name : Name := ⟨[⟨[98]⟩, ⟨[97]⟩, ⟨[97]⟩, ⟨[97]⟩]⟩
    let bounds : Bounds := ⟨2, 3, by decide⟩
    let slots : Slots := (Slots.empty 4).set 0 (.value ⟨[97]⟩)
    ∃ m b, (Call.repeatAt "<(a)>{2,3}".toList 5).build (.empty false) = .ok m b ∧
      Repetition.run (b.isMatchAt 2 name) bounds false 1 3 (.empty 4) = (true, slots) ∧
      ∀ i, 1 ≤ i → i < 4 → (b.matchAt 2 name i 1).isSome = true := by
  intro name bounds slots
  obtain ⟨m, b, leaf, hb, hset, hrepeated, hmatch⟩ : ∃ m b leaf,
      (Call.repeatAt "<(a)>{2,3}".toList 5).build (.empty false) = .ok m b ∧
      b.nodes[2]? = some ⟨"<(a)>".toList, .matcher (.set 2 [leaf] true)⟩ ∧
      b.nodes[3]? =
        some ⟨"<(a)>{2,3}".toList, .matcher (.repeated 3 (.set 2 [leaf] true) bounds)⟩ ∧
      b.isMatchAt 3 name 1 3 (.empty 4) = (true, slots) :=
    ⟨_, _, _, by cbv, by cbv, by cbv, by cbv⟩
  have hbuilt : b.Built [m] := .success _ (.empty false) hb
  obtain ⟨hsame, hiff, hnode⟩ :=
    hbuilt.repeated_set_runs hset bounds (show 1 + 3 ≤ name.length by decide) (.empty 4)
  have hresult := (hnode 3 _ hrepeated).symm.trans hmatch
  refine ⟨m, b, hb, hsame.symm.trans hresult, ?_⟩
  exact (hiff.mp (congrArg Prod.fst hresult)).2.2

end Arena

end NamePattern
