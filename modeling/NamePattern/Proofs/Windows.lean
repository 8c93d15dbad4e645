import NamePattern.Proofs.Matching

/-! The runs that the nodes of a pattern are left with by a match that prefers longer segments. -/
namespace NamePattern

/-- The consecutive segments of some lengths, each with its offset. -/
def segments : Nat → List Nat → List (Nat × Nat)
  | _, [] => []
  | offset, t :: ts => (offset, t) :: segments (offset + t) ts

/-- The greatest list with some property, where the first difference decides. -/
def Greatest (p : List Nat → Prop) (ts : List Nat) : Prop :=
  p ts ∧ ∀ us, p us → us = ts ∨ List.Lex (· < ·) us ts

/-- How many components segments of some lengths take together. -/
def total : List Nat → Nat
  | [] => 0
  | t :: ts => t + total ts

/-- A run is cut into one segment for each item of a list. -/
def Split {α : Type} (fits : α → Nat → Nat → Prop) (items : List α) (offset length : Nat)
    (ts : List Nat) : Prop :=
  ts.length = items.length ∧ total ts = length ∧
    ∀ p ∈ items.zip (segments offset ts), fits p.1 p.2.1 p.2.2

/-- A run is cut into the repetitions that follow `made` others. An empty one is among the first
`min`, and it is not the last. -/
def Parse (fits : Nat → Nat → Prop) (bounds : Bounds) (made offset length : Nat)
    (ts : List Nat) : Prop :=
  total ts = length ∧ bounds.min ≤ made + ts.length ∧ made + ts.length ≤ bounds.max ∧
    (∀ w ∈ segments offset ts, fits w.1 w.2) ∧
    ∀ i, ts[i]? = some 0 → made + i < bounds.min ∧ i + 1 < ts.length

/-- A tree matches some components of a name. -/
def Matcher.Fits (name : Name) (m : Matcher Leaf) (offset length : Nat) : Prop :=
  m.Language Leaf.Accepts (name.subName offset length).components

/-- What a node that has matched a run leaves to the nodes below it. -/
inductive Matcher.Passes (name : Name) : Matcher Leaf → Nat → Nat → Matcher Leaf → Nat → Nat → Prop
  | group {id : NodeId} {inner : Matcher Leaf} {offset length : Nat} :
      Passes name (.group id inner) offset length inner offset length
  | list {id : NodeId} {items : List (Matcher Leaf)} {offset length : Nat} {ts : List Nat}
      (hts : Greatest (Split (Fits name) items offset length) ts) {item : Matcher Leaf}
      {start count : Nat} (hitem : (item, start, count) ∈ items.zip (segments offset ts)) :
      Passes name (.list id items) offset length item start count
  | repeated {id : NodeId} {inner : Matcher Leaf} {bounds : Bounds} {offset length : Nat}
      {ts : List Nat} (hlength : length ≠ 0)
      (hts : Greatest (Parse (Fits name inner) bounds 0 offset length) ts) {start count : Nat}
      (hlast : (segments offset ts).getLast? = some (start, count)) :
      Passes name (.repeated id inner bounds) offset length inner start count
  | set {id : NodeId} {front back : List Leaf} {leaf : Leaf} {offset : Nat} {c : Component}
      (hc : name.get? offset = some c) (hfront : ∀ other ∈ front, ¬other.Accepts c)
      (hleaf : leaf.Accepts c) :
      Passes name (.set id (front ++ leaf :: back) true) offset 1 (.component leaf.id leaf) offset 1

/-- The runs that a match of a tree leaves to the nodes of the tree in the end. -/
inductive Matcher.FinalWindow (name : Name) (root : Matcher Leaf) (offset length : Nat) :
    Matcher Leaf → Nat → Nat → Prop
  | root : FinalWindow name root offset length root offset length
  | pass {t u : Matcher Leaf} {o l start count : Nat}
      (h : FinalWindow name root offset length t o l) (hpass : Passes name t o l u start count) :
      FinalWindow name root offset length u start count

@[simp] theorem total_nil : total [] = 0 := rfl

@[simp] theorem total_cons (t : Nat) (ts : List Nat) : total (t :: ts) = t + total ts := rfl

theorem le_total_of_mem {t : Nat} {ts : List Nat} (h : t ∈ ts) : t ≤ total ts := by
  induction ts with
  | nil => simp at h
  | cons u us ih =>
    rw [total_cons]
    rcases List.mem_cons.mp h with rfl | h
    · omega
    · have := ih h
      omega

theorem segment_le_total {offset : Nat} {ts : List Nat} {w : Nat × Nat}
    (h : w ∈ segments offset ts) : offset ≤ w.1 ∧ w.1 + w.2 ≤ offset + total ts := by
  induction ts generalizing offset with
  | nil => simp [segments] at h
  | cons t ts ih =>
    rw [total_cons]
    rcases List.mem_cons.mp h with rfl | h
    · simp only
      omega
    · have := ih h
      omega

namespace Greatest

variable {p q : List Nat → Prop} {ts us : List Nat}

theorem unique (ht : Greatest p ts) (hu : Greatest p us) : ts = us := by
  rcases ht.2 us hu.1 with rfl | hlt
  · rfl
  · rcases hu.2 ts ht.1 with rfl | hlt'
    · rfl
    · exact absurd hlt' (List.lex_asymm Nat.lt_asymm hlt)

theorem congr (h : ∀ ts, p ts ↔ q ts) (ht : Greatest p ts) : Greatest q ts :=
  ⟨(h ts).mp ht.1, fun us hu => ht.2 us ((h us).mpr hu)⟩

/-- A list is greatest if its head is the greatest with which a list goes on, and if its tail is
the greatest behind that. -/
theorem cons {t : Nat} (hp : p (t :: ts)) (hnil : ¬p [])
    (hhead : ∀ u us, p (u :: us) → u ≤ t)
    (htail : ∀ us, p (t :: us) → us = ts ∨ List.Lex (· < ·) us ts) : Greatest p (t :: ts) := by
  refine ⟨hp, fun us hu => ?_⟩
  cases us with
  | nil => exact absurd hu hnil
  | cons u us =>
    rcases Nat.lt_or_eq_of_le (hhead u us hu) with hlt | rfl
    · exact .inr (.rel hlt)
    · rcases htail us hu with rfl | hlt
      · exact .inl rfl
      · exact .inr (.cons hlt)

end Greatest

section Split

variable {α : Type} {fits fits' : α → Nat → Nat → Prop} {items : List α} {item : α}
  {offset length t : Nat} {ts : List Nat}

theorem split_nil : Split fits [] offset length ts ↔ ts = [] ∧ length = 0 := by
  unfold Split
  constructor
  · rintro ⟨hlen, rfl, -⟩
    obtain rfl := List.length_eq_zero_iff.mp hlen
    exact ⟨rfl, rfl⟩
  · rintro ⟨rfl, rfl⟩
    simp

theorem split_cons : Split fits (item :: items) offset length (t :: ts) ↔
    t ≤ length ∧ fits item offset t ∧ Split fits items (offset + t) (length - t) ts := by
  simp only [Split, segments, List.length_cons, total_cons, List.zip_cons_cons,
    List.forall_mem_cons]
  constructor
  · rintro ⟨hlen, hsum, hfit, hfits⟩
    exact ⟨by omega, hfit, by omega, by omega, hfits⟩
  · rintro ⟨ht, hfit, hlen, hsum, hfits⟩
    exact ⟨by omega, by omega, hfit, hfits⟩

theorem not_split_nil : ¬Split fits (item :: items) offset length [] := by
  simp [Split]

theorem split_congr
    (h : ∀ a ∈ items, ∀ o t, o + t ≤ offset + length → (fits a o t ↔ fits' a o t)) (ts : List Nat) :
    Split fits items offset length ts ↔ Split fits' items offset length ts := by
  refine and_congr_right fun _ => and_congr_right fun hsum =>
    forall_congr' fun p => forall_congr' fun hp => ?_
  obtain ⟨ha, hw⟩ := List.of_mem_zip hp
  exact h p.1 ha p.2.1 p.2.2 (hsum ▸ (segment_le_total hw).2)

end Split

section Parse

variable {fits fits' : Nat → Nat → Prop} {bounds : Bounds} {made offset length t : Nat}
  {ts : List Nat}

theorem not_parse_nil (h : length ≠ 0) : ¬Parse fits bounds made offset length [] := by
  simp [Parse, Ne.symm h]

theorem parse_zero : Parse fits bounds made offset 0 ts ↔
    ts = [] ∧ bounds.min ≤ made ∧ made ≤ bounds.max := by
  constructor
  · rintro ⟨hsum, hmin, hmax, -, hzero⟩
    cases hlast : ts.getLast? with
    | none =>
      obtain rfl := List.getLast?_eq_none_iff.mp hlast
      exact ⟨rfl, hmin, hmax⟩
    | some t =>
      have ht := le_total_of_mem (List.mem_of_getLast? hlast)
      obtain rfl : t = 0 := by omega
      rw [List.getLast?_eq_getElem?] at hlast
      have := (hzero _ hlast).2
      omega
  · rintro ⟨rfl, hmin, hmax⟩
    exact ⟨rfl, by simpa using hmin, by simpa using hmax, by simp [segments], by simp⟩

theorem parse_cons : Parse fits bounds made offset length (t :: ts) ↔
    made < bounds.max ∧ t ≤ length ∧ ((made < bounds.min ∧ ts ≠ []) ∨ 0 < t) ∧ fits offset t ∧
      Parse fits bounds (made + 1) (offset + t) (length - t) ts := by
  simp only [Parse, segments, List.length_cons, total_cons, List.forall_mem_cons]
  constructor
  · rintro ⟨hsum, hmin, hmax, ⟨hfit, hfits⟩, hzero⟩
    refine ⟨by omega, by omega, ?_, hfit, by omega, by omega, by omega, hfits, fun i hi => ?_⟩
    · rcases Nat.eq_zero_or_pos t with rfl | ht
      · obtain ⟨h1, h2⟩ := hzero 0 rfl
        exact .inl ⟨by omega, List.ne_nil_of_length_pos (by omega)⟩
      · exact .inr ht
    · have := hzero (i + 1) (by simpa using hi)
      omega
  · rintro ⟨hlt, ht, hpos, hfit, hsum, hmin, hmax, hfits, hzero⟩
    refine ⟨by omega, by omega, by omega, ⟨hfit, hfits⟩, fun i hi => ?_⟩
    cases i with
    | zero =>
      obtain rfl : t = 0 := by simpa using hi
      obtain ⟨hlt, hne⟩ : made < bounds.min ∧ ts ≠ [] := by simpa using hpos
      have := List.length_pos_iff.mpr hne
      omega
    | succ i =>
      have := hzero i (by simpa using hi)
      omega

theorem parse_congr (h : ∀ o t, o + t ≤ offset + length → (fits o t ↔ fits' o t)) (ts : List Nat) :
    Parse fits bounds made offset length ts ↔ Parse fits' bounds made offset length ts := by
  refine and_congr_right fun hsum => and_congr_right fun _ => and_congr_right fun _ =>
    and_congr_left fun _ => forall_congr' fun w => forall_congr' fun hw => ?_
  exact h w.1 w.2 (hsum ▸ (segment_le_total hw).2)

end Parse

end NamePattern
