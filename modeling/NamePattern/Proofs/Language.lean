import NamePattern.Pattern.Matcher

/-! The runs of components that a compiled pattern stands for. -/
namespace NamePattern

/-- The runs that repetitions of a language make up. The empty run is made of no repetition at all.
Any other run is cut into repetitions, some of which may be empty, but not the last. -/
def Bounds.Repeats {β : Type} (bounds : Bounds) (language : List β → Prop) (w : List β) : Prop :=
  (w = [] ∧ bounds.min = 0) ∨
    (w ≠ [] ∧ ∃ parts : List (List β), parts.flatten = w ∧ bounds.min ≤ parts.length ∧
      parts.length ≤ bounds.max ∧ (∀ u ∈ parts, language u) ∧ parts.getLast? ≠ some [])

/-- A leaf without a regex accepts every component, and any other those whose escaped form its
regex matches. -/
def Leaf.Accepts (leaf : Leaf) (c : Component) : Prop :=
  ∀ regex, leaf.regex = some regex → (regex.captures c.escaped).isSome = true

theorem Leaf.isSome_answer (leaf : Leaf) (c : Component) :
    (leaf.answer c).isSome = true ↔ leaf.Accepts c := by
  unfold answer Accepts
  cases leaf.regex <;> simp

namespace Matcher

variable {α β γ : Type}

mutual

/-- The runs that a pattern matches, given what its leaves accept. -/
def Language (accepts : α → β → Prop) : Matcher α → List β → Prop
  | component _ leaf, w => ∃ b, w = [b] ∧ accepts leaf b
  | set _ members inclusion, w =>
    ∃ b, w = [b] ∧ ((∃ leaf ∈ members, accepts leaf b) ↔ inclusion = true)
  | group _ inner, w => Language accepts inner w
  | repeated _ inner bounds, w => bounds.Repeats (Language accepts inner) w
  | list _ items, w => ItemsLanguage accepts items w

/-- The runs that can be cut into one segment for each item, in their order. -/
def ItemsLanguage (accepts : α → β → Prop) : List (Matcher α) → List β → Prop
  | [], w => w = []
  | item :: items, w =>
    ∃ u v, w = u ++ v ∧ Language accepts item u ∧ ItemsLanguage accepts items v

end

end Matcher

theorem exists_range'_eq_append {offset length : Nat} {p : List Nat → List Nat → Prop} :
    (∃ u v, List.range' offset length = u ++ v ∧ p u v) ↔
      ∃ t ≤ length, p (List.range' offset t) (List.range' (offset + t) (length - t)) := by
  constructor
  · rintro ⟨u, v, h, hp⟩
    obtain ⟨t, ht, rfl, rfl⟩ := List.range'_eq_append_iff.mp h
    exact ⟨t, ht, by simpa using hp⟩
  · rintro ⟨t, ht, hp⟩
    refine ⟨_, _, List.range'_eq_append_iff.mpr ⟨t, ht, rfl, rfl⟩, ?_⟩
    simpa using hp

theorem Bounds.repeats_congr {β : Type} {bounds : Bounds} {L M : List β → Prop}
    (h : ∀ w, L w ↔ M w) (w : List β) : bounds.Repeats L w ↔ bounds.Repeats M w := by
  simp only [Bounds.Repeats, h]

theorem Bounds.repeats_once {β : Type} {bounds : Bounds} {L : List β → Prop} (hmin : bounds.min = 1)
    (hmax : bounds.max = 1) (hne : ¬ L []) {w : List β} : bounds.Repeats L w ↔ L w := by
  constructor
  · rintro (⟨-, hzero⟩ | ⟨-, parts, rfl, hlo, hhi, hparts, -⟩)
    · omega
    · obtain ⟨u, rfl⟩ := List.length_eq_one_iff.mp (show parts.length = 1 by omega)
      have hu := hparts u (List.mem_singleton_self u)
      simpa using hu
  · intro hw
    have hw0 : w ≠ [] := fun h => hne (h ▸ hw)
    refine .inr ⟨hw0, [w], List.flatten_singleton, Nat.le_of_eq hmin, Nat.le_of_eq hmax.symm, ?_, ?_⟩
    · simpa using hw
    · simpa using hw0

/-- Repetitions that take one component each are as many as there are components. -/
theorem Bounds.repeats_one_each {β : Type} {bounds : Bounds} {p : β → Prop} {w : List β} :
    bounds.Repeats (fun u => ∃ b, u = [b] ∧ p b) w ↔
      bounds.min ≤ w.length ∧ w.length ≤ bounds.max ∧ ∀ b ∈ w, p b := by
  constructor
  · rintro (⟨rfl, hzero⟩ | ⟨-, parts, rfl, hmin, hmax, hparts, -⟩)
    · exact ⟨Nat.le_of_eq hzero, Nat.zero_le _, by simp⟩
    · have hone : ∀ u ∈ parts, u.length = 1 := by
        intro u hu
        obtain ⟨b, rfl, -⟩ := hparts u hu
        rfl
      have hlength : parts.flatten.length = parts.length := by
        rw [List.length_flatten, List.map_congr_left hone, List.map_const', List.sum_replicate_nat,
          Nat.mul_one]
      refine ⟨hlength.symm ▸ hmin, hlength.symm ▸ hmax, fun b hb => ?_⟩
      obtain ⟨u, hu, hbu⟩ := List.mem_flatten.mp hb
      obtain ⟨d, rfl, hd⟩ := hparts u hu
      rw [List.mem_singleton.mp hbu]
      exact hd
  · intro h
    obtain ⟨hmin, hmax, hp⟩ := h
    cases w with
    | nil => exact .inl ⟨rfl, Nat.le_zero.mp hmin⟩
    | cons c w =>
      refine .inr ⟨by simp, (c :: w).map fun b => [b], ?_, by simpa using hmin, by simpa using hmax,
        ?_, ?_⟩
      · rw [← List.flatMap_def]
        exact List.flatMap_singleton' (c :: w)
      · intro u hu
        obtain ⟨b, hb, rfl⟩ := List.mem_map.mp hu
        exact ⟨b, rfl, hp b hb⟩
      · intro hlast
        obtain ⟨b, -, hb⟩ := List.mem_map.mp (List.mem_of_getLast? hlast)
        simp at hb

theorem flatten_eq_map {β γ : Type} {g : β → γ} {w : List β} {parts : List (List γ)}
    (h : parts.flatten = w.map g) :
    ∃ parts' : List (List β), parts'.flatten = w ∧ parts'.map (List.map g) = parts := by
  induction parts generalizing w with
  | nil => exact ⟨[], by simpa using h⟩
  | cons u parts ih =>
    obtain ⟨w₁, w₂, rfl, rfl, hw⟩ := List.map_eq_append_iff.mp h.symm
    obtain ⟨parts', rfl, rfl⟩ := ih hw.symm
    exact ⟨w₁ :: parts', rfl, rfl⟩

theorem Bounds.repeats_map {β γ : Type} (bounds : Bounds) (g : β → γ) (L : List γ → Prop)
    (w : List β) : bounds.Repeats L (w.map g) ↔ bounds.Repeats (fun u => L (u.map g)) w := by
  unfold Bounds.Repeats
  refine or_congr (by simp) (and_congr (by simp) ⟨?_, ?_⟩)
  · rintro ⟨parts, hw, hmin, hmax, hL, hlast⟩
    obtain ⟨parts, rfl, rfl⟩ := flatten_eq_map hw
    refine ⟨parts, rfl, by simpa using hmin, by simpa using hmax, by simpa using hL, ?_⟩
    intro h
    simp [List.getLast?_map, h] at hlast
  · rintro ⟨parts, rfl, hmin, hmax, hL, hlast⟩
    refine ⟨parts.map (List.map g), by simp [List.map_flatten], by simpa using hmin,
      by simpa using hmax, by simpa using hL, ?_⟩
    intro h
    simp only [List.getLast?_map, Option.map_eq_some_iff, List.map_eq_nil_iff] at h
    obtain ⟨u, hu, rfl⟩ := h
    exact hlast hu

namespace Matcher

variable {α β γ : Type}

mutual

/-- Replacing leaves changes what they accept, and nothing else. -/
theorem language_map (accepts : γ → β → Prop) (f : α → γ) :
    ∀ (m : Matcher α) (w : List β),
      (m.map f).Language accepts w ↔ m.Language (fun a => accepts (f a)) w
  | component _ leaf, w => by simp [map, Language]
  | set _ members inclusion, w => by
    simp only [map, Language, List.mem_map]
    grind
  | group _ inner, w => by simpa [map, Language] using language_map accepts f inner w
  | repeated _ inner bounds, w => by
    simpa [map, Language] using Bounds.repeats_congr (language_map accepts f inner) w
  | list _ items, w => by simpa [map, Language] using itemsLanguage_map accepts f items w

theorem itemsLanguage_map (accepts : γ → β → Prop) (f : α → γ) :
    ∀ (items : List (Matcher α)) (w : List β),
      ItemsLanguage accepts (mapItems f items) w ↔ ItemsLanguage (fun a => accepts (f a)) items w
  | [], w => by simp [mapItems, ItemsLanguage]
  | item :: items, w => by
    simp only [mapItems, ItemsLanguage, language_map accepts f item,
      itemsLanguage_map accepts f items]

end

mutual

/-- A pattern matches the image of a run if its leaves accept the images of what is in the run. -/
theorem language_run_map (accepts : α → γ → Prop) (g : β → γ) :
    ∀ (m : Matcher α) (w : List β),
      m.Language accepts (w.map g) ↔ m.Language (fun a b => accepts a (g b)) w
  | component _ leaf, w => by
    simp only [Language, List.map_eq_singleton_iff]
    grind
  | set _ members inclusion, w => by
    simp only [Language, List.map_eq_singleton_iff]
    grind
  | group _ inner, w => by simpa [Language] using language_run_map accepts g inner w
  | repeated _ inner bounds, w => by
    rw [Language, Language, Bounds.repeats_map]
    exact Bounds.repeats_congr (language_run_map accepts g inner) w
  | list _ items, w => by simpa [Language] using itemsLanguage_run_map accepts g items w

theorem itemsLanguage_run_map (accepts : α → γ → Prop) (g : β → γ) :
    ∀ (items : List (Matcher α)) (w : List β),
      ItemsLanguage accepts items (w.map g) ↔
        ItemsLanguage (fun a b => accepts a (g b)) items w
  | [], w => by simp [ItemsLanguage]
  | item :: items, w => by
    simp only [ItemsLanguage]
    constructor
    · rintro ⟨u, v, hw, hu, hv⟩
      obtain ⟨w₁, w₂, rfl, rfl, rfl⟩ := List.map_eq_append_iff.mp hw
      exact ⟨w₁, w₂, rfl, (language_run_map accepts g item w₁).mp hu,
        (itemsLanguage_run_map accepts g items w₂).mp hv⟩
    · rintro ⟨u, v, rfl, hu, hv⟩
      exact ⟨u.map g, v.map g, by simp, (language_run_map accepts g item u).mpr hu,
        (itemsLanguage_run_map accepts g items v).mpr hv⟩

end

end Matcher

end NamePattern
