import NamePattern.Proofs.Grammar
import NamePattern.Proofs.Growth

/-! Where the parts of a tree stand in the text that the tree was compiled from, and where its
groups open. -/
namespace NamePattern

/-- Where a group opens: the place of what it belongs to, and its index among the groups there. -/
structure Opening where
  node : NodeId
  place : Nat
  index : Nat
deriving DecidableEq

namespace Opening

def Before (o o' : Opening) : Prop :=
  o.place < o'.place ∨ o.place = o'.place ∧ o.index < o'.index

/-- Openings follow each other from one place on and before another one. -/
structure Spread (first last : Nat) (os : List Opening) : Prop where
  ordered : os.Pairwise Before
  within : ∀ o ∈ os, first ≤ o.place ∧ o.place < last

namespace Spread

variable {first first' mid last last' : Nat} {os os' : List Opening}

protected theorem nil (first last : Nat) : Spread first last [] := ⟨.nil, by simp⟩

theorem mono (h : Spread first last os) (hfirst : first' ≤ first) (hlast : last ≤ last') :
    Spread first' last' os where
  ordered := h.ordered
  within o ho :=
    ⟨Nat.le_trans hfirst (h.within o ho).1, Nat.lt_of_lt_of_le (h.within o ho).2 hlast⟩

protected theorem append (h : Spread first mid os) (h' : Spread mid last os') (hle : first ≤ mid)
    (hle' : mid ≤ last) : Spread first last (os ++ os') where
  ordered := by
    refine List.pairwise_append.mpr ⟨h.ordered, h'.ordered, fun o ho o' ho' => ?_⟩
    exact .inl (Nat.lt_of_lt_of_le (h.within o ho).2 (h'.within o' ho').1)
  within o ho := by
    obtain ho | ho := List.mem_append.mp ho
    · exact ⟨(h.within o ho).1, Nat.lt_of_lt_of_le (h.within o ho).2 hle'⟩
    · exact ⟨Nat.le_trans hle (h'.within o ho).1, (h'.within o ho).2⟩

/-- The groups of one component regex open at its place, in their order. -/
theorem groups (ids : List NodeId) (p : Nat) :
    Spread p (p + 1) (ids.mapIdx fun i id => ⟨id, p, i⟩) where
  ordered := by
    refine List.pairwise_iff_getElem.mpr fun i j hi hj hlt => ?_
    rw [List.getElem_mapIdx, List.getElem_mapIdx]
    exact .inr ⟨rfl, hlt⟩
  within o ho := by
    obtain ⟨i, hi, ho⟩ := List.mem_mapIdx.mp ho
    rw [← ho]
    exact ⟨Nat.le_refl p, Nat.lt_succ_self p⟩

end Spread

end Opening

/-- A leaf without a regex has no groups. -/
theorem Leaf.Numbered.groups_eq_nil {leaf : Leaf} (h : leaf.Numbered) (hregex : leaf.regex = none) :
    leaf.groups = [] := by
  unfold Numbered at h
  rw [hregex] at h
  exact List.eq_nil_of_length_eq_zero h

namespace Matcher

open SetPhrase (angled)

/-- The members of a set, each in angle brackets, the first of which open at `p`. -/
def memberPlaces (text : NodeId → List Char) : List Leaf → Nat → List (Matcher Leaf × Nat)
  | [], _ => []
  | leaf :: leaves, p =>
    (component leaf.id leaf, p + 1) :: memberPlaces text leaves (p + (angled (text leaf.id)).length)

mutual

/-- The parts of a tree that stands at `p`, with their places. -/
def places (text : NodeId → List Char) : Matcher Leaf → Nat → List (Matcher Leaf × Nat)
  | component id leaf, p => [(component id leaf, p)]
  | set id members inclusion, p =>
    (set id members inclusion, p) :: memberPlaces text members (p + (text id).idxOf '<')
  | group id inner, p => (group id inner, p) :: places text inner (p + 1)
  | repeated id inner bounds, p => (repeated id inner bounds, p) :: places text inner p
  | list id items, p => (list id items, p) :: itemPlaces text items p

def itemPlaces (text : NodeId → List Char) : List (Matcher Leaf) → Nat → List (Matcher Leaf × Nat)
  | [], _ => []
  | item :: items, p => places text item p ++ itemPlaces text items (p + (text item.id).length)

end

/-- What a part at a place captures by itself: a group, or the groups of a component regex. -/
def ownOpenings : Matcher Leaf × Nat → List Opening
  | (group id _, p) => [⟨id, p, 0⟩]
  | (component _ leaf, p) => leaf.groups.mapIdx fun i id => ⟨id, p, i⟩
  | _ => []

/-- The groups of a tree that stands at the beginning of a text, with the places where they open. -/
def openings (text : NodeId → List Char) (m : Matcher Leaf) : List Opening :=
  (m.places text 0).flatMap ownOpenings

/-- The text of a part is made of the texts of its own parts. -/
def Spelled (text : NodeId → List Char) : Matcher Leaf → Prop
  | component id leaf => text id = [] → leaf.regex = none
  | set id members _ => ∃ front back, '<' ∉ front ∧
      text id = front ++ members.flatMap (fun leaf => angled (text leaf.id)) ++ back
  | group id inner => text id = '(' :: text inner.id ++ [')']
  | repeated id inner _ => text inner.id <+: text id
  | list id items => text id = items.flatMap fun item => text item.id

/-- A component regex has its groups. -/
def Counted (m : Matcher Leaf) : Prop := ∀ id leaf, m = component id leaf → leaf.Numbered

variable {text : NodeId → List Char} {s : List Char}

theorem map_fst_memberPlaces (leaves : List Leaf) (p : Nat) :
    (memberPlaces text leaves p).map Prod.fst = leaves.map fun leaf => component leaf.id leaf := by
  induction leaves generalizing p with
  | nil => rfl
  | cons leaf leaves ih => rw [memberPlaces, List.map_cons, ih, List.map_cons]

mutual

/-- Every part of a tree has a place. -/
theorem map_fst_places : ∀ (m : Matcher Leaf) (p : Nat), (places text m p).map Prod.fst = m.subtrees
  | component id leaf, p => rfl
  | set id members inclusion, p => by
    rw [places, subtrees, List.map_cons, map_fst_memberPlaces]
  | group id inner, p => by rw [places, subtrees, List.map_cons, map_fst_places inner]
  | repeated id inner bounds, p => by rw [places, subtrees, List.map_cons, map_fst_places inner]
  | list id items, p => by rw [places, subtrees, List.map_cons, map_fst_itemPlaces items]

theorem map_fst_itemPlaces : ∀ (items : List (Matcher Leaf)) (p : Nat),
    (itemPlaces text items p).map Prod.fst = itemSubtrees items
  | [], p => rfl
  | item :: items, p => by
    rw [itemPlaces, itemSubtrees, List.map_append, map_fst_places item, map_fst_itemPlaces items]

end

theorem map_node_groups (ids : List NodeId) (p : Nat) :
    (ids.mapIdx fun i id => (⟨id, p, i⟩ : Opening)).map Opening.node = ids := by
  refine List.ext_getElem (by simp) fun i hi hi' => ?_
  rw [List.getElem_map, List.getElem_mapIdx]

theorem map_node_memberPlaces (leaves : List Leaf) (p : Nat) :
    ((memberPlaces text leaves p).flatMap ownOpenings).map Opening.node =
      leaves.flatMap Leaf.groups := by
  induction leaves generalizing p with
  | nil => rfl
  | cons leaf leaves ih =>
    rw [memberPlaces, List.flatMap_cons, List.map_append, ih, List.flatMap_cons, ownOpenings,
      map_node_groups]

mutual

theorem map_node_places : ∀ (m : Matcher Leaf) (p : Nat),
    ((places text m p).flatMap ownOpenings).map Opening.node = m.captures
  | component id leaf, p => by
    rw [places, List.flatMap_singleton, captures, ownOpenings, map_node_groups]
  | set id members inclusion, p => map_node_memberPlaces members _
  | group id inner, p => congrArg (List.cons id) (map_node_places inner _)
  | repeated id inner bounds, p => map_node_places inner _
  | list id items, p => map_node_itemPlaces items _

theorem map_node_itemPlaces : ∀ (items : List (Matcher Leaf)) (p : Nat),
    ((itemPlaces text items p).flatMap ownOpenings).map Opening.node = itemCaptures items
  | [], p => rfl
  | item :: items, p => by
    rw [itemPlaces, itemCaptures, List.flatMap_append, List.map_append, map_node_places item,
      map_node_itemPlaces items]

end

/-- Each group of a tree opens once. -/
theorem map_node_openings (m : Matcher Leaf) : (m.openings text).map Opening.node = m.captures :=
  map_node_places m 0

/-- The first bracket of a set is that of its first member. -/
theorem memberPlaces_idxOf {front : List Char} (h : '<' ∉ front) (leaves : List Leaf)
    (back : List Char) (p : Nat) :
    memberPlaces text leaves (p +
        (front ++ leaves.flatMap (fun leaf => angled (text leaf.id)) ++ back).idxOf '<') =
      memberPlaces text leaves (p + front.length) := by
  cases leaves with
  | nil => rfl
  | cons leaf leaves =>
    rw [List.append_assoc, List.idxOf_append_of_notMem h]
    rfl

theorem memberPlaces_spread (leaves : List Leaf) (p : Nat) :
    Opening.Spread p (p + (leaves.flatMap fun leaf => angled (text leaf.id)).length)
      ((memberPlaces text leaves p).flatMap ownOpenings) := by
  induction leaves generalizing p with
  | nil => exact .nil ..
  | cons leaf leaves ih =>
    have hlength : (angled (text leaf.id)).length = (text leaf.id).length + 2 := by simp [angled]
    have hfirst : Opening.Spread p (p + (angled (text leaf.id)).length)
        (ownOpenings (component leaf.id leaf, p + 1)) :=
      (Opening.Spread.groups leaf.groups (p + 1)).mono (Nat.le_succ p) (by omega)
    rw [memberPlaces, List.flatMap_cons, List.flatMap_cons, List.length_append, ← Nat.add_assoc]
    exact hfirst.append (ih _) (Nat.le_add_right ..) (Nat.le_add_right ..)

mutual

/-- The groups of a tree open within its text, one behind the other. -/
theorem places_spread : ∀ (m : Matcher Leaf), (∀ t ∈ m.subtrees, Spelled text t ∧ t.Counted) →
    ∀ p : Nat, Opening.Spread p (p + (text m.id).length) ((places text m p).flatMap ownOpenings)
  | component id leaf, h, p => by
    obtain ⟨hspelled, hcounted⟩ := h _ (List.mem_singleton_self _)
    rw [places, List.flatMap_singleton, ownOpenings, Matcher.id]
    by_cases hempty : text id = []
    · rw [(hcounted id leaf rfl).groups_eq_nil (hspelled hempty)]
      exact .nil ..
    · have hpos : 0 < (text id).length := List.length_pos_of_ne_nil hempty
      exact (Opening.Spread.groups leaf.groups p).mono (Nat.le_refl p) (by omega)
  | set id members inclusion, h, p => by
    rw [subtrees] at h
    obtain ⟨⟨front, back, hfront, htext⟩, -⟩ := h _ (List.mem_cons_self ..)
    rw [places, List.flatMap_cons, Matcher.id, htext, memberPlaces_idxOf hfront]
    refine (memberPlaces_spread members (p + front.length)).mono (Nat.le_add_right ..) ?_
    rw [List.length_append, List.length_append]
    omega
  | group id inner, h, p => by
    rw [subtrees] at h
    obtain ⟨⟨hgroup, -⟩, hparts⟩ := List.forall_mem_cons.mp h
    have htext : text id = '(' :: text inner.id ++ [')'] := hgroup
    have hlength : (text id).length = (text inner.id).length + 2 := by simp [htext]
    have hinner := places_spread inner hparts (p + 1)
    have hself : Opening.Spread p (p + 1) [⟨id, p, 0⟩] := .groups [id] p
    rw [places, List.flatMap_cons, Matcher.id]
    refine (hself.append hinner (Nat.le_succ p) (Nat.le_add_right ..)).mono (Nat.le_refl p) ?_
    omega
  | repeated id inner bounds, h, p => by
    rw [subtrees] at h
    obtain ⟨⟨hrepeated, -⟩, hparts⟩ := List.forall_mem_cons.mp h
    have hinner : text inner.id <+: text id := hrepeated
    rw [places, List.flatMap_cons, Matcher.id]
    exact (places_spread inner hparts p).mono (Nat.le_refl p)
      (Nat.add_le_add_left hinner.length_le p)
  | list id items, h, p => by
    rw [subtrees] at h
    obtain ⟨⟨hlist, -⟩, hparts⟩ := List.forall_mem_cons.mp h
    have htext : text id = items.flatMap fun item => text item.id := hlist
    rw [places, List.flatMap_cons, Matcher.id, htext]
    exact itemPlaces_spread items hparts p

theorem itemPlaces_spread : ∀ (items : List (Matcher Leaf)),
    (∀ t ∈ itemSubtrees items, Spelled text t ∧ t.Counted) → ∀ p : Nat,
    Opening.Spread p (p + (items.flatMap fun item => text item.id).length)
      ((itemPlaces text items p).flatMap ownOpenings)
  | [], _, p => .nil ..
  | item :: items, h, p => by
    rw [itemSubtrees] at h
    obtain ⟨hitem, hitems⟩ := List.forall_mem_append.mp h
    have hfirst := places_spread item hitem p
    have hrest := itemPlaces_spread items hitems (p + (text item.id).length)
    rw [itemPlaces, List.flatMap_append, List.flatMap_cons, List.length_append, ← Nat.add_assoc]
    exact hfirst.append hrest (Nat.le_add_right ..) (Nat.le_add_right ..)

end

/-- What stands at a place behind some other text stands that much farther on. -/
theorem prefix_drop_of_append {u v : List Char} {p : Nat} (h : u ++ v <+: s.drop p) :
    v <+: s.drop (p + u.length) := by
  obtain ⟨rest, hrest⟩ := h
  rw [← List.drop_drop, ← hrest, List.append_assoc, List.drop_left]
  exact List.prefix_append ..

theorem prefix_of_mem_memberPlaces {leaves : List Leaf} {p : Nat}
    (hp : leaves.flatMap (fun leaf => angled (text leaf.id)) <+: s.drop p) :
    ∀ t q, (t, q) ∈ memberPlaces text leaves p → text t.id <+: s.drop q := by
  induction leaves generalizing p with
  | nil => simp [memberPlaces]
  | cons leaf leaves ih =>
    intro t q ht
    rw [List.flatMap_cons] at hp
    obtain ht | ht := List.mem_cons.mp ht
    · cases ht
      have hangled : angled (text leaf.id) <+: s.drop p := (List.prefix_append ..).trans hp
      have hbehind : text leaf.id ++ ['>'] <+: s.drop (p + 1) :=
        prefix_drop_of_append (u := ['<']) hangled
      exact (List.prefix_append ..).trans hbehind
    · exact ih (prefix_drop_of_append hp) t q ht

mutual

/-- If a tree stands at a place of a text, then its parts stand at theirs. -/
theorem prefix_of_mem_places : ∀ (m : Matcher Leaf), (∀ t ∈ m.subtrees, Spelled text t) →
    ∀ p : Nat, text m.id <+: s.drop p → ∀ t q, (t, q) ∈ places text m p → text t.id <+: s.drop q
  | component id leaf, _, p, hp, t, q, ht => by
    cases List.mem_singleton.mp ht
    exact hp
  | set id members inclusion, h, p, hp, t, q, ht => by
    obtain ht | ht := List.mem_cons.mp ht
    · cases ht
      exact hp
    · rw [subtrees] at h
      obtain ⟨front, back, hfront, htext⟩ : Spelled text (set id members inclusion) :=
        h _ (List.mem_cons_self ..)
      rw [htext, memberPlaces_idxOf hfront] at ht
      rw [Matcher.id, htext] at hp
      have hbehind := prefix_drop_of_append ((List.prefix_append ..).trans hp)
      exact prefix_of_mem_memberPlaces hbehind t q ht
  | group id inner, h, p, hp, t, q, ht => by
    obtain ht | ht := List.mem_cons.mp ht
    · cases ht
      exact hp
    · rw [subtrees] at h
      obtain ⟨hgroup, hparts⟩ := List.forall_mem_cons.mp h
      have htext : text id = ['('] ++ (text inner.id ++ [')']) := hgroup
      rw [Matcher.id, htext] at hp
      have hinner := (List.prefix_append ..).trans (prefix_drop_of_append hp)
      exact prefix_of_mem_places inner hparts (p + 1) hinner t q ht
  | repeated id inner bounds, h, p, hp, t, q, ht => by
    obtain ht | ht := List.mem_cons.mp ht
    · cases ht
      exact hp
    · rw [subtrees] at h
      obtain ⟨hrepeated, hparts⟩ := List.forall_mem_cons.mp h
      have hinner : text inner.id <+: text id := hrepeated
      exact prefix_of_mem_places inner hparts p (hinner.trans hp) t q ht
  | list id items, h, p, hp, t, q, ht => by
    obtain ht | ht := List.mem_cons.mp ht
    · cases ht
      exact hp
    · rw [subtrees] at h
      obtain ⟨hlist, hparts⟩ := List.forall_mem_cons.mp h
      have htext : text id = items.flatMap fun item => text item.id := hlist
      rw [Matcher.id, htext] at hp
      exact prefix_of_mem_itemPlaces items hparts p hp t q ht

theorem prefix_of_mem_itemPlaces : ∀ (items : List (Matcher Leaf)),
    (∀ t ∈ itemSubtrees items, Spelled text t) → ∀ p : Nat,
    items.flatMap (fun item => text item.id) <+: s.drop p →
    ∀ t q, (t, q) ∈ itemPlaces text items p → text t.id <+: s.drop q
  | item :: items, h, p, hp, t, q, ht => by
    rw [itemSubtrees] at h
    obtain ⟨hitem, hitems⟩ := List.forall_mem_append.mp h
    rw [List.flatMap_cons] at hp
    obtain ht | ht := List.mem_append.mp ht
    · exact prefix_of_mem_places item hitem p ((List.prefix_append ..).trans hp) t q ht
    · exact prefix_of_mem_itemPlaces items hitems _ (prefix_drop_of_append hp) t q ht

end

end Matcher

end NamePattern
