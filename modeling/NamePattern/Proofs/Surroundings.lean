import Mathlib.Data.List.DropRight
import NamePattern.Proofs.RoundTrip

/-! What may surround the path of a URI. Blanks, a scheme, an authority and slashes at the end make
no difference to the name that is read. -/
namespace NamePattern

namespace Component

/-- A text of blanks. -/
def Blank (s : List Char) : Prop := ∀ c ∈ s, isBlank c = true

variable {blanks : List Char} {c : Char}

theorem trim_eq (s : List Char) : trim s = (s.dropWhile isBlank).rdropWhile isBlank := rfl

theorem rdropWhile_append_blanks (h : Blank blanks) (s : List Char) :
    (s ++ blanks).rdropWhile isBlank = s.rdropWhile isBlank := by
  have hreverse : ∀ c ∈ blanks.reverse, isBlank c = true :=
    fun c hc => h c (List.mem_reverse.mp hc)
  unfold List.rdropWhile
  rw [List.reverse_append, List.dropWhile_append_of_pos hreverse]

theorem trim_blanks_append (h : Blank blanks) (s : List Char) : trim (blanks ++ s) = trim s := by
  rw [trim_eq, trim_eq, List.dropWhile_append_of_pos h]

theorem trim_append_blanks (h : Blank blanks) (s : List Char) : trim (s ++ blanks) = trim s := by
  rw [trim_eq, trim_eq, List.dropWhile_append]
  split
  · next hs =>
    have hblanks : blanks.dropWhile isBlank = [] := List.dropWhile_eq_nil_iff.mpr h
    rw [hblanks, List.isEmpty_iff.mp hs]
  · exact rdropWhile_append_blanks h _

theorem trim_rdropWhile (s : List Char) : trim (s.rdropWhile isBlank) = trim s := by
  have hblank : Blank (s.rtakeWhile isBlank) := fun c hc => List.mem_rtakeWhile_imp hc
  have htrim := trim_append_blanks hblank (s.rdropWhile isBlank)
  rw [List.rdropWhile_append_rtakeWhile] at htrim
  exact htrim.symm

/-- On both sides of a character that is no blank, only the outer end is trimmed. -/
theorem trim_append_cons (hc : isBlank c = false) (s t : List Char) :
    trim (s ++ c :: t) = s.dropWhile isBlank ++ c :: t.rdropWhile isBlank := by
  have hcut (u v : List Char) : (u ++ c :: v).dropWhile isBlank = u.dropWhile isBlank ++ c :: v := by
    rw [List.dropWhile_append, List.dropWhile_cons_of_neg (by simp [hc])]
    split
    · next hu => rw [List.isEmpty_iff.mp hu, List.nil_append]
    · rfl
  rw [trim_eq, hcut]
  unfold List.rdropWhile
  rw [List.reverse_append, List.reverse_cons, List.append_assoc, List.singleton_append, hcut]
  simp

end Component

namespace Name

open Component (Blank isBlank trim)

/-- The name that is read behind the scheme of a URI. -/
def ofLocation (location : List Char) : Name :=
  match pathOf? location with
  | none => empty
  | some path => ⟨(path.splitOn '/').filterMap Component.ofEscaped?⟩

theorem ofUri_eq (uri : List Char) : ofUri uri = ofLocation (dropScheme (trim uri)) := rfl

variable {n : Name} {before scheme between authority after location s : List Char}

theorem segments_slashes (count : Nat) :
    ((List.replicate count '/').splitOn '/').filterMap Component.ofEscaped? = [] := by
  induction count with
  | zero => rfl
  | succ count ih =>
    have hsplit : (List.replicate (count + 1) '/').splitOn '/' =
        [] :: (List.replicate count '/').splitOn '/' := List.splitOn_append_cons_self [] _
    rw [hsplit]
    exact ih

/-- The segments between slashes at the end of a path are empty and name no component. -/
theorem segments_path_slashes (n : Name) (count : Nat) :
    ((n.path ++ List.replicate count '/').splitOn '/').filterMap Component.ofEscaped? =
      n.components := by
  cases count with
  | zero => rw [List.replicate_zero, List.append_nil, segments_path]
  | succ count =>
    rw [List.replicate_succ, List.splitOn_append_cons_self, List.filterMap_append, segments_path,
      segments_slashes, List.append_nil]

theorem not_blank_of_mem_path_slashes {count : Nat} :
    ∀ c ∈ n.path ++ List.replicate count '/', isBlank c = false := by
  intro c hc
  obtain hpath | hslash := List.mem_append.mp hc
  · exact not_blank_of_mem_path hpath
  · rw [List.eq_of_mem_replicate hslash]
    rfl

theorem ofLocation_of_path {count : Nat}
    (h : pathOf? location = some (trim (n.path ++ List.replicate count '/'))) :
    ofLocation location = n := by
  have htrim : trim (n.path ++ List.replicate count '/') = n.path ++ List.replicate count '/' :=
    Component.trim_of_free not_blank_of_mem_path_slashes
  unfold ofLocation
  rw [h, htrim]
  exact congrArg Name.mk (n.segments_path_slashes count)

theorem pathOf?_bare (h : s.head? ≠ some '/') : pathOf? s = some s := by
  cases s with
  | nil => rfl
  | cons c s =>
    have hne : c ≠ '/' := by simpa using h
    simp [pathOf?, hne]

theorem pathOf?_authority (h : '/' ∉ authority) (s : List Char) :
    pathOf? ('/' :: '/' :: (authority ++ '/' :: s)) = some (trim s) := by
  have hauthority : ∀ c ∈ authority, (c != '/') = true := by
    intro c hc
    have hne : c ≠ '/' := fun heq => h (heq ▸ hc)
    simpa using hne
  rw [pathOf?, List.dropWhile_append_of_pos hauthority, List.dropWhile_cons_of_neg (by simp)]

theorem eq_empty_of_path (h : n.path = []) : n = empty := by
  have hcomponents : n.components = [] := by
    rw [← segments_path, h]
    rfl
  exact congrArg Name.mk hcomponents

/-- The second of many slashes opens an authority. This is empty, and so is the path behind it. -/
theorem ofLocation_slashes (count : Nat) :
    ofLocation ('/' :: List.replicate count '/') = empty := by
  match count with
  | 0 => rfl
  | 1 => rfl
  | count + 2 =>
    have hopen := pathOf?_authority (List.not_mem_nil (a := '/')) (List.replicate count '/')
    exact ofLocation_of_path (n := empty) hopen

theorem ofLocation_path_slashes (n : Name) (count : Nat) :
    ofLocation ('/' :: (n.path ++ List.replicate count '/')) = n := by
  cases hpath : n.path with
  | nil =>
    rw [List.nil_append, ofLocation_slashes]
    exact (eq_empty_of_path hpath).symm
  | cons c path =>
    have hhead : (n.path ++ List.replicate count '/').head? ≠ some '/' := by
      have hfirst := n.head?_path
      rw [hpath] at hfirst ⊢
      exact hfirst
    rw [← hpath]
    exact ofLocation_of_path (pathOf?_slash hhead)

/-- A text that begins with a slash, ends in no blank and is read as a name. -/
structure Locates (location : List Char) (n : Name) : Prop where
  head : location.head? = some '/'
  trimmed : trim location = location
  read : ofLocation location = n

/-- A canonical URI with slashes behind it. -/
theorem locates_toUri (n : Name) (count : Nat) :
    Locates (n.toUri ++ List.replicate count '/') n := by
  rw [toUri_eq, List.cons_append]
  refine ⟨rfl, Component.trim_of_free ?_, n.ofLocation_path_slashes count⟩
  intro c hc
  obtain rfl | hc := List.mem_cons.mp hc
  · rfl
  · exact not_blank_of_mem_path_slashes c hc

/-- A canonical URI with slashes behind it and an authority in front of it. -/
theorem locates_authority (h : '/' ∉ authority) (n : Name) (count : Nat) :
    Locates ('/' :: '/' :: (authority ++ (n.toUri ++ List.replicate count '/'))) n := by
  rw [toUri_eq, List.cons_append]
  refine ⟨rfl, ?_, ofLocation_of_path (pathOf?_authority h _)⟩
  have hfront : ('/' :: '/' :: authority).dropWhile isBlank = '/' :: '/' :: authority := rfl
  have hback : (n.path ++ List.replicate count '/').rdropWhile isBlank =
      n.path ++ List.replicate count '/' := by
    apply List.rdropWhile_eq_self_iff.mpr
    intro hne
    simp [not_blank_of_mem_path_slashes _ (List.getLast_mem hne)]
  have htrim := Component.trim_append_cons (c := '/') (by decide) ('/' :: '/' :: authority)
    (n.path ++ List.replicate count '/')
  rw [hfront, hback] at htrim
  exact htrim

theorem Locates.ofUri_blanks (h : Locates location n) (hbefore : Blank before)
    (hafter : Blank after) : ofUri (before ++ (location ++ after)) = n := by
  obtain ⟨rest, hrest⟩ := List.head?_eq_some_iff.mp h.head
  have hscheme : dropScheme location = location := by
    rw [hrest]
    exact dropScheme_slash rest
  rw [ofUri_eq, Component.trim_blanks_append hbefore, Component.trim_append_blanks hafter,
    h.trimmed, hscheme, h.read]

/-- The first colon ends a scheme, with blanks or without. -/
theorem dropScheme_trim (h : ∀ c ∈ scheme, c ≠ ':' ∧ c ≠ '/') (rest : List Char) :
    dropScheme (trim (scheme ++ ':' :: rest)) = trim rest := by
  have hscheme : ∀ c ∈ scheme.dropWhile isBlank, (c != ':' && c != '/') = true := by
    intro c hc
    obtain ⟨hcolon, hslash⟩ := h c ((List.dropWhile_suffix _).mem hc)
    simp [hcolon, hslash]
  rw [Component.trim_append_cons (by decide), dropScheme, List.dropWhile_append_of_pos hscheme]
  exact Component.trim_rdropWhile rest

theorem Locates.ofUri_scheme (h : Locates location n) (hbefore : Blank before)
    (hscheme : ∀ c ∈ scheme, c ≠ ':' ∧ c ≠ '/') (hbetween : Blank between) (hafter : Blank after) :
    ofUri (before ++ (scheme ++ ':' :: (between ++ (location ++ after)))) = n := by
  rw [ofUri_eq, Component.trim_blanks_append hbefore, dropScheme_trim hscheme,
    Component.trim_blanks_append hbetween, Component.trim_append_blanks hafter, h.trimmed, h.read]

theorem dropScheme_of_free (h : ':' ∉ s) : dropScheme s = s := by
  unfold dropScheme
  split
  · next rest hrest =>
    have hmem : ':' ∈ s.dropWhile fun c => c != ':' && c != '/' := hrest ▸ List.mem_cons_self ..
    exact absurd ((List.dropWhile_suffix _).mem hmem) h
  · rfl

/-- The first slash of a canonical URI may be left out. -/
theorem ofUri_path (n : Name) : ofUri n.path = n := by
  have hfree : ':' ∉ n.path := by
    intro hmem
    obtain hslash | ⟨c, -, hc⟩ := mem_path hmem
    · exact absurd hslash (by decide)
    · exact (Component.not_special_of_mem_escaped hc).2.2 rfl
  have htrim : trim n.path = n.path :=
    Component.trim_of_free fun c hc => not_blank_of_mem_path hc
  have hpath : pathOf? n.path = some (trim (n.path ++ List.replicate 0 '/')) := by
    rw [pathOf?_bare n.head?_path, List.replicate_zero, List.append_nil, htrim]
  rw [ofUri_eq, htrim, dropScheme_of_free hfree]
  exact ofLocation_of_path hpath

/-- The canonical URI of a name is read as that name also with blanks around it and slashes behind
it, and with a scheme or an authority or both in front of it, or without its first slash. A scheme
has neither colons nor slashes, and an authority has no slashes. -/
theorem ofUri_surroundings (n : Name) (before scheme between authority after : List Char)
    (slashes : Nat) (hbefore : Blank before) (hscheme : ∀ c ∈ scheme, c ≠ ':' ∧ c ≠ '/')
    (hbetween : Blank between) (hauthority : '/' ∉ authority) (hafter : Blank after) :
    let uri := n.toUri ++ List.replicate slashes '/' ++ after
    ofUri (before ++ uri) = n ∧
      ofUri (before ++ scheme ++ [':'] ++ between ++ uri) = n ∧
      ofUri (before ++ ['/', '/'] ++ authority ++ uri) = n ∧
      ofUri (before ++ scheme ++ [':'] ++ between ++ ['/', '/'] ++ authority ++ uri) = n ∧
      ∃ path, n.toUri = '/' :: path ∧ ofUri path = n := by
  intro uri
  have hbare : Locates (n.toUri ++ List.replicate slashes '/') n := locates_toUri n slashes
  have hremote : Locates ('/' :: '/' :: (authority ++ (n.toUri ++ List.replicate slashes '/'))) n :=
    locates_authority hauthority n slashes
  refine ⟨?_, ?_, ?_, ?_, n.path, n.toUri_eq, n.ofUri_path⟩
  · exact hbare.ofUri_blanks hbefore hafter
  · have hread := hbare.ofUri_scheme hbefore hscheme hbetween hafter
    simpa [uri] using hread
  · have hread := hremote.ofUri_blanks hbefore hafter
    simpa [uri] using hread
  · have hread := hremote.ofUri_scheme hbefore hscheme hbetween hafter
    simpa [uri] using hread

/-- Behind the authority, two components of which the first one is empty; and two slashes behind the
one slash of the empty name. -/
theorem ofUri_surroundings_port :
    ofUri ['\t', 's', ' ', 'é', ' ', ':', '\n', '/', '/', 'h', ':', '8', '0', '/', '.', '.', '.', '/',
        '%', '2', 'F', '/', '\r'] = ⟨[⟨[]⟩, ⟨[47]⟩]⟩ ∧
      ofUri [' ', '/', '/', '/'] = empty := by
  have hblank (c : Char) (hc : isBlank c = true) : Blank [c] := List.forall_mem_singleton.mpr hc
  have hport := ofUri_surroundings ⟨[⟨[]⟩, ⟨[47]⟩]⟩ ['\t'] ['s', ' ', 'é', ' '] ['\n']
    ['h', ':', '8', '0'] ['\r'] 1 (hblank _ rfl) (by simp) (hblank _ rfl) (by simp) (hblank _ rfl)
  have hempty := ofUri_surroundings empty [' '] [] [] [] [] 2 (hblank _ rfl) (by simp) (by simp [Blank])
    (by simp) (by simp [Blank])
  obtain ⟨-, -, -, hport, -⟩ := hport
  exact ⟨hport, hempty.1⟩

end Name

end NamePattern
