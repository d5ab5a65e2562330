import BuildHost.Proofs.Path.Relative
import Mathlib.Data.List.Basic

/-!
# Containment of paths

A directory contains the paths that are read with its root and its segments
first.  `isWithin` says the same, but for one spelling: a path does not count as
within a directory when what follows the directory is itself spelled like a path
below a drive (`isWithin_iff`).  Moving a path from one directory to another
joins what follows the first to the second (`replaceRoot_withSeparator`).
-/

namespace BuildHost
namespace Path

/-- The path is the directory itself or lies below it. -/
def Contains (dir p : Path) : Prop :=
  (view dir).1 = (view p).1 ∧ (view dir).2 <+: (view p).2

/-- The path lies below the directory and is not the directory itself. -/
def IsBelow (p dir : Path) : Prop :=
  ∃ rest, rest ≠ [] ∧ view p = ((view dir).1, (view dir).2 ++ rest)

theorem contains_iff {dir p : Path} :
    Contains dir p ↔ ∃ rest, view p = ((view dir).1, (view dir).2 ++ rest) := by
  constructor
  · rintro ⟨hroot, rest, hrest⟩
    exact ⟨rest, by rw [hroot, hrest]⟩
  · rintro ⟨rest, hrest⟩
    rw [Contains, hrest]
    exact ⟨rfl, List.prefix_append _ _⟩

theorem contains_self (p : Path) : Contains p p :=
  contains_iff.2 ⟨[], by simp⟩

/-- Of two directories that contain one path, one contains the other. -/
theorem Contains.nested {dir other p : Path} (hdir : Contains dir p)
    (hother : Contains other p) :
    Contains dir other ∨ Contains other dir := by
  rcases List.prefix_or_prefix_of_prefix hdir.2 hother.2 with h | h
  · exact .inl ⟨hdir.1.trans hother.1.symm, h⟩
  · exact .inr ⟨hother.1.trans hdir.1.symm, h⟩

theorem IsBelow.contains {p dir : Path} (h : IsBelow p dir) :
    Contains dir p := by
  rcases h with ⟨rest, -, hrest⟩
  exact contains_iff.2 ⟨rest, hrest⟩

theorem isBelow_iff {p dir : Path} :
    IsBelow p dir ↔ Contains dir p ∧ view p ≠ view dir := by
  constructor
  · intro h
    refine ⟨h.contains, ?_⟩
    rcases h with ⟨rest, hne, hrest⟩
    intro heq
    have hsegments := congrArg Prod.snd (hrest.symm.trans heq)
    exact hne (List.append_right_eq_self.1 hsegments)
  · rintro ⟨hcontains, hne⟩
    rcases contains_iff.1 hcontains with ⟨rest, hrest⟩
    refine ⟨rest, ?_, hrest⟩
    rintro rfl
    rw [List.append_nil] at hrest
    exact hne hrest

theorem IsBelow.of_contains {dir between p : Path} (h : IsBelow p between)
    (hdir : Contains dir between) :
    IsBelow p dir := by
  rcases h with ⟨rest, hne, hrest⟩
  rcases contains_iff.1 hdir with ⟨front, hfront⟩
  refine ⟨front ++ rest, List.append_ne_nil_of_right_ne_nil front hne, ?_⟩
  rw [hrest, hfront, List.append_assoc]

instance (dir p : Path) : Decidable (Contains dir p) :=
  inferInstanceAs (Decidable (_ ∧ _))

instance (p dir : Path) : Decidable (IsBelow p dir) :=
  decidable_of_iff _ isBelow_iff.symm

theorem IsBelow.length_lt {p dir : Path} (h : IsBelow p dir) :
    (view dir).2.length < (view p).2.length := by
  rcases h with ⟨rest, hne, hrest⟩
  rw [hrest, List.length_append]
  have hpos := List.length_pos_of_ne_nil hne
  omega

/-- A directory above a path is told by the number of its segments. -/
theorem IsBelow.view_eq {p dir : Path} (h : IsBelow p dir) :
    view dir = ((view p).1, (view p).2.take (view dir).2.length) := by
  rcases h with ⟨rest, -, hrest⟩
  rw [hrest, List.take_left]

theorem IsBelow.exists_view {p dir : Path} (h : IsBelow p dir) :
    ∃ front last, view p
      = ((view dir).1, (view dir).2 ++ (front ++ [last])) := by
  rcases h with ⟨rest, hne, hrest⟩
  rcases (List.eq_nil_or_concat rest).resolve_left hne with ⟨front, last, rfl⟩
  rw [List.concat_eq_append] at hrest
  exact ⟨front, last, hrest⟩

theorem IsNormal.backslash_notMem {p : Path} (hp : IsNormal p) : '\\' ∉ p := by
  rcases exists_normalize_eq p with
    ⟨root, segments, hrender, hreadable, hcollapsed, -⟩
  rw [← hp, hrender]
  exact backslash_notMem_render hreadable hcollapsed

theorem IsNormal.isRooted {p : Path} (hp : IsNormal p)
    (h : (view p).1.isRooted = true) :
    Path.isRooted p = true := by
  rw [view, hp] at h
  rw [Path.isRooted, normalizeSeparators_eq_self hp.backslash_notMem]
  exact h

theorem IsBelow.isRooted {p dir : Path} (hp : IsNormal p)
    (hdir : Path.isRooted dir = true) (h : IsBelow p dir) :
    Path.isRooted p = true := by
  rcases h with ⟨rest, -, hrest⟩
  apply hp.isRooted
  rw [hrest]
  exact isRooted_view hdir

theorem isPlain_of_view {p dir : Path} {rest : List Path}
    (hr : Path.isRooted p = true)
    (h : view p = ((view dir).1, (view dir).2 ++ rest)) :
    ∀ s ∈ rest, IsPlain s := by
  intro s hs
  apply (isPlace_view hr).isPlain s
  rw [h]
  exact List.mem_append_right _ hs

/-! ## Spellings that look rooted -/

/-- Whether segments are spelled like a path below a drive: a letter and a
colon, and something below. -/
def spellsDrive : List Path → Bool
  | [letter, ':'] :: _ :: _ => letter.isAlpha
  | _ => false

theorem spellsDrive_cons_cons_iff {first second : Path} {others : List Path} :
    spellsDrive (first :: second :: others) = true ↔
      ∃ letter : Char, letter.isAlpha = true ∧ first = [letter, ':'] := by
  constructor
  · intro h
    unfold spellsDrive at h
    split at h
    next letter _ _ heq =>
      rcases List.cons.inj heq with ⟨rfl, -⟩
      exact ⟨letter, h, rfl⟩
    next => cases h
  · rintro ⟨letter, h, rfl⟩
    exact h

theorem two_le_length_of_spellsDrive {segments : List Path}
    (h : spellsDrive segments = true) :
    2 ≤ segments.length := by
  unfold spellsDrive at h
  split at h
  next => simp
  next => cases h

theorem spellsDrive_concat {front : List Path} {last : Path}
    (h : spellsDrive (front ++ [last]) = true) :
    ∃ letter : Char, letter.isAlpha = true ∧ [letter, ':'] ∈ front := by
  cases front with
  | nil => exact absurd h (by simp [spellsDrive])
  | cons first others =>
      rw [List.cons_append] at h
      cases hrest : others ++ [last] with
      | nil => exact absurd hrest (by simp)
      | cons second more =>
          rw [hrest] at h
          rcases spellsDrive_cons_cons_iff.1 h with ⟨letter, halpha, rfl⟩
          exact ⟨letter, halpha, List.mem_cons_self⟩

theorem spellsDrive_eq_false {front : List Path} {last name : Path}
    (h : ∀ letter : Char, letter.isAlpha = true →
      [letter, ':'] ∉ front ++ [last]) :
    spellsDrive (front ++ [name]) = false := by
  rw [Bool.eq_false_iff]
  intro hspells
  rcases spellsDrive_concat hspells with ⟨letter, halpha, hmem⟩
  exact h letter halpha (List.mem_append_left _ hmem)

theorem isRooted_intercalate {segments : List Path}
    (h : ∀ s ∈ segments, IsPlain s) :
    isRooted ([separator].intercalate segments) = spellsDrive segments := by
  have hback := backslash_notMem_intercalate fun s hs =>
    (h s hs).backslash_notMem
  rw [isRooted, normalizeSeparators_eq_self hback]
  cases segments with
  | nil => rfl
  | cons first rest =>
      have hfirst := h first List.mem_cons_self
      cases rest with
      | nil =>
          rw [List.intercalate_singleton,
            splitRoot_eq_none hfirst.separator_notMem]
          simp [Root.isRooted, spellsDrive]
      | cons second others =>
          rw [intercalate_cons_cons]
          by_cases hdrive : ∃ letter : Char, letter.isAlpha = true ∧
            first = [letter, ':']
          · have hspells : spellsDrive (first :: second :: others) = true :=
              spellsDrive_cons_cons_iff.2 hdrive
            rcases hdrive with ⟨letter, hletter, rfl⟩
            rw [hspells]
            simp only [List.cons_append, List.nil_append, separator,
              splitRoot_drive hletter]
            rfl
          · have hspells : spellsDrive (first :: second :: others) = false := by
              rw [Bool.eq_false_iff, ne_eq, spellsDrive_cons_cons_iff]
              exact hdrive
            rcases splitRoot_append_separator hfirst.ne_nil
              hfirst.separator_notMem
                ([separator].intercalate (second :: others)) with
                  hroot | hletter
            · rw [hroot, hspells]
              rfl
            · exact absurd hletter hdrive

/-! ## The test for containment -/

theorem not_up_prefix_intercalate {segments : List Path}
    (h : ∀ s ∈ segments, IsPlain s) :
    ¬ up ++ [separator] <+: [separator].intercalate segments := by
  rintro ⟨rest, hrest⟩
  rw [List.append_assoc, List.singleton_append] at hrest
  have hne : segments ≠ [] := by
    rintro rfl
    exact absurd hrest (by simp)
  have hup : separator ∉ up := by decide
  have hsplit := List.splitOn_intercalate separator
    (separator_notMem_of_isPlain h) hne
  rw [← hrest, List.splitOn_append_cons_self, List.splitOn_eq_singleton hup,
    List.singleton_append] at hsplit
  exact (h up (hsplit ▸ List.mem_cons_self)).ne_up rfl

theorem intercalate_ne_up {segments : List Path}
    (h : ∀ s ∈ segments, IsPlain s) :
    [separator].intercalate segments ≠ up := by
  intro heq
  have honly := eq_singleton_of_intercalate_eq (separator_notMem_of_isPlain h)
    (by decide) (by decide) heq
  exact (h up (honly ▸ List.mem_cons_self)).ne_up rfl

theorem staysInside_intercalate {segments : List Path}
    (h : ∀ s ∈ segments, IsPlain s) :
    staysInside ([separator].intercalate segments) = !spellsDrive segments := by
  have hprefix : (up ++ [separator]).isPrefixOf
      ([separator].intercalate segments) = false := by
    rw [Bool.eq_false_iff]
    exact fun hp =>
      not_up_prefix_intercalate h (List.isPrefixOf_iff_prefix.1 hp)
  simp [staysInside, isRooted_intercalate h, intercalate_ne_up h, hprefix]

theorem staysInside_climbs (n : Nat) (after : List Path) :
    staysInside ([separator].intercalate (List.replicate (n + 1) up ++ after))
      = false := by
  rw [List.replicate_succ, List.cons_append]
  cases hrest : List.replicate n up ++ after with
  | nil => decide
  | cons second others =>
      have hprefix : (up ++ [separator]).isPrefixOf
          (up ++ separator :: [separator].intercalate (second :: others))
            = true := by
        rw [List.isPrefixOf_iff_prefix]
        exact ⟨[separator].intercalate (second :: others), by simp⟩
      rw [intercalate_cons_cons, staysInside, hprefix]
      simp

/-- What counts as within a directory is what the directory contains, unless the
segments below the directory are spelled like a path below a drive. -/
theorem isWithin_iff {dir p : Path} (hp : isRooted p = true) :
    isWithin dir p = true ↔
      ∃ rest, view p = ((view dir).1, (view dir).2 ++ rest) ∧
        spellsDrive rest = false := by
  rw [isWithin]
  by_cases hroot : (view dir).1 = (view p).1
  · have hdrop : ∀ s ∈ (view p).2.drop (sharedLength (view dir).2 (view p).2),
        IsPlain s :=
      fun s hs => (isPlace_view hp).isPlain s (List.mem_of_mem_drop hs)
    rw [relative_of_root_eq hroot]
    constructor
    · intro hstays
      cases hclimbs :
        (view dir).2.length - sharedLength (view dir).2 (view p).2 with
      | zero =>
          rw [hclimbs, List.replicate_zero, List.nil_append,
            staysInside_intercalate hdrop] at hstays
          have hlength : sharedLength (view dir).2 (view p).2
              = (view dir).2.length :=
            Nat.le_antisymm (sharedLength_le_left _ _) (by omega)
          refine ⟨_, ?_, by simpa using hstays⟩
          have htake := take_sharedLength (view dir).2 (view p).2
          rw [hlength, List.take_length] at htake
          have hsegments : (view dir).2
              ++ (view p).2.drop (sharedLength (view dir).2 (view p).2)
              = (view p).2 := by
            rw [hlength]
            conv => lhs; lhs; rw [htake]
            exact List.take_append_drop _ _
          rw [hsegments, hroot]
      | succ n =>
          rw [hclimbs, staysInside_climbs] at hstays
          cases hstays
    · rintro ⟨rest, hrest, hspells⟩
      rw [hrest] at hdrop ⊢
      simp only [sharedLength_append_right, List.drop_left] at hdrop ⊢
      rw [Nat.sub_self, List.replicate_zero, List.nil_append,
        staysInside_intercalate hdrop, hspells]
      rfl
  · rw [relative_of_root_ne hroot, staysInside, isRooted_normalize hp]
    constructor
    · intro hstays
      exact absurd hstays (by simp)
    · rintro ⟨rest, hrest, -⟩
      exact absurd (by rw [hrest]) hroot

/-- The same, with the segments below the directory cut out of the path. -/
theorem isWithin_iff_contains {dir p : Path} (hp : isRooted p = true) :
    isWithin dir p = true ↔
      Contains dir p ∧
        spellsDrive ((view p).2.drop (view dir).2.length) = false := by
  rw [isWithin_iff hp, contains_iff]
  constructor
  · rintro ⟨rest, hrest, hspells⟩
    refine ⟨⟨rest, hrest⟩, ?_⟩
    rw [hrest, List.drop_left]
    exact hspells
  · rintro ⟨⟨rest, hrest⟩, hspells⟩
    rw [hrest, List.drop_left] at hspells
    exact ⟨rest, hrest, hspells⟩

theorem contains_of_isWithin {dir p : Path} (hp : isRooted p = true)
    (h : isWithin dir p = true) : Contains dir p := by
  rcases (isWithin_iff hp).1 h with ⟨rest, hrest, -⟩
  exact contains_iff.2 ⟨rest, hrest⟩

/-! ## Moving from one directory to another -/

/-- A directory with the separator after which the paths below it go on. -/
def withSeparator (dir : Path) : Path :=
  if dir.getLast? = some separator then dir else dir ++ [separator]

theorem view_withSeparator_append {dir : Path} (h : isRooted dir = true)
    (q : Path) :
    view (withSeparator dir ++ q) = view (dir ++ separator :: q) := by
  rw [withSeparator]
  split
  next hlast => exact view_append_of_getLast h hlast q
  next => simp

theorem isRooted_withSeparator_append {dir : Path} (h : isRooted dir = true)
    (q : Path) :
    isRooted (withSeparator dir ++ q) = true := by
  rw [withSeparator]
  split
  · exact isRooted_append h q
  · exact isRooted_append (isRooted_append h _) q

theorem normalize_withSeparator_append {dir : Path} (h : isRooted dir = true)
    (q : Path) :
    normalize (withSeparator dir ++ q) = join dir [q] := by
  apply eq_of_view_eq (normalize_normalize _) (isNormal_join _ _)
    (isRooted_normalize (isRooted_withSeparator_append h q)) (isRooted_join h q)
  rw [view_normalize, view_withSeparator_append h, view_append_separator h,
    view_join h]

theorem exists_intercalate_eq_append (front : List Path) (last : Path) :
    ∃ start, [separator].intercalate (front ++ [last]) = start ++ last := by
  by_cases hne : front = []
  · subst hne
    exact ⟨[], by simp⟩
  · refine ⟨[separator].intercalate front ++ [separator], ?_⟩
    rw [intercalate_append hne (by simp)]
    simp

theorem getLast?_intercalate_ne {segments : List Path}
    (hsegments : segments ≠ []) (h : ∀ s ∈ segments, s ≠ [] ∧ separator ∉ s) :
    [separator].intercalate segments ≠ [] ∧
      ([separator].intercalate segments).getLast? ≠ some separator := by
  rcases (List.eq_nil_or_concat segments).resolve_left hsegments with
    ⟨front, last, rfl⟩
  rw [List.concat_eq_append] at h ⊢
  have hlast := h last (by simp)
  rcases exists_intercalate_eq_append front last with ⟨start, hstart⟩
  rw [hstart]
  constructor
  · exact List.append_ne_nil_of_right_ne_nil start hlast.1
  · rw [List.getLast?_append_of_ne_nil start hlast.1]
    intro hsep
    exact hlast.2 (List.mem_of_getLast? hsep)

theorem IsCollapsed.getLast?_intercalate_ne {root : Root} {segments : List Path}
    (h : IsCollapsed root segments) (hne : segments ≠ []) :
    [separator].intercalate segments ≠ [] ∧
      ([separator].intercalate segments).getLast? ≠ some separator :=
  Path.getLast?_intercalate_ne hne fun s hs =>
    ⟨h.ne_nil s hs, h.separator_notMem s hs⟩

theorem IsPlace.getLast?_render {root : Root} {segments : List Path}
    (h : IsPlace root segments) (hne : segments ≠ []) :
    (render root segments).getLast? ≠ some separator := by
  have hends := h.isCollapsed.getLast?_intercalate_ne hne
  rw [render_of_isRooted h.isRooted, List.getLast?_append_of_ne_nil _ hends.1]
  exact hends.2

theorem IsPlace.withSeparator_render {root : Root} {segments : List Path}
    (h : IsPlace root segments) {rest : List Path} (hrest : rest ≠ []) :
    withSeparator (render root segments) ++ [separator].intercalate rest
      = render root (segments ++ rest) := by
  by_cases hne : segments = []
  · subst hne
    have hlast : (render root []).getLast? = some separator := by
      rw [render_of_isRooted h.isRooted]
      cases root with
      | none => exact absurd h.isRooted (by decide)
      | slash => rfl
      | drive letter => rfl
    rw [withSeparator, if_pos hlast, render_of_isRooted h.isRooted,
      render_of_isRooted h.isRooted]
    simp
  · rw [withSeparator, if_neg (h.getLast?_render hne),
      render_append h.isRooted hne hrest]
    simp

/-- How a path below a directory is spelled. -/
theorem eq_withSeparator_append {p dir : Path} {rest : List Path}
    (hp : IsNormal p) (hpr : isRooted p = true) (hdir : IsNormal dir)
    (hdirr : isRooted dir = true) (hne : rest ≠ [])
    (h : view p = ((view dir).1, (view dir).2 ++ rest)) :
    p = withSeparator dir ++ [separator].intercalate rest := by
  have hrender := (isPlace_view hdirr).withSeparator_render hne
  rw [hdir.render_view hdirr] at hrender
  rw [hrender, ← hp.render_view hpr, h]

theorem replaceRoot_withSeparator (source : Path) {target : Path}
    (htarget : IsNormal target) (rest : Path) :
    replaceRoot (withSeparator source ++ rest) source target
      = some (join target [rest]) := by
  rw [replaceRoot]
  split
  next heq =>
    have hrest : rest = [] := by
      have hlength := congrArg List.length heq
      rw [withSeparator, List.length_append] at hlength
      split at hlength
      · exact List.length_eq_zero_iff.1 (by omega)
      · rw [List.length_append] at hlength
        exact List.length_eq_zero_iff.1 (by omega)
    rw [hrest, join, List.foldl_cons, List.foldl_nil, append, if_pos rfl,
      htarget]
  next =>
    have hprefix : (withSeparator source).isPrefixOf?
        (withSeparator source ++ rest) = some rest :=
      List.isPrefixOf?_eq_some_iff_append_eq.2 rfl
    exact congrArg (Option.map fun rest => join target [rest]) hprefix

theorem contains_withSeparator_append {dir q : Path} (hdir : IsNormal dir)
    (hdirr : isRooted dir = true) (hp : IsNormal (withSeparator dir ++ q)) :
    Contains dir (withSeparator dir ++ q) := by
  have hplace := isPlace_view hdirr
  have hsplit := hplace.splitRoot_render
  rw [hdir.render_view hdirr] at hsplit
  have hroot : (splitRoot dir).1.isRooted = true := by
    rw [hsplit]
    exact hplace.isRooted
  have hread : view (withSeparator dir ++ q)
      = ((splitRoot (withSeparator dir ++ q)).1,
        ((splitRoot (withSeparator dir ++ q)).2.splitOn separator).filter
        (· ≠ [])) := by
    rw [view, hp]
  by_cases hne : (view dir).2 = []
  · have hview : (view (withSeparator dir ++ q)).1 = (view dir).1 := by
      rw [view_withSeparator_append hdirr, view_append_separator hdirr]
    exact ⟨hview.symm, by rw [hne]; exact List.nil_prefix⟩
  · have hlast := hplace.getLast?_render hne
    rw [hdir.render_view hdirr] at hlast
    have htext : withSeparator dir ++ q = dir ++ separator :: q := by
      simp [withSeparator, hlast]
    rw [htext, splitRoot_append hroot, hsplit, List.splitOn_append_cons_self,
      List.filter_append, filter_splitOn_intercalate hplace.isPlain,
      ← htext] at hread
    exact contains_iff.2 ⟨_, hread⟩

theorem replaceRoot_eq_none {p source : Path} (target : Path) (hp : IsNormal p)
    (hsource : IsNormal source) (hsourcer : isRooted source = true)
    (h : ¬ Contains source p) :
    replaceRoot p source target = none := by
  rw [replaceRoot, if_neg]
  · have hprefix : (withSeparator source).isPrefixOf? p = none := by
      cases hrest : (withSeparator source).isPrefixOf? p with
      | none => rfl
      | some rest =>
          rw [List.isPrefixOf?_eq_some_iff_append_eq] at hrest
          subst hrest
          exact absurd (contains_withSeparator_append hsource hsourcer hp) h
    exact congrArg (Option.map fun rest => join target [rest]) hprefix
  · rintro rfl
    exact h (contains_iff.2 ⟨[], by simp⟩)

end Path
end BuildHost
