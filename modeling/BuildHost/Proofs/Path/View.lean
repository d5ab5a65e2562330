import BuildHost.Path.Directory
import Mathlib.Data.List.TakeDrop

/-!
# What a rooted path is read as

`view` reads a rooted path as a root and the plain segments below it.  Two
rooted paths in normal form are equal when they are read alike
(`eq_of_view_eq`), and joining and going up to the directory change what is read
in one way, however their arguments are spelled (`view_join`, `view_dirname`).
-/

namespace BuildHost
namespace Path

/-! ## Plain segments -/

/-- A segment that stands in a rooted path in normal form. -/
structure IsPlain (s : Path) : Prop extends IsEntered s where
  backslash_notMem : '\\' ∉ s

theorem isPlain_iff {s : Path} :
    IsPlain s ↔ s ≠ [] ∧ s ≠ here ∧ s ≠ up ∧ separator ∉ s ∧ '\\' ∉ s := by
  constructor
  · intro h
    exact ⟨h.ne_nil, h.ne_here, h.ne_up, h.separator_notMem, h.backslash_notMem⟩
  · rintro ⟨hnil, hhere, hup, hseparator, hback⟩
    exact ⟨⟨hnil, hhere, hup, hseparator⟩, hback⟩

instance (s : Path) : Decidable (IsPlain s) :=
  decidable_of_iff _ isPlain_iff.symm

/-- A root together with segments that a rooted path can be read to have. -/
structure IsPlace (root : Root) (segments : List Path) : Prop where
  isReadable : root.IsReadable
  isRooted : root.isRooted = true
  isPlain : ∀ s ∈ segments, IsPlain s

theorem IsPlace.withSegments {root : Root} {segments others : List Path}
    (h : IsPlace root segments) (hothers : ∀ s ∈ others, IsPlain s) :
    IsPlace root others :=
  ⟨h.isReadable, h.isRooted, hothers⟩

theorem IsPlace.of_append {root : Root} {front rest : List Path}
    (h : IsPlace root (front ++ rest)) : IsPlace root front :=
  h.withSegments fun s hs => h.isPlain s (List.mem_append_left rest hs)

theorem IsPlace.concat {root : Root} {front : List Path} {last : Path}
    (h : IsPlace root front) (hlast : IsPlain last) :
    IsPlace root (front ++ [last]) := by
  apply h.withSegments
  intro s hs
  cases List.mem_append.1 hs with
  | inl hfront => exact h.isPlain s hfront
  | inr hmem => exact List.mem_singleton.1 hmem ▸ hlast

theorem IsPlace.isCollapsed {root : Root} {segments : List Path}
    (h : IsPlace root segments) : IsCollapsed root segments where
  climbs := ⟨0, segments, rfl, fun s hs => (h.isPlain s hs).toIsEntered,
    fun _ => rfl⟩
  backslash_notMem s hs := (h.isPlain s hs).backslash_notMem

theorem IsCollapsed.isPlain {root : Root} {segments : List Path}
    (h : IsCollapsed root segments) (hr : root.isRooted = true) :
    ∀ s ∈ segments, IsPlain s := by
  intro s hs
  have hback := h.backslash_notMem s hs
  rcases h.climbs with ⟨n, entered, rfl, hentered, hn⟩
  obtain rfl := hn hr
  have hs' : s ∈ entered := by
    simpa using hs
  exact ⟨hentered s hs', hback⟩

theorem separator_notMem_of_isPlain {segments : List Path}
    (h : ∀ s ∈ segments, IsPlain s) : ∀ s ∈ segments, separator ∉ s :=
  fun s hs => (h s hs).separator_notMem

/-! ## Reading a rendered place -/

theorem render_of_isRooted {root : Root} (hr : root.isRooted = true)
    (segments : List Path) :
    render root segments = root.text ++ [separator].intercalate segments := by
  have hne : ¬(root = .none ∧ segments = []) := by
    rintro ⟨rfl, -⟩
    simp [Root.isRooted] at hr
  rw [render, if_neg hne]

theorem IsPlace.isNormal_render {root : Root} {segments : List Path}
    (h : IsPlace root segments) : IsNormal (render root segments) :=
  normalize_render_of_isRooted h.isReadable h.isRooted h.isCollapsed

theorem IsPlace.splitRoot_render {root : Root} {segments : List Path}
    (h : IsPlace root segments) :
    splitRoot (render root segments)
      = (root, [separator].intercalate segments) := by
  rw [render_of_isRooted h.isRooted, splitRoot_text h.isReadable h.isRooted]

theorem IsPlace.isRooted_render {root : Root} {segments : List Path}
    (h : IsPlace root segments) :
    Path.isRooted (render root segments) = true := by
  rw [Path.isRooted,
    normalizeSeparators_eq_self
      (backslash_notMem_render h.isReadable h.isCollapsed),
    h.splitRoot_render]
  exact h.isRooted

theorem filter_splitOn_intercalate {segments : List Path}
    (h : ∀ s ∈ segments, IsPlain s) :
    (([separator].intercalate segments).splitOn separator).filter (· ≠ [])
      = segments := by
  by_cases hne : segments = []
  · subst hne
    rfl
  · rw [List.splitOn_intercalate separator (separator_notMem_of_isPlain h) hne,
      List.filter_eq_self]
    intro s hs
    simpa using (h s hs).ne_nil

theorem IsPlace.view_render {root : Root} {segments : List Path}
    (h : IsPlace root segments) :
    view (render root segments) = (root, segments) := by
  have hnormal : normalize (render root segments) = render root segments :=
    h.isNormal_render
  rw [view, hnormal, h.splitRoot_render]
  simp only [filter_splitOn_intercalate h.isPlain]

/-! ## Reading any rooted path -/

theorem exists_place_of_isRooted {p : Path} (h : isRooted p = true) :
    ∃ root segments, normalize p = render root segments ∧
      IsPlace root segments := by
  rcases exists_normalize_eq p with
    ⟨root, segments, hp, hreadable, hcollapsed, hr⟩
  rw [h] at hr
  exact ⟨root, segments, hp, hreadable, hr, hcollapsed.isPlain hr⟩

theorem view_normalize (p : Path) : view (normalize p) = view p := by
  rw [view, view, normalize_normalize]

theorem isPlace_view {p : Path} (h : isRooted p = true) :
    IsPlace (view p).1 (view p).2 := by
  rcases exists_place_of_isRooted h with ⟨root, segments, hp, hplace⟩
  rw [← view_normalize, hp, hplace.view_render]
  exact hplace

theorem render_view {p : Path} (h : isRooted p = true) :
    render (view p).1 (view p).2 = normalize p := by
  rcases exists_place_of_isRooted h with ⟨root, segments, hp, hplace⟩
  rw [← view_normalize, hp, hplace.view_render]

theorem IsNormal.render_view {p : Path} (h : IsNormal p)
    (hr : isRooted p = true) :
    render (view p).1 (view p).2 = p := by
  rw [Path.render_view hr, h]

/-- Normal forms of rooted paths differ only where they are read differently. -/
theorem eq_of_view_eq {p q : Path} (hp : IsNormal p) (hq : IsNormal q)
    (hpr : isRooted p = true) (hqr : isRooted q = true) (h : view p = view q) :
    p = q := by
  rw [← hp.render_view hpr, h, hq.render_view hqr]

theorem view_of_isRooted {p : Path} (h : isRooted p = true) :
    view p = ((splitRoot (normalizeSeparators p)).1,
      collapse (splitRoot (normalizeSeparators p)).1
        ((splitRoot (normalizeSeparators p)).2.splitOn separator)) := by
  have hback : '\\' ∉ (splitRoot (normalizeSeparators p)).2 := by
    intro hmem
    apply backslash_notMem_normalizeSeparators p
    rw [← splitRoot_text_append (normalizeSeparators p)]
    exact List.mem_append_right _ hmem
  have hplace : IsPlace (splitRoot (normalizeSeparators p)).1
      (collapse (splitRoot (normalizeSeparators p)).1
        ((splitRoot (normalizeSeparators p)).2.splitOn separator)) :=
    ⟨isReadable_splitRoot _, h, (isCollapsed_collapse hback).isPlain h⟩
  rw [← view_normalize]
  exact hplace.view_render

theorem isRooted_view {p : Path} (h : isRooted p = true) :
    (view p).1.isRooted = true :=
  (isPlace_view h).isRooted

end Path

/-- Directories that are read alike are the same. -/
theorem Directory.eq_of_view_eq {dir other : Directory}
    (h : Path.view dir.path = Path.view other.path) : dir = other := by
  have hpath : dir.path = other.path :=
    Path.eq_of_view_eq dir.isNormal_path other.isNormal_path dir.isRooted_path
      other.isRooted_path h
  cases dir
  cases other
  exact (Directory.mk.injEq ..).mpr hpath

end BuildHost
