import BuildHost.Proofs.Path.Inside
import BuildHost.Proofs.Path.Spelling

/-!
# The normal form as it is spelled

A path is in normal form exactly when its text spells nothing twice and nothing
that could be left out: one separator between segments and none at the end, no
segment that stays where it is, and climbs only at the start of a relative path
(`isNormal_iff_isCanonical`).  A relative path may be brought into normal form
before it is joined to a directory (`join_normalize`), and so may a rooted path
before fragments are joined to it, however the fragments are spelled
(`normalize_join`): joining in steps is joining at once (`join_in_steps`).
-/

namespace BuildHost
namespace Path

variable {p base : Path}

/-! ## The text of a normal form -/

/-- The segments that the text of a path has behind its root, as they stand
there; a root by itself has none. -/
def spelledSegments (p : Path) : List Path :=
  if (splitRoot p).2 = [] then [] else (splitRoot p).2.splitOn separator

/-- A text that spells every segment of a path once and nothing else. -/
structure IsCanonical (p : Path) : Prop where
  ne_nil : p ≠ []
  backslash_notMem : '\\' ∉ p
  /-- Only a root ends with a separator. -/
  eq_root_of_getLast? : p.getLast? = some separator → p = (splitRoot p).1.text
  nil_notMem : [] ∉ spelledSegments p
  /-- The path of the directory that one is in is the only one with a dot. -/
  here_notMem : p ≠ here → here ∉ spelledSegments p
  /-- Climbs stand before all else, and not behind a root. -/
  climbs : ∃ n entered, spelledSegments p = List.replicate n up ++ entered ∧
    up ∉ entered ∧
    ((splitRoot p).1.isRooted = true → n = 0)

theorem normalize_of_backslash_notMem (h : '\\' ∉ p) :
    normalize p
      = render (splitRoot p).1 (collapse (splitRoot p).1
        ((splitRoot p).2.splitOn separator)) := by
  rw [normalize, normalizeSeparators_eq_self h]

theorem isCanonical_here : IsCanonical here where
  ne_nil := by decide
  backslash_notMem := by decide
  eq_root_of_getLast? := by decide
  nil_notMem := by decide
  here_notMem h := absurd rfl h
  climbs := ⟨0, [here], by decide, by decide, fun _ => rfl⟩

theorem IsNormal.exists_intercalate_eq (h : IsNormal p) (hne : p ≠ here) :
    ∃ segments, (splitRoot p).2 = [separator].intercalate segments ∧
      IsCollapsed (splitRoot p).1 segments := by
  have hback := h.backslash_notMem
  have htext := splitRoot_text_append p
  have hrest : '\\' ∉ (splitRoot p).2 := by
    intro hmem
    rw [← htext] at hback
    exact hback (List.mem_append_right _ hmem)
  refine ⟨collapse (splitRoot p).1 ((splitRoot p).2.splitOn separator), ?_,
    isCollapsed_collapse hrest⟩
  have hrender := (normalize_of_backslash_notMem hback).symm.trans h
  rw [render] at hrender
  split at hrender
  next => exact absurd hrender.symm hne
  next => exact List.append_cancel_left (htext.trans hrender.symm)

theorem spelledSegments_of_eq_intercalate {root : Root} {segments : List Path}
    (h : IsCollapsed root segments)
    (hp : (splitRoot p).2 = [separator].intercalate segments) :
    spelledSegments p = segments := by
  by_cases hne : segments = []
  · subst hne
    rw [spelledSegments, hp, List.intercalate_nil, if_pos rfl]
  · rw [spelledSegments, hp, if_neg (h.getLast?_intercalate_ne hne).1,
      List.splitOn_intercalate separator h.separator_notMem hne]

theorem IsNormal.eq_root_of_getLast? (h : IsNormal p)
    (hlast : p.getLast? = some separator) :
    p = (splitRoot p).1.text := by
  have hne : p ≠ here := by
    rintro rfl
    exact absurd hlast (by decide)
  rcases h.exists_intercalate_eq hne with ⟨segments, hrest, hcollapsed⟩
  have htext := splitRoot_text_append p
  by_cases hnil : segments = []
  · rw [hrest, hnil, List.intercalate_nil, List.append_nil] at htext
    exact htext.symm
  · have hends := hcollapsed.getLast?_intercalate_ne hnil
    rw [← htext, hrest, List.getLast?_append_of_ne_nil _ hends.1] at hlast
    exact absurd hlast hends.2

theorem IsNormal.isCanonical (h : IsNormal p) : IsCanonical p := by
  by_cases hhere : p = here
  · exact hhere ▸ isCanonical_here
  rcases h.exists_intercalate_eq hhere with ⟨segments, hrest, hcollapsed⟩
  have hspelled := spelledSegments_of_eq_intercalate hcollapsed hrest
  rcases hcollapsed.climbs with ⟨n, entered, hsegments, hentered, hn⟩
  constructor
  · rintro rfl
    exact absurd h (by decide)
  · exact h.backslash_notMem
  · exact h.eq_root_of_getLast?
  · rw [hspelled]
    exact fun hmem => hcollapsed.ne_nil [] hmem rfl
  · intro _ hmem
    rw [hspelled, hsegments] at hmem
    rcases List.mem_append.1 hmem with hmem | hmem
    · exact absurd (List.eq_of_mem_replicate hmem) (by decide)
    · exact (hentered here hmem).ne_here rfl
  · exact ⟨n, entered, hspelled.trans hsegments,
      fun hmem => (hentered up hmem).ne_up rfl, hn⟩

theorem IsCanonical.isCollapsed (h : IsCanonical p) (hne : p ≠ here) :
    IsCollapsed (splitRoot p).1 (spelledSegments p) := by
  have hsegment : ∀ s ∈ spelledSegments p,
      s ∈ (splitRoot p).2.splitOn separator := by
    intro s hs
    rw [spelledSegments] at hs
    split at hs
    · cases hs
    · exact hs
  rcases h.climbs with ⟨n, entered, hspelled, hup, hn⟩
  constructor
  · refine ⟨n, entered, hspelled, ?_, hn⟩
    intro s hs
    have hmem : s ∈ spelledSegments p := hspelled ▸ List.mem_append_right _ hs
    constructor
    · rintro rfl
      exact h.nil_notMem hmem
    · rintro rfl
      exact h.here_notMem hne hmem
    · rintro rfl
      exact hup hs
    · exact separator_notMem_of_mem_splitOn (hsegment s hmem)
  · intro s hs hc
    apply h.backslash_notMem
    rw [← splitRoot_text_append p]
    exact List.mem_append_right _ (mem_of_mem_splitOn (hsegment s hs) hc)

theorem IsCanonical.isNormal (h : IsCanonical p) : IsNormal p := by
  by_cases hhere : p = here
  · exact hhere ▸ (by decide : IsNormal here)
  have htext := splitRoot_text_append p
  have hcollapsed := (h.isCollapsed hhere).collapse_eq
  rw [IsNormal, normalize_of_backslash_notMem h.backslash_notMem]
  rw [spelledSegments] at hcollapsed
  by_cases hrest : (splitRoot p).2 = []
  · -- a root by itself
    have hroot : (splitRoot p).1 ≠ .none := by
      intro hroot
      rw [hrest, hroot] at htext
      exact h.ne_nil htext.symm
    have hnil : collapse (splitRoot p).1 ([].splitOn separator) = [] := rfl
    rw [hrest, hnil, render, if_neg fun hnone => hroot hnone.1,
      List.intercalate_nil, ← hrest, htext]
  · rw [if_neg hrest] at hcollapsed
    rw [hcollapsed, render, if_neg fun hnil => List.splitOn_ne_nil _ _ hnil.2,
      List.intercalate_splitOn, htext]

theorem isNormal_iff_isCanonical : IsNormal p ↔ IsCanonical p :=
  ⟨IsNormal.isCanonical, IsCanonical.isNormal⟩

/-! ## Relative paths -/

theorem join_normalize (h : isRooted base = true) (hp : isRooted p = false) :
    join base [normalize p] = join base [p] := by
  have hsegments : ∀ s ∈ (normalizeSeparators p).splitOn separator,
      separator ∉ s :=
    fun s hs => separator_notMem_of_mem_splitOn hs
  have hcollapsed : IsCollapsed .none
      (collapse .none ((normalizeSeparators p).splitOn separator)) :=
    isCollapsed_collapse (backslash_notMem_normalizeSeparators p)
  apply eq_of_view_eq (isNormal_join _ _) (isNormal_join _ _)
    (isRooted_join h _) (isRooted_join h _)
  rw [view_join h, view_join h, normalizeSeparators_normalize,
    normalize_of_not_isRooted hp, ← collapse_append_collapse_none _ _ hsegments]
  by_cases hnil : collapse .none ((normalizeSeparators p).splitOn separator)
    = []
  · have hhere : (render .none []).splitOn separator = [here] := by decide
    rw [hnil, hhere, collapse_append_here_cons]
  · rw [render_none_of_ne_nil hnil,
      splitOn_intercalate_append hcollapsed.separator_notMem]

/-- However a path is spelled, its normal form is canonical, and a canonical
path is its own normal form; from every directory, a relative path leads where
its normal form leads. -/
theorem normalize_is_canonical (p : Path) :
    IsCanonical (normalize p) ∧ (IsCanonical p → normalize p = p) ∧
      normalize (normalize p) = normalize p ∧
      ∀ base, isRooted base = true → isRooted p = false →
        join base [p] = join base [normalize p] := by
  have hnormal : IsNormal (normalize p) := normalize_normalize p
  refine ⟨isNormal_iff_isCanonical.1 hnormal, isNormal_iff_isCanonical.2,
    hnormal, ?_⟩
  intro base hbase hp
  exact (join_normalize hbase hp).symm

/-- A relative path with a normal form that is spelled like a path on another
drive. -/
theorem normalize_is_canonical_driveName :
    let base : Path := "C:\\a/../b".toList
    let p : Path := "x\\..//D:/y/.".toList
    isRooted base = true ∧ isRooted p = false ∧ normalize p = "D:/y".toList ∧
      IsCanonical "D:/y".toList ∧ join base [p] = "C:/b/D:/y".toList ∧
      join base ["D:/y".toList] = "C:/b/D:/y".toList := by
  intro base p
  have hbase : isRooted base = true := by decide
  have hp : isRooted p = false := by decide
  have hnormal : normalize p = "D:/y".toList := by decide
  have hjoin : join base [p] = "C:/b/D:/y".toList := by decide
  rcases normalize_is_canonical p with ⟨hcanonical, -, -, hsame⟩
  have hrelative := hsame base hbase hp
  rw [hnormal] at hcanonical hrelative
  exact ⟨hbase, hp, hnormal, hcanonical, hjoin, hrelative.symm.trans hjoin⟩

/-! ## Fragments that are joined in steps -/

theorem isRooted_foldl_append (h : isRooted base = true)
    (fragments : List Path) :
    isRooted (fragments.foldl append base) = true := by
  induction fragments generalizing base with
  | nil => exact h
  | cons first rest ih => exact ih (isRooted_append_fragment h first)

theorem isRooted_join_fragments (h : isRooted base = true)
    (fragments : List Path) :
    isRooted (join base fragments) = true :=
  isRooted_normalize (isRooted_foldl_append h fragments)

theorem view_join_fragments (h : isRooted base = true) (fragments : List Path) :
    view (join base fragments) = ((view base).1,
      collapse (view base).1 ((view base).2
        ++ fragments.flatMap fun fragment =>
          (normalizeSeparators fragment).splitOn separator)) := by
  induction fragments generalizing base with
  | nil =>
      have hjoin : join base [] = normalize base := rfl
      rw [hjoin, view_normalize, List.flatMap_nil, List.append_nil,
        collapse_of_isPlain (isPlace_view h).isPlain]
  | cons first rest ih =>
      have hjoin : join base (first :: rest)
          = join (base.append first) rest := rfl
      have hfirst : view (base.append first) = view (join base [first]) :=
        (view_normalize _).symm
      have hsegments :
          ∀ s ∈ (view base).2 ++ (normalizeSeparators first).splitOn separator,
            separator ∉ s := by
        intro s hs
        rcases List.mem_append.1 hs with hs | hs
        · exact ((isPlace_view h).isPlain s hs).separator_notMem
        · exact separator_notMem_of_mem_splitOn hs
      rw [hjoin, ih (isRooted_append_fragment h first), hfirst, view_join h,
        collapse_append (isRooted_view h) hsegments, List.flatMap_cons,
        List.append_assoc]

theorem normalize_join (h : isRooted base = true) (fragments : List Path) :
    join (normalize base) fragments = join base fragments := by
  have hbase := isRooted_normalize h
  apply eq_of_view_eq (isNormal_join _ _) (isNormal_join _ _)
    (isRooted_join_fragments hbase _) (isRooted_join_fragments h _)
  rw [view_join_fragments hbase, view_join_fragments h, view_normalize]

theorem root_join (h : isRooted base = true) (fragments : List Path) :
    (splitRoot (join base fragments)).1
      = (splitRoot (normalizeSeparators base)).1 := by
  have hspelled : normalizeSeparators (join base fragments)
      = join base fragments :=
    normalizeSeparators_normalize _
  have hjoined := view_join_fragments h fragments
  rw [view_of_isRooted h,
    view_of_isRooted (isRooted_join_fragments h fragments), hspelled,
    Prod.mk.injEq] at hjoined
  exact hjoined.1

/-- Fragments of any spelling lead from a rooted path to the same place in one
step and in two, and never to another root. -/
theorem join_in_steps (h : isRooted base = true)
    (fragments others : List Path) :
    join (join base fragments) others = join base (fragments ++ others) ∧
      (splitRoot (join base (fragments ++ others))).1
        = (splitRoot (normalizeSeparators base)).1 := by
  refine ⟨?_, root_join h _⟩
  have hfirst : join (join base fragments) others
      = join (fragments.foldl append base) others :=
    normalize_join (isRooted_foldl_append h fragments) others
  rw [hfirst, join, join, List.foldl_append]

/-- The first step climbs above the root, and what follows names another
drive. -/
theorem join_in_steps_aboveRoot :
    let base : Path := "C:\\a".toList
    let fragments : List Path := ["..\\..".toList, [], "/b/".toList]
    let others : List Path := ["D:/c".toList, "../..".toList, "e".toList]
    isRooted base = true ∧ join base fragments = "C:/b".toList ∧
      join "C:/b".toList others = "C:/b/e".toList ∧
      join base (fragments ++ others) = "C:/b/e".toList := by
  intro base fragments others
  have hbase : isRooted base = true := by decide
  have hfirst : join base fragments = "C:/b".toList := by decide
  have hsecond : join "C:/b".toList others = "C:/b/e".toList := by decide
  have hsteps := (join_in_steps hbase fragments others).1
  rw [hfirst, hsecond] at hsteps
  exact ⟨hbase, hfirst, hsecond, hsteps.symm⟩

end Path
end BuildHost
