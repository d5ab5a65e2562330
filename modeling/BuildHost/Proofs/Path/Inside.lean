import BuildHost.Proofs.Path.Containment
import BuildHost.Proofs.Path.Dirname

/-!
# Relative paths that stay inside

A relative path in normal form is its segments with separators between them, the
climbs first.  A walk never takes a climb back, so that a specifier which leads
from a file to a place inside a directory is followed in the same way wherever
the directory lies (`exists_inside_of_join_dirname`,
`view_join_dirname_inside`).  Of two directories with one path inside both, one
lies within the other (`isWithin_or_isWithin`).
-/

namespace BuildHost
namespace Path

/-! ## Climbs are kept -/

theorem up_mem_step {visited : List Path} (h : up ∈ visited) (s : Path) :
    up ∈ step .none visited s := by
  unfold step
  split
  · exact h
  · split
    · cases visited with
      | nil => cases h
      | cons last before =>
          by_cases hlast : last = up
          · simp [hlast, Root.isRooted]
          · dsimp only
            rw [if_pos hlast]
            exact (List.mem_cons.1 h).resolve_left (Ne.symm hlast)
    · exact List.mem_cons_of_mem s h

theorem up_mem_foldl_step {visited : List Path} (h : up ∈ visited)
    (segments : List Path) :
    up ∈ segments.foldl (step .none) visited := by
  induction segments generalizing visited with
  | nil => exact h
  | cons s rest ih => exact ih (up_mem_step h s)

theorem step_append {root : Root} {visited : List Path} {s : Path}
    (h : up ∉ step .none visited s) (before : List Path) :
    step root (visited ++ before) s = step .none visited s ++ before := by
  unfold step at h ⊢
  by_cases hstay : s = [] ∨ s = here
  · rw [if_pos hstay, if_pos hstay]
  · rw [if_neg hstay] at h ⊢
    rw [if_neg hstay]
    by_cases hup : s = up
    · rw [if_pos hup] at h ⊢
      rw [if_pos hup]
      cases visited with
      | nil => simp [Root.isRooted] at h
      | cons last earlier =>
          by_cases hlast : last = up
          · simp [hlast, Root.isRooted] at h
          · simp [hlast]
    · rw [if_neg hup, if_neg hup, List.cons_append]

/-- A walk that does not climb above its start goes the same way below any other
place. -/
theorem foldl_step_append {root : Root} {segments visited : List Path}
    (h : up ∉ segments.foldl (step .none) visited) (before : List Path) :
    segments.foldl (step root) (visited ++ before)
      = segments.foldl (step .none) visited ++ before := by
  induction segments generalizing visited with
  | nil => rfl
  | cons s rest ih =>
      have hstep : up ∉ step .none visited s := by
        intro hmem
        exact h (up_mem_foldl_step hmem rest)
      rw [List.foldl_cons, step_append hstep before, ih h]
      rfl

theorem collapse_append_inside {root : Root} {front segments : List Path}
    (hfront : ∀ s ∈ front, IsPlain s)
    (h : up ∉ collapse .none (front ++ segments)) {before : List Path}
    (hbefore : ∀ s ∈ before, IsPlain s) :
    collapse root (before ++ (front ++ segments))
      = before ++ collapse .none (front ++ segments) := by
  have hstart : (before ++ front).foldl (step root) []
      = front.reverse ++ before.reverse := by
    have hentered : ∀ s ∈ before ++ front, IsEntered s := by
      intro s hs
      cases List.mem_append.1 hs with
      | inl hmem => exact (hbefore s hmem).toIsEntered
      | inr hmem => exact (hfront s hmem).toIsEntered
    rw [foldl_step_of_isEntered hentered, List.append_nil, List.reverse_append]
  have hinside : front.foldl (step .none) [] = front.reverse := by
    rw [foldl_step_of_isEntered fun s hs => (hfront s hs).toIsEntered,
      List.append_nil]
  have hwalk : (front ++ segments).foldl (step .none) []
      = segments.foldl (step .none) front.reverse := by
    rw [List.foldl_append, hinside]
  rw [collapse, hwalk, List.mem_reverse] at h
  rw [collapse, collapse, ← List.append_assoc, List.foldl_append, hstart, hwalk,
    foldl_step_append h, List.reverse_append, List.reverse_reverse]

/-! ## Relative paths in normal form -/

theorem normalize_of_not_isRooted {p : Path} (h : isRooted p = false) :
    normalize p
      = render .none (collapse .none
        ((normalizeSeparators p).splitOn separator)) := by
  have hroot : (splitRoot (normalizeSeparators p)).1 = .none := Root.eq_none h
  have htext := splitRoot_text_append (normalizeSeparators p)
  rw [hroot] at htext
  have hrest : (splitRoot (normalizeSeparators p)).2
      = normalizeSeparators p := htext
  rw [normalize]
  simp only [hroot, hrest]

theorem render_none_of_ne_nil {segments : List Path} (h : segments ≠ []) :
    render .none segments = [separator].intercalate segments := by
  rw [render, if_neg (by simp [h])]
  rfl

theorem isRooted_of_staysInside {p : Path} (h : staysInside p = true) :
    isRooted p = false := by
  rw [staysInside, Bool.and_eq_true, Bool.and_eq_true] at h
  exact Bool.not_eq_true' _ ▸ h.1.1

theorem isPlain_of_staysInside {segments : List Path}
    (h : IsCollapsed .none segments)
    (hinside : staysInside (render .none segments) = true) :
    (∀ s ∈ segments, IsPlain s) ∧ spellsDrive segments = false := by
  rcases h.climbs with ⟨n, entered, hsegments, hentered, -⟩
  cases n with
  | succ n =>
      rw [hsegments, render_none_of_ne_nil (by simp),
        staysInside_climbs] at hinside
      cases hinside
  | zero =>
      have hplain : ∀ s ∈ segments, IsPlain s := by
        intro s hs
        have hmem : s ∈ entered := by
          rw [hsegments] at hs
          exact hs
        exact ⟨hentered s hmem, h.backslash_notMem s hs⟩
      refine ⟨hplain, ?_⟩
      by_cases hne : segments = []
      · rw [hne]
        rfl
      · rw [render_none_of_ne_nil hne, staysInside_intercalate hplain]
          at hinside
        exact Bool.not_eq_true' _ ▸ hinside

theorem up_notMem_of_isPlain {segments : List Path}
    (h : ∀ s ∈ segments, IsPlain s) :
    up ∉ segments :=
  fun hmem => (h up hmem).ne_up rfl

/-! ## Specifiers that are followed from a relative path -/

/-- The segments of the place to which a path leads from a relative folder. -/
def reachedFrom (folder : List Path) (p : Path) : List Path :=
  collapse .none (folder ++ (normalizeSeparators p).splitOn separator)

section Dirname

variable {front : List Path} {last s : Path}

theorem dirname_of_separator_notMem (hne : last ≠ []) (hsep : separator ∉ last)
    (hback : '\\' ∉ last) : dirname last = here := by
  rw [dirname, normalizeSeparators_eq_self hback]
  simp only [dropTrailing_eq_self hsep, cutLast?_eq_none hsep]
  rw [if_neg hne]

theorem collapse_append_dirname (h : IsCollapsed .none (front ++ [last]))
    (hs : s ≠ []) :
    collapse .none ((normalizeSeparators
        (append (dirname (render .none (front ++ [last]))) s)).splitOn
          separator)
      = reachedFrom front s := by
  have hlast : last ≠ [] ∧ separator ∉ last ∧ '\\' ∉ last :=
    ⟨h.ne_nil last (by simp), h.separator_notMem last (by simp),
      h.backslash_notMem last (by simp)⟩
  rw [render_none_of_ne_nil (by simp)]
  by_cases hne : front = []
  · subst hne
    have hhere : (normalizeSeparators here).splitOn separator
        = [here] := by decide
    rw [List.nil_append, List.intercalate_singleton,
      dirname_of_separator_notMem hlast.1 hlast.2.1 hlast.2.2, append,
      if_neg hs, if_neg (by decide), normalizeSeparators_append,
      normalizeSeparators_separator_cons, List.splitOn_append_cons_self, hhere]
    exact collapse_append_here_cons .none [] _
  · have hfront : ∀ t ∈ front, t ≠ [] ∧ separator ∉ t := by
      intro t ht
      exact ⟨h.ne_nil t (List.mem_append_left _ ht),
        h.separator_notMem t (List.mem_append_left _ ht)⟩
    have hback := backslash_notMem_intercalate h.backslash_notMem
    have hbefore := backslash_notMem_intercalate fun t ht =>
      h.backslash_notMem t (List.mem_append_left [last] ht)
    rw [intercalate_append hne (by simp), List.intercalate_singleton] at hback ⊢
    rw [append_dirname (getLast?_intercalate_ne hne hfront).2 hback hlast.1
      hlast.2.1 hs, normalizeSeparators_append,
      normalizeSeparators_separator_cons, normalizeSeparators_eq_self hbefore,
      List.splitOn_append_cons_self,
      List.splitOn_intercalate separator (fun t ht => (hfront t ht).2) hne]
    rfl

theorem join_dirname_eq_render (h : IsCollapsed .none (front ++ [last]))
    (hs : s ≠ [])
    (hinside : staysInside (join (dirname (render .none (front ++ [last]))) [s])
      = true) :
    join (dirname (render .none (front ++ [last]))) [s]
      = render .none (reachedFrom front s) ∧
      IsCollapsed .none (reachedFrom front s) := by
  have htext : isRooted (append (dirname (render .none (front ++ [last]))) s)
      = false := by
    rw [Bool.eq_false_iff]
    intro hr
    have hrooted := isRooted_normalize hr
    rw [join, List.foldl_cons, List.foldl_nil] at hinside
    rw [isRooted_of_staysInside hinside] at hrooted
    cases hrooted
  rw [← collapse_append_dirname h hs]
  constructor
  · exact normalize_of_not_isRooted htext
  · exact isCollapsed_collapse (backslash_notMem_normalizeSeparators _)

/-- A climb at the start is never taken back, so that from a path with one a
specifier leads to no plain segments. -/
theorem isPlain_of_isPlain_reachedFrom (h : IsCollapsed .none (front ++ [last]))
    (hup : front ++ [last] ≠ [up])
    (hinner : ∀ t ∈ reachedFrom front s, IsPlain t) :
    ∀ t ∈ front ++ [last], IsPlain t := by
  rcases h.climbs with ⟨n, entered, hsegments, hentered, -⟩
  cases n with
  | zero =>
      intro t ht
      have hmem : t ∈ entered := by
        rw [hsegments] at ht
        exact ht
      exact ⟨hentered t hmem, h.backslash_notMem t ht⟩
  | succ n =>
      rw [List.replicate_succ, List.cons_append] at hsegments
      cases front with
      | nil =>
          exact absurd (congrArg (fun s => [s]) (List.cons.inj hsegments).1) hup
      | cons first rest =>
          rw [(List.cons.inj hsegments).1] at hinner
          have hclimb : up ∈ reachedFrom (up :: rest) s := by
            rw [reachedFrom, collapse, List.mem_reverse, List.cons_append,
              List.foldl_cons]
            exact up_mem_foldl_step (by decide) _
          exact absurd hclimb (up_notMem_of_isPlain hinner)

theorem exists_inside_of_join_dirname {c : Path} (hc : IsNormal c)
    (hcr : isRooted c = false) (hhere : c ≠ here) (hup : c ≠ up) (hs : s ≠ [])
    (h : staysInside (join c.dirname [s]) = true) :
    ∃ front last, c = [separator].intercalate (front ++ [last]) ∧
      (∀ t ∈ front ++ [last], IsPlain t) ∧
      join c.dirname [s] = render .none (reachedFrom front s) ∧
      (∀ t ∈ reachedFrom front s, IsPlain t) ∧
      spellsDrive (reachedFrom front s) = false := by
  have htext : c
      = render .none (collapse .none
        ((normalizeSeparators c).splitOn separator)) :=
    hc.symm.trans (normalize_of_not_isRooted hcr)
  have hcollapsed : IsCollapsed .none
      (collapse .none ((normalizeSeparators c).splitOn separator)) :=
    isCollapsed_collapse (backslash_notMem_normalizeSeparators c)
  rcases List.eq_nil_or_concat
    (collapse .none ((normalizeSeparators c).splitOn separator)) with
    hnil | ⟨front, last, hconcat⟩
  · rw [hnil] at htext
    exact absurd htext hhere
  rw [List.concat_eq_append] at hconcat
  rw [hconcat] at htext hcollapsed
  rw [htext] at h ⊢
  have hjoin := join_dirname_eq_render hcollapsed hs h
  rw [hjoin.1] at h
  have hinner := isPlain_of_staysInside hjoin.2 h
  refine ⟨front, last, render_none_of_ne_nil (by simp), ?_, hjoin.1, hinner⟩
  refine isPlain_of_isPlain_reachedFrom hcollapsed ?_ hinner.1
  intro heq
  rw [heq] at htext
  exact absurd htext hup

/-- The same specifier, followed from the same path below a directory. -/
theorem view_join_dirname_inside {dir : Path} (hdir : isRooted dir = true)
    (h : ∀ t ∈ front ++ [last], IsPlain t)
    (hinner : ∀ t ∈ reachedFrom front s, IsPlain t) :
    isRooted (dirname (join dir [[separator].intercalate (front ++ [last])]))
      = true ∧
    view
      (join (dirname (join dir [[separator].intercalate (front ++ [last])]))
        [s])
      = ((view dir).1, (view dir).2 ++ reachedFrom front s) := by
  have hfile := view_join_intercalate hdir h
  have hfolder := view_dirname (isNormal_join dir _) (isRooted_join hdir _)
    (by rw [hfile]; simp)
  have hview : view
      (dirname (join dir [[separator].intercalate (front ++ [last])]))
      = ((view dir).1, (view dir).2 ++ front) := by
    rw [hfolder.2, hfile, ← List.append_assoc, List.dropLast_concat]
  have hfront : ∀ t ∈ front, IsPlain t := by
    intro t ht
    exact h t (List.mem_append_left _ ht)
  refine ⟨hfolder.1, ?_⟩
  unfold reachedFrom at hinner ⊢
  rw [view_join hfolder.1, hview, List.append_assoc,
    collapse_append_inside hfront (up_notMem_of_isPlain hinner)
      (isPlace_view hdir).isPlain]

end Dirname

/-! ## Places inside of several directories -/

theorem spellsDrive_append {segments : List Path}
    (h : spellsDrive segments = true) (after : List Path) :
    spellsDrive (segments ++ after) = true := by
  cases segments with
  | nil => cases h
  | cons first rest =>
      cases rest with
      | nil => exact absurd (two_le_length_of_spellsDrive h) (by simp)
      | cons second others =>
          exact spellsDrive_cons_cons_iff.2 (spellsDrive_cons_cons_iff.1 h)

theorem isWithin_or_isWithin {dir other p : Path} {inner : List Path}
    (hdir : isRooted dir = true) (hother : isRooted other = true)
    (hp : isRooted p = true)
    (hview : view p = ((view dir).1, (view dir).2 ++ inner))
    (hinner : spellsDrive inner = false) (h : other.isWithin p = true) :
    other.isWithin dir = true ∨ dir.isWithin other = true := by
  rcases (isWithin_iff hp).1 h with ⟨rest, hrest, hspells⟩
  rw [hview, Prod.mk.injEq] at hrest
  rcases List.append_eq_append_iff.1 hrest.2 with
    ⟨more, hdirs, hinners⟩ | ⟨more, hdirs, hinners⟩
  · right
    refine (isWithin_iff hother).2 ⟨more, ?_, ?_⟩
    · rw [hrest.1, ← hdirs]
    · rw [Bool.eq_false_iff]
      intro hmore
      rw [hinners, spellsDrive_append hmore] at hinner
      cases hinner
  · left
    refine (isWithin_iff hdir).2 ⟨more, ?_, ?_⟩
    · rw [← hrest.1, ← hdirs]
    · rw [Bool.eq_false_iff]
      intro hmore
      rw [hinners, spellsDrive_append hmore] at hspells
      cases hspells

theorem view_join_render {dir : Path} (hdir : isRooted dir = true)
    {inner : List Path} (hinner : ∀ t ∈ inner, IsPlain t) :
    view (join dir [render .none inner])
      = ((view dir).1, (view dir).2 ++ inner) := by
  by_cases hne : inner = []
  · subst hne
    have hhere : (normalizeSeparators here).splitOn separator
        = [here] := by decide
    show view (join dir [here]) = _
    rw [view_join hdir, hhere, collapse_append_here_cons, List.append_nil,
      collapse_of_isPlain (isPlace_view hdir).isPlain]
  · rw [render_none_of_ne_nil hne]
    exact view_join_intercalate hdir hinner

end Path
end BuildHost
