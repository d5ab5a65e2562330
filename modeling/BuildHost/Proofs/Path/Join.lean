import BuildHost.Proofs.Path.View

/-!
# Joining and going up

A fragment that is joined to a rooted path is walked along from where the path
ends (`view_join`).  Plain segments are entered, and climbs at the start of a
fragment leave as many segments of the path, as far as there are any
(`collapse_append_climbs`).  The directory of a path is read without its last
segment (`view_dirname`).
-/

namespace BuildHost
namespace Path

/-! ## Walks that are continued -/

theorem collapse_append {root : Root} (hr : root.isRooted = true)
    {before : List Path} (h : ∀ s ∈ before, separator ∉ s) (after : List Path) :
    collapse root (collapse root before ++ after)
      = collapse root (before ++ after) := by
  have hcollapse : ∃ n entered,
      collapse root before = List.replicate n up ++ entered ∧
      (∀ s ∈ entered, IsEntered s) ∧ (root.isRooted = true → n = 0) :=
    exists_collapse_eq h
  rcases hcollapse with ⟨n, entered, heq, hentered, hn⟩
  obtain rfl := hn hr
  have hwalk : before.foldl (step root) [] = entered.reverse := by
    have := congrArg List.reverse heq
    simpa [collapse] using this
  rw [heq]
  simp [collapse, List.foldl_append, foldl_step_of_isEntered hentered, hwalk]

theorem collapse_append_nil_cons (root : Root) (before after : List Path) :
    collapse root (before ++ [] :: after)
      = collapse root (before ++ after) := by
  simp [collapse, step]

theorem collapse_append_here_cons (root : Root) (before after : List Path) :
    collapse root (before ++ here :: after)
      = collapse root (before ++ after) := by
  simp [collapse, step]

theorem collapse_of_isPlain {root : Root} {segments : List Path}
    (h : ∀ s ∈ segments, IsPlain s) : collapse root segments = segments :=
  collapse_entered fun s hs => (h s hs).toIsEntered

theorem step_up_of_isEntered {root : Root} {visited : List Path} {s : Path}
    (h : IsEntered s) : step root (s :: visited) up = visited := by
  simp [step, show up ≠ [] by decide, show up ≠ here by decide, h.ne_up]

theorem foldl_step_up {root : Root} (hr : root.isRooted = true)
    {visited : List Path} (h : ∀ s ∈ visited, IsEntered s) (n : Nat) :
    (List.replicate n up).foldl (step root) visited = visited.drop n := by
  induction n generalizing visited with
  | zero => rfl
  | succ n ih =>
      rw [List.replicate_succ, List.foldl_cons]
      cases visited with
      | nil =>
          have hstep : step root [] up = [] := by
            simp [step, hr, show up ≠ [] by decide, show up ≠ here by decide]
          rw [hstep, ih (by simp)]
          simp
      | cons s rest =>
          rw [step_up_of_isEntered (h s (by simp)),
            ih (fun t ht => h t (List.mem_cons_of_mem s ht)),
            List.drop_succ_cons]

/-- Climbs leave the last segments, and what follows them is entered. -/
theorem collapse_append_climbs {root : Root} (hr : root.isRooted = true)
    {before after : List Path} (hbefore : ∀ s ∈ before, IsPlain s)
    (hafter : ∀ s ∈ after, IsPlain s) (n : Nat) :
    collapse root (before ++ (List.replicate n up ++ after))
      = before.take (before.length - n) ++ after := by
  have hentered : ∀ s ∈ before.reverse, IsEntered s :=
    fun s hs => (hbefore s (List.mem_reverse.1 hs)).toIsEntered
  rw [collapse, List.foldl_append, List.foldl_append,
    foldl_step_of_isEntered fun s hs => (hbefore s hs).toIsEntered,
    List.append_nil, foldl_step_up hr hentered,
    foldl_step_of_isEntered fun s hs => (hafter s hs).toIsEntered,
    List.reverse_append, List.reverse_reverse, List.drop_reverse,
    List.reverse_reverse]

/-- How a last segment of any spelling changes the number of segments. -/
theorem length_collapse_concat {root : Root} (hr : root.isRooted = true)
    {before : List Path} (hbefore : ∀ s ∈ before, IsPlain s) (s : Path) :
    (collapse root (before ++ [s])).length
      = if s = [] ∨ s = here then before.length
        else if s = up then before.length - 1 else before.length + 1 := by
  have hwalk : collapse root (before ++ [s])
      = (step root before.reverse s).reverse := by
    rw [collapse, List.foldl_append,
      foldl_step_of_isEntered fun t ht => (hbefore t ht).toIsEntered]
    simp
  have hlength : before.length = before.reverse.length :=
    List.length_reverse.symm
  rw [hwalk, List.length_reverse, hlength]
  have hentered : ∀ t ∈ before.reverse, IsEntered t :=
    fun t ht => (hbefore t (List.mem_reverse.1 ht)).toIsEntered
  generalize before.reverse = visited at hentered
  unfold step
  split
  · rfl
  · split
    next hup =>
      subst hup
      cases visited with
      | nil => simp
      | cons last rest => simp [(hentered last (by simp)).ne_up]
    next => rfl

/-! ## Joining -/

theorem normalizeSeparators_append (p q : Path) :
    normalizeSeparators (p ++ q)
      = normalizeSeparators p ++ normalizeSeparators q :=
  List.map_append

theorem normalizeSeparators_separator_cons (p : Path) :
    normalizeSeparators (separator :: p) = separator :: normalizeSeparators p :=
  rfl

theorem splitRoot_append {p : Path} (h : (splitRoot p).1.isRooted = true)
    (q : Path) :
    splitRoot (p ++ q) = ((splitRoot p).1, (splitRoot p).2 ++ q) := by
  have hp := splitRoot_text_append p
  rw [← hp, List.append_assoc, splitRoot_text (isReadable_splitRoot p) h, hp]

theorem isRooted_append {p : Path} (h : isRooted p = true) (q : Path) :
    isRooted (p ++ q) = true := by
  rw [isRooted, normalizeSeparators_append, splitRoot_append h]
  exact h

theorem view_append_separator {p : Path} (h : isRooted p = true) (q : Path) :
    view (p ++ separator :: q) = ((view p).1,
      collapse (view p).1
        ((view p).2 ++ (normalizeSeparators q).splitOn separator)) := by
  rw [view_of_isRooted h, view_of_isRooted (isRooted_append h _),
    normalizeSeparators_append, splitRoot_append h,
    normalizeSeparators_separator_cons, List.splitOn_append_cons_self,
    collapse_append h fun s hs => separator_notMem_of_mem_splitOn hs]

theorem collapse_splitOn_separator_cons (root : Root) (q : Path) :
    collapse root ((separator :: q).splitOn separator)
      = collapse root (q.splitOn separator) := by
  rw [List.splitOn_cons_eq_if_modifyHead, if_pos (by simp)]
  exact collapse_append_nil_cons root [] _

theorem collapse_splitOn_append_of_getLast (root : Root) {p : Path}
    (h : p.getLast? = some separator) (q : Path) :
    collapse root ((p ++ q).splitOn separator)
      = collapse root ((p ++ separator :: q).splitOn separator) := by
  rcases List.getLast?_eq_some_iff.1 h with ⟨front, rfl⟩
  rw [List.append_assoc, List.append_assoc, List.singleton_append,
    List.singleton_append, List.splitOn_append_cons_self,
    List.splitOn_append_cons_self, List.splitOn_cons_eq_if_modifyHead separator,
    if_pos (by simp), collapse_append_nil_cons]

/-- A path that ends in a separator already is continued without another one. -/
theorem view_append_of_getLast {p : Path} (h : isRooted p = true)
    (hlast : p.getLast? = some separator) (q : Path) :
    view (p ++ q) = view (p ++ separator :: q) := by
  have htext := splitRoot_text_append (normalizeSeparators p)
  have hlast' : (normalizeSeparators p).getLast? = some separator := by
    rw [normalizeSeparators, List.getLast?_map, hlast]
    rfl
  rw [view_of_isRooted (isRooted_append h _),
    view_of_isRooted (isRooted_append h _), normalizeSeparators_append,
    normalizeSeparators_append, splitRoot_append h, splitRoot_append h,
    normalizeSeparators_separator_cons]
  simp only [Prod.mk.injEq, true_and]
  cases hrest : (splitRoot (normalizeSeparators p)).2 with
  | nil => exact (collapse_splitOn_separator_cons _ _).symm
  | cons c rest =>
      refine collapse_splitOn_append_of_getLast _ ?_ _
      rw [← htext, hrest, List.getLast?_append] at hlast'
      simpa [List.getLast?_cons] using hlast'

/-- What is joined to a rooted path is walked along from where the path ends. -/
theorem view_join {base : Path} (h : isRooted base = true) (fragment : Path) :
    view (join base [fragment]) = ((view base).1,
      collapse (view base).1
        ((view base).2 ++ (normalizeSeparators fragment).splitOn
          separator)) := by
  rw [join, view_normalize, List.foldl_cons, List.foldl_nil, append,
    ← view_append_separator h]
  split
  next hnil =>
    subst hnil
    rw [view_append_separator h, normalizeSeparators, List.map_nil,
      List.splitOn_nil, collapse_append_nil_cons, List.append_nil,
      collapse_of_isPlain (isPlace_view h).isPlain]
  next =>
    split
    next hend =>
      rcases hend with rfl | hend
      · simp [isRooted, normalizeSeparators, splitRoot, Root.isRooted] at h
      · exact view_append_of_getLast h hend fragment
    next => rfl

theorem isNormal_join (base : Path) (fragments : List Path) :
    IsNormal (join base fragments) :=
  normalize_normalize _

theorem isRooted_append_fragment {base : Path} (h : isRooted base = true)
    (fragment : Path) :
    isRooted (base.append fragment) = true := by
  rw [append]
  split
  · exact h
  · split
    · exact isRooted_append h _
    · exact isRooted_append h _

theorem isRooted_join {base : Path} (h : isRooted base = true)
    (fragment : Path) :
    isRooted (join base [fragment]) = true :=
  isRooted_normalize (isRooted_append_fragment h fragment)

theorem isNormal_readFrom (dir p : Path) : IsNormal (readFrom dir p) := by
  rw [readFrom]
  split
  · exact normalize_normalize p
  · exact isNormal_join _ _

theorem isRooted_readFrom {dir : Path} (h : isRooted dir = true) (p : Path) :
    isRooted (readFrom dir p) = true := by
  rw [readFrom]
  split
  next hp => exact isRooted_normalize hp
  next => exact isRooted_join h p

theorem splitOn_intercalate_append {root : Root} {before after : List Path}
    (h : ∀ s ∈ after, separator ∉ s) :
    collapse root (before ++ ([separator].intercalate after).splitOn separator)
      = collapse root (before ++ after) := by
  by_cases hne : after = []
  · subst hne
    exact collapse_append_nil_cons root before []
  · rw [List.splitOn_intercalate separator h hne]

theorem backslash_notMem_intercalate {segments : List Path}
    (h : ∀ s ∈ segments, '\\' ∉ s) :
    '\\' ∉ [separator].intercalate segments := by
  intro hmem
  rcases mem_of_mem_intercalate hmem with hsep | ⟨s, hs, hc⟩
  · cases hsep
  · exact h s hs hc

theorem notMem_climbs {c : Char} {after : List Path} (hc : c ≠ '.')
    (h : ∀ s ∈ after, c ∉ s) (n : Nat) :
    ∀ s ∈ List.replicate n up ++ after, c ∉ s := by
  intro s hs
  rcases List.mem_append.1 hs with hs | hs
  · rw [List.eq_of_mem_replicate hs]
    simp [up, hc]
  · exact h s hs

/-- Where one gets by climbing and then entering plain segments. -/
theorem view_join_climbs {base : Path} (h : isRooted base = true) (n : Nat)
    {after : List Path} (hafter : ∀ s ∈ after, IsPlain s) :
    view (join base [[separator].intercalate (List.replicate n up ++ after)])
      = ((view base).1,
        (view base).2.take ((view base).2.length - n) ++ after) := by
  have hback := backslash_notMem_intercalate
    (notMem_climbs (by decide) (fun s hs => (hafter s hs).backslash_notMem) n)
  rw [view_join h, normalizeSeparators_eq_self hback,
    splitOn_intercalate_append
      (notMem_climbs (by decide) (separator_notMem_of_isPlain hafter) n),
    collapse_append_climbs (isRooted_view h) (isPlace_view h).isPlain hafter]

theorem view_join_intercalate {base : Path} (h : isRooted base = true)
    {after : List Path} (hafter : ∀ s ∈ after, IsPlain s) :
    view (join base [[separator].intercalate after])
      = ((view base).1, (view base).2 ++ after) := by
  simpa using view_join_climbs h 0 hafter

theorem view_join_of_isPlain {base name : Path} (h : isRooted base = true)
    (hname : IsPlain name) :
    view (join base [name]) = ((view base).1, (view base).2 ++ [name]) := by
  have hplain : ∀ s ∈ [name], IsPlain s := by
    intro s hs
    exact List.mem_singleton.1 hs ▸ hname
  have hview := view_join_intercalate h hplain
  rw [List.intercalate_singleton] at hview
  exact hview

/-! ## Fragments that are joined one after the other -/

theorem exists_append_eq (base : Path) {fragment : Path} (hne : fragment ≠ []) :
    ∃ start, ∀ more, base.append (fragment ++ more)
      = start ++ (fragment ++ more) := by
  by_cases hbase : base = [] ∨ base.getLast? = some separator
  · refine ⟨base, fun more => ?_⟩
    rw [append, if_neg (by simp [hne]), if_pos hbase]
  · refine ⟨base ++ [separator], fun more => ?_⟩
    rw [append, if_neg (by simp [hne]), if_neg hbase]
    simp

/-- Two fragments are joined like one, with the separator between them. -/
theorem append_append (base : Path) {first second : Path} (hfirst : first ≠ [])
    (hlast : first.getLast? ≠ some separator) (hsecond : second ≠ []) :
    (base.append first).append second
      = base.append (first ++ separator :: second) := by
  rcases exists_append_eq base hfirst with ⟨start, hstart⟩
  have hbase : base.append first = start ++ first := by
    simpa using hstart []
  have hcontinued : ¬ (start ++ first = [] ∨
      (start ++ first).getLast? = some separator) := by
    rintro (hnil | hend)
    · exact hfirst (List.append_eq_nil_iff.1 hnil).2
    · rw [List.getLast?_append] at hend
      rcases Option.or_eq_some_iff.1 hend with hend | ⟨hnil, -⟩
      · exact hlast hend
      · exact hfirst (List.getLast?_eq_none_iff.1 hnil)
  rw [hbase, hstart, append, if_neg hsecond, if_neg hcontinued,
    List.append_assoc]

theorem view_join_separator_cons {base : Path} (h : isRooted base = true)
    (q : Path) :
    view (join base [separator :: q]) = view (join base [q]) := by
  have hsplit : separator :: normalizeSeparators q
      = [] ++ separator :: normalizeSeparators q := rfl
  rw [view_join h, view_join h, normalizeSeparators_separator_cons, hsplit,
    List.splitOn_append_cons_self, List.splitOn_nil, List.singleton_append,
    collapse_append_nil_cons]

/-! ## Segments in a row -/

theorem intercalate_append {before after : List Path} (hbefore : before ≠ [])
    (hafter : after ≠ []) : [separator].intercalate (before ++ after)
      = [separator].intercalate before ++ separator
        :: [separator].intercalate after := by
  induction before with
  | nil => exact absurd rfl hbefore
  | cons first rest ih =>
      cases rest with
      | nil => simp [List.intercalate_cons_of_ne_nil hafter]
      | cons second others =>
          rw [List.cons_append, List.cons_append, intercalate_cons_cons,
            intercalate_cons_cons, ← List.cons_append, ih (by simp)]
          simp

theorem render_append {root : Root} (hr : root.isRooted = true)
    {before after : List Path} (hbefore : before ≠ []) (hafter : after ≠ []) :
    render root (before ++ after)
      = render root before ++ separator :: [separator].intercalate after := by
  rw [render_of_isRooted hr, render_of_isRooted hr,
    intercalate_append hbefore hafter, List.append_assoc]

end Path
end BuildHost
