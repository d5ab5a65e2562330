import BuildHost.Layout
import BuildHost.Proofs.Path.Containment

/-!
# Where generated files go

Whatever path a file is given by, its counterpart lies in the directory of
generated files, below which it keeps the segments that the place of sources
picked for it does not share with it (`view_emitPath`).  A file that its place
contains can be read back from them (`emitPath_mirrors_sourceRoot`).
-/

namespace BuildHost
namespace Layout

open BuildHost.Path

/-! ## Climbs are dropped -/

theorem withoutClimbs_up_separator (p : Path) :
    withoutClimbs (up ++ separator :: p) = withoutClimbs p :=
  rfl

theorem withoutClimbs_of_not_prefix {p : Path} (h : ¬ up ++ [separator] <+: p)
    (hne : p ≠ up) :
    withoutClimbs p = p := by
  unfold withoutClimbs
  split
  next rest => exact absurd ⟨rest, rfl⟩ h
  next => exact if_neg hne

theorem withoutClimbs_intercalate {after : List Path}
    (h : ∀ s ∈ after, IsPlain s) :
    withoutClimbs ([separator].intercalate after)
      = [separator].intercalate after :=
  withoutClimbs_of_not_prefix (not_up_prefix_intercalate h)
    (intercalate_ne_up h)

theorem withoutClimbs_climbs (n : Nat) {after : List Path}
    (h : ∀ s ∈ after, IsPlain s) :
    withoutClimbs ([separator].intercalate (List.replicate n up ++ after))
      = [separator].intercalate after := by
  induction n with
  | zero => exact withoutClimbs_intercalate h
  | succ n ih =>
      rw [List.replicate_succ, List.cons_append]
      cases hrest : List.replicate n up ++ after with
      | nil =>
          rcases List.append_eq_nil_iff.1 hrest with ⟨-, rfl⟩
          rfl
      | cons second others =>
          rw [intercalate_cons_cons, withoutClimbs_up_separator, ← hrest, ih]

/-! ## Places of sources -/

theorem isNormal_absolute (layout : Layout) (p : Path) :
    IsNormal (layout.absolute p) :=
  isNormal_readFrom _ p

theorem isRooted_absolute (layout : Layout) (p : Path) :
    Path.isRooted (layout.absolute p) = true :=
  isRooted_readFrom layout.basePath.isRooted_path p

theorem absolute_of_isNormal (layout : Layout) {p : Path} (hp : IsNormal p)
    (hr : Path.isRooted p = true) : layout.absolute p = p := by
  rw [absolute, readFrom, if_pos hr, hp]

/-- The place of sources is the last of the root directories whose test the path
passes; behind it in the list are those whose test it does not pass. -/
theorem sourceRoot_cases (layout : Layout) (p : Path) :
    (∃ before dir after, layout.rootDirs = before ++ dir :: after ∧
        dir.path.isWithin p = true ∧
        (∀ other ∈ after, other.path.isWithin p = false) ∧
        layout.sourceRoot p = dir.path) ∨
      (∀ dir ∈ layout.rootDirs, dir.path.isWithin p = false) ∧
        layout.sourceRoot p = layout.basePath.path := by
  unfold sourceRoot
  split
  next dir hlast =>
    left
    rcases List.getLast?_eq_some_iff.1 hlast with ⟨front, hfilter⟩
    rcases List.filter_eq_append_iff.1 hfilter with
      ⟨before, rest, hroots, -, hrest⟩
    rcases List.filter_eq_cons_iff.1 hrest with
      ⟨others, after, rfl, -, hwithin, hafter⟩
    rw [← List.append_assoc] at hroots
    rw [List.filter_eq_nil_iff] at hafter
    exact ⟨before ++ others, dir, after, hroots, hwithin,
      fun other hother => Bool.eq_false_iff.2 (hafter other hother), rfl⟩
  next hnone =>
    right
    rw [List.getLast?_eq_none_iff, List.filter_eq_nil_iff] at hnone
    exact ⟨fun dir hdir => Bool.eq_false_iff.2 (hnone dir hdir), rfl⟩

theorem exists_sourceRoot_eq (layout : Layout) (p : Path) :
    ∃ dir : Directory, layout.sourceRoot p = dir.path := by
  rcases layout.sourceRoot_cases p with ⟨_, dir, _, _, _, _, h⟩ | ⟨_, h⟩
  · exact ⟨dir, h⟩
  · exact ⟨layout.basePath, h⟩

theorem sourceRoot_eq_basePath (layout : Layout) {p : Path}
    (h : ∀ dir ∈ layout.rootDirs, dir.path.isWithin p = false) :
    layout.sourceRoot p = layout.basePath.path := by
  rcases layout.sourceRoot_cases p with
    ⟨before, dir, after, hroots, hwithin, _, _⟩ | ⟨_, hbase⟩
  · rw [h dir (by simp [hroots])] at hwithin
    cases hwithin
  · exact hbase

/-! ## The counterpart of a file -/

/-- The segments that the counterpart of a file has below the directory of
generated files: those that the file does not share with the place of sources
picked for it. -/
def mirrored (layout : Layout) (p : Path) : List Path :=
  let file := view (layout.absolute p)
  let place := view (layout.sourceRoot (layout.absolute p))
  if place.1 = file.1 then file.2.drop (sharedLength place.2 file.2)
  else file.1.segments ++ file.2

theorem isNormal_emitPath (layout : Layout) (p : Path) :
    IsNormal (layout.emitPath p) :=
  isNormal_join _ _

theorem isRooted_emitPath (layout : Layout) (p : Path) :
    Path.isRooted (layout.emitPath p) = true :=
  isRooted_join layout.genDir.isRooted_path _

theorem view_emitPath (layout : Layout) (p : Path) :
    view (layout.emitPath p) = ((view layout.genDir.path).1,
      (view layout.genDir.path).2 ++ layout.mirrored p) := by
  have hfile := layout.isRooted_absolute p
  have hgen := layout.genDir.isRooted_path
  simp only [emitPath, mirrored]
  split
  next hroot =>
    have hafter : ∀ s ∈ (view (layout.absolute p)).2.drop
        (sharedLength (view (layout.sourceRoot (layout.absolute p))).2
          (view (layout.absolute p)).2), IsPlain s :=
      fun s hs => (isPlace_view hfile).isPlain s (List.mem_of_mem_drop hs)
    rw [relative_of_root_eq hroot, withoutClimbs_climbs _ hafter,
      view_join_intercalate hgen hafter]
  next hroot =>
    have hrooted := isRooted_normalize hfile
    have hup : ¬ up ++ [separator] <+: normalize (layout.absolute p) := by
      rintro ⟨rest, hrest⟩
      have hclimbs : Path.isRooted (up ++ [separator] ++ rest) = false := rfl
      rw [hrest, hrooted] at hclimbs
      cases hclimbs
    have hne : normalize (layout.absolute p) ≠ up := by
      intro heq
      rw [heq] at hrooted
      cases hrooted
    rw [relative_of_root_ne hroot, withoutClimbs_of_not_prefix hup hne,
      view_join_normalize hgen hfile]

theorem contains_genDir_emitPath (layout : Layout) (p : Path) :
    Contains layout.genDir.path (layout.emitPath p) :=
  contains_iff.2 ⟨layout.mirrored p, layout.view_emitPath p⟩

theorem mirrored_of_view {layout : Layout} {p : Path} {rest : List Path}
    (h : view (layout.absolute p)
      = ((view (layout.sourceRoot (layout.absolute p))).1,
        (view (layout.sourceRoot (layout.absolute p))).2 ++ rest)) :
    layout.mirrored p = rest := by
  simp only [mirrored]
  rw [h]
  simp only [if_true, sharedLength_append_right, List.drop_left]

theorem mirrored_of_sourceRoot_eq {layout : Layout} {p dir : Path}
    {rest : List Path} (hp : IsNormal p) (hr : Path.isRooted p = true)
    (hroot : layout.sourceRoot p = dir)
    (hview : view p = ((view dir).1, (view dir).2 ++ rest)) :
    layout.mirrored p = rest := by
  apply mirrored_of_view
  rw [layout.absolute_of_isNormal hp hr, hroot, hview]

theorem join_mirrored {layout : Layout} {p : Path}
    (h : Contains (layout.sourceRoot (layout.absolute p)) (layout.absolute p)) :
    join (layout.sourceRoot (layout.absolute p))
      [[separator].intercalate (layout.mirrored p)]
      = layout.absolute p := by
  rcases layout.exists_sourceRoot_eq (layout.absolute p) with ⟨dir, hdir⟩
  have hroot : Path.isRooted (layout.sourceRoot (layout.absolute p))
      = true := by
    rw [hdir]
    exact dir.isRooted_path
  rcases contains_iff.1 h with ⟨rest, hrest⟩
  have hplain := isPlain_of_view (layout.isRooted_absolute p) hrest
  rw [mirrored_of_view hrest]
  apply eq_of_view_eq (isNormal_join _ _) (layout.isNormal_absolute p)
    (isRooted_join hroot _) (layout.isRooted_absolute p)
  rw [view_join_intercalate hroot hplain, hrest]

/-- The counterpart of a file lies in the directory of generated files; what
follows that directory in it leads from the place of sources picked for the file
back to the file, when the place contains it, so that no two files of one place
have one counterpart. -/
theorem emitPath_mirrors_sourceRoot (layout : Layout) (p : Path) :
    IsNormal (layout.emitPath p) ∧
      Contains layout.genDir.path (layout.emitPath p) ∧
      (Contains (layout.sourceRoot (layout.absolute p)) (layout.absolute p) →
        join (layout.sourceRoot (layout.absolute p))
            [[separator].intercalate
              ((view (layout.emitPath p)).2.drop
                (view layout.genDir.path).2.length)]
          = layout.absolute p) ∧
      ∀ q,
        layout.sourceRoot (layout.absolute q)
          = layout.sourceRoot (layout.absolute p) →
        Contains (layout.sourceRoot (layout.absolute p)) (layout.absolute p) →
        Contains (layout.sourceRoot (layout.absolute p)) (layout.absolute q) →
        layout.emitPath q = layout.emitPath p →
        layout.absolute q = layout.absolute p := by
  have hdrop : ∀ q,
      (view (layout.emitPath q)).2.drop (view layout.genDir.path).2.length
        = layout.mirrored q := by
    intro q
    rw [view_emitPath, List.drop_left]
  refine ⟨layout.isNormal_emitPath p, layout.contains_genDir_emitPath p, ?_, ?_⟩
  · intro h
    rw [hdrop]
    exact join_mirrored h
  · intro q hroot hp hq heq
    have hmirrored : layout.mirrored q = layout.mirrored p := by
      rw [← hdrop, heq, hdrop]
    rw [← hroot] at hq
    rw [← join_mirrored hq, ← join_mirrored hp, hmirrored, hroot]

/-! ## Sample layouts -/

/-- The sources of the sample layouts. -/
def projectDir : Directory :=
  ⟨"/p".toList, by decide, by decide⟩

/-- A directory among the sources of the sample layouts. -/
def innerDir : Directory :=
  ⟨"/p/a".toList, by decide, by decide⟩

/-- A directory beside the sources of the sample layouts. -/
def outsideDir : Directory :=
  ⟨"/g".toList, by decide, by decide⟩

/-- A layout that puts generated files beside the sources. -/
def outsideLayout (rootDirs : List Directory) : Layout where
  basePath := projectDir
  genDir := outsideDir
  rootDirs := rootDirs
  generateForLibraries := false

theorem emitPath_mirrors_innerDir :
    let layout := outsideLayout [innerDir]
    let file := layout.absolute "a//./x.ts".toList
    Contains (layout.sourceRoot file) file ∧
      join (layout.sourceRoot file)
          [[separator].intercalate
            ((view (layout.emitPath "a//./x.ts".toList)).2.drop
              (view layout.genDir.path).2.length)]
        = file := by
  have hcontains : Contains
      ((outsideLayout [innerDir]).sourceRoot
        ((outsideLayout [innerDir]).absolute "a//./x.ts".toList))
      ((outsideLayout [innerDir]).absolute "a//./x.ts".toList) := by
    decide
  exact ⟨hcontains,
    (emitPath_mirrors_sourceRoot (outsideLayout [innerDir])
      "a//./x.ts".toList).2.2.1 hcontains⟩

end Layout
end BuildHost
