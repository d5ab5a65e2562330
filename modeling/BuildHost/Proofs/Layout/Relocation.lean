import BuildHost.Proofs.Layout.Specifier

/-!
# Moving the directory of generated files

A file below the base path or in a dependency folder is moved below the
directory of generated files, where it keeps segments that depend on the base
path and the file alone (`view_moveToGenDir`).  The way between two moved files
therefore does not tell where that directory is, and neither do the specifiers
of generated files (`specifierOf_eq_of_basePath_eq`).
-/

namespace BuildHost

open BuildHost.Path

namespace Layout

/-! ## Where files are moved to -/

/-- The segments that a file keeps when it is moved: those from the dependency
folder on, or those below the base path. -/
def keptSegments (base p : Path) : List Path :=
  match dependencyModule? p with
  | some module => dependencyFolder :: module.splitOn separator
  | none => (view p).2.drop (view base).2.length

variable {layout other : Layout} {imported containing p module : Path}

theorem view_join_dependencyFolder
    (hplain : ∀ s ∈ module.splitOn separator, IsPlain s) :
    view (layout.genDir.path.join [dependencyFolder ++ separator :: module])
      = ((view layout.genDir.path).1, (view layout.genDir.path).2 ++
          dependencyFolder :: module.splitOn separator) := by
  have hfolder : IsPlain dependencyFolder := by
    decide
  have htext : dependencyFolder ++ separator :: module
      = [separator].intercalate
        (dependencyFolder :: module.splitOn separator) := by
    rw [List.intercalate_cons_of_ne_nil (List.splitOn_ne_nil separator module),
      List.intercalate_splitOn]
    simp
  rw [htext, view_join_intercalate layout.genDir.isRooted_path]
  intro s hs
  rcases List.mem_cons.1 hs with rfl | hs
  · exact hfolder
  · exact hplain s hs

/-- What lies below the base path or in a dependency folder is moved below the
directory of generated files, to a place below it that the base path decides. -/
theorem view_moveToGenDir (hp : IsNormal p) (hr : Path.isRooted p = true)
    (hplace : IsBelow p layout.basePath.path ∨ dependencyMarker <:+: p) :
    keptSegments layout.basePath.path p ≠ [] ∧
      IsNormal (layout.moveToGenDir p) ∧
      Path.isRooted (layout.moveToGenDir p) = true ∧
      view (layout.moveToGenDir p) = ((view layout.genDir.path).1,
        (view layout.genDir.path).2
          ++ keptSegments layout.basePath.path p) := by
  have hgen := layout.genDir.isRooted_path
  cases hmodule : dependencyModule? p with
  | some module =>
      have hkept : keptSegments layout.basePath.path p
          = dependencyFolder :: module.splitOn separator := by
        rw [keptSegments, hmodule]
      have hmoved : layout.moveToGenDir p
          = layout.genDir.path.join
            [separator :: (dependencyFolder ++ separator :: module)] := by
        rw [moveToGenDir, hmodule]
        rfl
      rw [hkept, hmoved, view_join_separator_cons hgen,
        view_join_dependencyFolder (isPlain_of_dependencyModule? hp hr hmodule)]
      exact ⟨List.cons_ne_nil _ _, isNormal_join _ _, isRooted_join hgen _, rfl⟩
  | none =>
      have hbelow : IsBelow p layout.basePath.path := by
        rcases hplace with hbelow | hmarker
        · exact hbelow
        · rcases exists_dependencyModule?_of_infix hmarker with ⟨module, hsome⟩
          rw [hmodule] at hsome
          cases hsome
      rcases hbelow with ⟨rest, hne, hrest⟩
      have hkept : keptSegments layout.basePath.path p = rest := by
        rw [keptSegments, hmodule, hrest, List.drop_left]
      have hmoved := layout.isNormal_moveToGenDir hp hr hmodule
      rw [hkept]
      exact ⟨hne, hmoved.1, hmoved.2,
        view_moveToGenDir_below hp hr hne hrest hmodule⟩

theorem view_dirname_moveToGenDir_kept (hp : IsNormal p)
    (hr : Path.isRooted p = true)
    (hplace : IsBelow p layout.basePath.path ∨ dependencyMarker <:+: p) :
    view (layout.moveToGenDir p).dirname = ((view layout.genDir.path).1,
      (view layout.genDir.path).2
        ++ (keptSegments layout.basePath.path p).dropLast) := by
  rcases view_moveToGenDir hp hr hplace with ⟨hne, hnormal, hrooted, hview⟩
  have hdir := (view_dirname hnormal hrooted (by rw [hview]; simp [hne])).2
  rw [hdir, hview, List.dropLast_append_of_ne_nil hne]

/-! ## Specifiers of generated files -/

theorem isBelow_or_infix_withoutExtension (himported : IsNormal imported)
    (hir : Path.isRooted imported = true)
    (hgenerated : (FileRole.classify imported.withoutExtension).isGenerated
      = true)
    (hplace : IsBelow imported layout.basePath.path ∨
      dependencyMarker <:+: imported) :
    IsBelow imported.withoutExtension layout.basePath.path ∨
      dependencyMarker <:+: imported.withoutExtension := by
  rcases hplace with hbelow | hmarker
  · rcases hbelow.exists_view with ⟨front, last, hview⟩
    have hstem := view_module_of_isGenerated himported hir hview hgenerated
    exact .inl ⟨front ++ [last.withoutExtension], by simp, hstem.2⟩
  · exact .inr (dependencyMarker_infix_withoutExtension hmarker)

theorem exists_specifierOf_eq_dotRelative (containing : Path)
    (himported : IsNormal imported) (hir : Path.isRooted imported = true)
    (hgenerated : (FileRole.classify imported.withoutExtension).isGenerated
      = true)
    (hplace : IsBelow imported layout.basePath.path ∨
      dependencyMarker <:+: imported) :
    ∃ target, layout.specifierOf imported containing
        = (layout.moveToGenDir containing).dirname.dotRelative target ∧
      view target = ((view layout.genDir.path).1,
        (view layout.genDir.path).2
          ++ keptSegments layout.basePath.path imported.withoutExtension) := by
  have hstem := isNormal_module_of_isGenerated himported hir hgenerated
  have hrooted := isRooted_withoutExtension hir
  have hmoved := view_moveToGenDir hstem hrooted
    (isBelow_or_infix_withoutExtension himported hir hgenerated hplace)
  cases hmodule : dependencyModule? imported.withoutExtension with
  | none =>
      exact ⟨_, specifierOf_of_generated hmodule hgenerated, hmoved.2.2.2⟩
  | some module =>
      have hrole : FileRole.classify imported.withoutExtension
          = .generated (some module) := by
        rw [FileRole.isGenerated_classify] at hgenerated
        rw [FileRole.classify, if_pos hgenerated, hmodule]
      have hne : module ≠ [] := by
        rintro rfl
        exact (isPlain_of_dependencyModule? hstem hrooted hmodule []
          (by simp)).ne_nil rfl
      have htarget : layout.genDir.path.join [dependencyFolder, module]
          = layout.genDir.path.join [dependencyFolder ++ separator :: module] :=
        congrArg normalize (append_append _ (by decide) (by decide) hne)
      refine ⟨layout.genDir.path.join [dependencyFolder, module], ?_, ?_⟩
      · simp only [specifierOf, hrole]
      · rw [htarget, view_join_dependencyFolder
          (isPlain_of_dependencyModule? hstem hrooted hmodule), keptSegments,
          hmodule]

/-- The specifier of a generated file is the same wherever generated files go
and whatever root directories there are, for files below the base path and in
dependency folders. -/
theorem specifierOf_eq_of_basePath_eq (hbase : layout.basePath = other.basePath)
    (himported : IsNormal imported) (hir : Path.isRooted imported = true)
    (hcontaining : IsNormal containing) (hcr : Path.isRooted containing = true)
    (hiplace : IsBelow imported layout.basePath.path ∨
      dependencyMarker <:+: imported)
    (hcplace : IsBelow containing layout.basePath.path ∨
      dependencyMarker <:+: containing)
    (hgenerated : (FileRole.classify imported.withoutExtension).isGenerated
      = true) :
    layout.specifierOf imported containing
      = other.specifierOf imported containing := by
  rcases exists_specifierOf_eq_dotRelative containing himported hir
    hgenerated hiplace with ⟨target, hspecifier, htarget⟩
  have hsource := view_dirname_moveToGenDir_kept hcontaining hcr hcplace
  rw [hbase] at hiplace hcplace hsource htarget
  rcases exists_specifierOf_eq_dotRelative containing himported hir
    hgenerated hiplace with ⟨goal, hother, hgoal⟩
  have hstart := view_dirname_moveToGenDir_kept hcontaining hcr hcplace
  rw [hspecifier, hother]
  apply dotRelative_eq_of_relative
  exact relative_eq_of_common hsource htarget hstart hgoal

/-- A layout that puts generated files at the root of a drive. -/
def driveLayout : Layout where
  basePath := projectDir
  genDir := ⟨"D:/".toList, by decide, by decide⟩
  rootDirs := []
  generateForLibraries := true

theorem specifierOf_eq_of_basePath_eq_driveLayout :
    let imported : Path := "/lib/node_modules/a/b.ngfactory.ts".toList
    let containing : Path := "/p/a/c.ngfactory.ts".toList
    dependencyMarker <:+: imported ∧ IsBelow containing projectDir.path ∧
      (outsideLayout [innerDir]).specifierOf imported containing
        = driveLayout.specifierOf imported containing ∧
      driveLayout.specifierOf imported containing
        = "../node_modules/a/b.ngfactory".toList := by
  have hmarker : dependencyMarker
      <:+: "/lib/node_modules/a/b.ngfactory.ts".toList := by
    decide +kernel
  have hbelow : IsBelow "/p/a/c.ngfactory.ts".toList projectDir.path := by
    decide +kernel
  refine ⟨hmarker, hbelow, ?_, by decide +kernel⟩
  exact specifierOf_eq_of_basePath_eq rfl (by decide +kernel)
    (by decide +kernel) (by decide +kernel) (by decide +kernel) (.inr hmarker)
    (.inl hbelow) (by decide +kernel)

end Layout
end BuildHost
