import BuildHost.Proofs.Layout.RootDirs
import BuildHost.Proofs.Layout.Relocation

/-!
# Generated files of dependencies

A generated file of a dependency is imported from where its module is moved to,
below the dependency folder of the generated files
(`join_specifierOf_dependency`).  It is emitted to where it lies below the base
path, so that it is found there exactly when its first dependency folder stands
directly below the base path (`join_specifierOf_dependency_iff`).
-/

namespace BuildHost
namespace Layout

open BuildHost.Path

variable {layout : Layout} {imported containing : Path}

theorem dependencyFolder_notMem_basePath {p : Path} (hp : IsNormal p)
    (hbelow : IsBelow p layout.basePath.path)
    (hmarker : ¬ dependencyMarker <:+: p) :
    dependencyFolder ∉ (view layout.basePath.path).2 := by
  have hr := hbelow.isRooted hp layout.basePath.isRooted_path
  rcases hbelow with ⟨rest, hne, hrest⟩
  intro hmem
  rcases List.append_of_mem hmem with ⟨outer, inner, hbase⟩
  have hsplit : (view p).2 = outer ++ dependencyFolder :: (inner ++ rest) := by
    rw [hrest, hbase]
    simp
  exact hmarker (dependencyMarker_infix_of_view hp hr hsplit (by simp [hne]))

theorem keptSegments_eq_iff (base : Path) {p dir : Path} {rest : List Path}
    (hp : IsNormal p) (hr : Path.isRooted p = true)
    (hmarker : dependencyMarker <:+: p)
    (hview : view p = ((view dir).1, (view dir).2 ++ rest))
    (hdir : dependencyFolder ∉ (view dir).2) :
    keptSegments base p = rest ↔ rest.head? = some dependencyFolder := by
  rcases exists_dependencyModule?_of_infix hmarker with ⟨module, hmodule⟩
  rcases exists_view_of_dependencyModule? hp hr hmodule with ⟨before, hbefore⟩
  have hfirst := dependencyFolder_notMem_of_dependencyModule? hp hr
    hmodule hbefore
  rw [keptSegments, hmodule]
  constructor
  · rintro rfl
    rfl
  · intro hhead
    rcases List.head?_eq_some_iff.1 hhead with ⟨after, rfl⟩
    rw [hview] at hbefore
    -- neither start goes on with a dependency folder, so that the two splits
    -- are the same
    rcases List.append_eq_append_iff.1 hbefore with
      ⟨between, hsplit, hrest⟩ | ⟨between, hsplit, hrest⟩
    · cases between with
      | nil => exact hrest.symm
      | cons first others =>
          rw [hsplit, ← (List.cons.inj hrest).1] at hfirst
          exact absurd (by simp) hfirst
    · cases between with
      | nil => exact hrest
      | cons first others =>
          rw [hsplit, ← (List.cons.inj hrest).1] at hdir
          exact absurd (by simp) hdir

theorem view_ne_of_dependency {p dir : Path} (hp : IsNormal p)
    (hr : Path.isRooted p = true) (hmarker : dependencyMarker <:+: p)
    (hdir : dependencyFolder ∉ (view dir).2) (last : Path) :
    view p ≠ ((view dir).1, (view dir).2 ++ ([] ++ [last])) := by
  intro hview
  rcases exists_dependencyModule?_of_infix hmarker with ⟨module, hmodule⟩
  rcases exists_view_of_dependencyModule? hp hr hmodule with ⟨before, hbefore⟩
  rw [hview] at hbefore
  have hfront := eq_append_dropLast (List.cons_ne_nil _ _) hbefore
  rw [hfront, List.dropLast_cons_of_ne_nil
    (List.splitOn_ne_nil separator module)] at hdir
  exact hdir (by simp)

section Generated

variable (himported : IsNormal imported) (hcontaining : IsNormal containing)
  (hibelow : IsBelow imported layout.basePath.path)
  (hcbelow : IsBelow containing layout.basePath.path)
  (himarker : dependencyMarker <:+: imported)
  (hcmarker : ¬ dependencyMarker <:+: containing)
  (hgenerated : (FileRole.classify imported.withoutExtension).isGenerated
    = true)
  (hiroots : ∀ dir ∈ layout.rootDirs, dir.path.isWithin imported = false)
  (hcroots : ∀ dir ∈ layout.rootDirs, dir.path.isWithin containing = false)

include himported hibelow himarker hgenerated in
theorem view_moveToGenDir_dependency :
    IsNormal (layout.moveToGenDir imported.withoutExtension) ∧
      Path.isRooted (layout.moveToGenDir imported.withoutExtension) = true ∧
      view (layout.moveToGenDir imported.withoutExtension)
        = ((view layout.genDir.path).1,
          (view layout.genDir.path).2
            ++ keptSegments layout.basePath.path
              imported.withoutExtension) := by
  have hr := hibelow.isRooted himported layout.basePath.isRooted_path
  exact (view_moveToGenDir
    (isNormal_module_of_isGenerated himported hr hgenerated)
    (isRooted_withoutExtension hr)
    (.inr (dependencyMarker_infix_withoutExtension himarker))).2

include himported hcontaining hibelow hcbelow himarker hgenerated in
theorem specifierOf_of_dependency :
    layout.specifierOf imported containing
      = (layout.moveToGenDir containing).dirname.dotRelative
          (layout.moveToGenDir imported.withoutExtension) := by
  have hr := hibelow.isRooted himported layout.basePath.isRooted_path
  have hcr := hcbelow.isRooted hcontaining layout.basePath.isRooted_path
  rcases exists_specifierOf_eq_dotRelative containing himported hr hgenerated
    (.inr himarker) with ⟨target, hspecifier, htarget⟩
  have hmoved := view_moveToGenDir_dependency himported hibelow himarker
    hgenerated
  have hsource := view_dirname_moveToGenDir_kept hcontaining hcr (.inl hcbelow)
  rw [hspecifier]
  apply dotRelative_eq_of_relative
  exact relative_eq_of_common hsource htarget hsource hmoved.2.2

include himported hcontaining hibelow hcbelow himarker hcmarker hgenerated
  hcroots in
theorem join_specifierOf_dependency :
    join (layout.emitPath containing).dirname
      [layout.specifierOf imported containing]
      = layout.moveToGenDir imported.withoutExtension := by
  have hmoved := view_moveToGenDir_dependency himported hibelow himarker
    hgenerated
  have hdir := view_dirname_emitPath_below hcontaining hcbelow hcroots
  have hroot : (view (layout.emitPath containing).dirname).1
      = (view (layout.moveToGenDir imported.withoutExtension)).1 := by
    rw [hdir.2, hmoved.2.2]
  rw [specifierOf_of_dependency himported hcontaining hibelow hcbelow himarker
    hgenerated, dirname_moveToGenDir_eq hcontaining hcbelow hcmarker hcroots,
    join_dotRelative hdir.1 hmoved.2.1 hroot, hmoved.1]

include himported hibelow hgenerated hiroots in
theorem view_module_emitPath_dependency {front : List Path} {last : Path}
    (hview : view imported = ((view layout.basePath.path).1,
      (view layout.basePath.path).2 ++ (front ++ [last]))) :
    IsNormal (layout.emitPath imported).withoutExtension ∧
      view (layout.emitPath imported).withoutExtension
        = ((view layout.genDir.path).1,
          (view layout.genDir.path).2
            ++ (front ++ [last.withoutExtension])) := by
  have hr := hibelow.isRooted himported layout.basePath.isRooted_path
  have hroot := sourceRoot_eq_basePath layout hiroots
  have hmirrored := mirrored_of_sourceRoot_eq himported hr hroot hview
  rw [← List.append_assoc] at hview
  exact view_module_emitPath hmirrored
    (isPlain_withoutExtension_of_isGenerated himported hr hview hgenerated)

end Generated

/-- The specifier of a generated file of a dependency leads to where the module
is moved to, below the dependency folder of the generated files.  The file is
emitted there exactly when the first of its segments below the base path is a
dependency folder; a file of a dependency further below is imported from where
nothing is emitted. -/
theorem join_specifierOf_dependency_iff (himported : IsNormal imported)
    (hcontaining : IsNormal containing)
    (hibelow : IsBelow imported layout.basePath.path)
    (hcbelow : IsBelow containing layout.basePath.path)
    (himarker : dependencyMarker <:+: imported)
    (hcmarker : ¬ dependencyMarker <:+: containing)
    (hgenerated : (FileRole.classify imported.withoutExtension).isGenerated
      = true)
    (hiroots : ∀ dir ∈ layout.rootDirs, dir.path.isWithin imported = false)
    (hcroots : ∀ dir ∈ layout.rootDirs, dir.path.isWithin containing = false) :
    join (layout.emitPath containing).dirname
      [layout.specifierOf imported containing]
        = layout.moveToGenDir imported.withoutExtension ∧
      (join (layout.emitPath containing).dirname
        [layout.specifierOf imported containing]
          = (layout.emitPath imported).withoutExtension ↔
        ((view imported).2.drop (view layout.basePath.path).2.length).head?
          = some dependencyFolder) := by
  have hr := hibelow.isRooted himported layout.basePath.isRooted_path
  have hfollowed :=
    join_specifierOf_dependency himported hcontaining hibelow hcbelow himarker
      hcmarker hgenerated hcroots
  refine ⟨hfollowed, ?_⟩
  rcases hibelow.exists_view with ⟨front, last, hview⟩
  have hbase := dependencyFolder_notMem_basePath hcontaining hcbelow hcmarker
  have hmoved := view_moveToGenDir_dependency himported hibelow himarker
    hgenerated
  have hemitted :=
    view_module_emitPath_dependency himported hibelow hgenerated hiroots hview
  have hmodule := view_module_of_isGenerated himported hr hview hgenerated
  have hkept := keptSegments_eq_iff layout.basePath.path hmodule.1
    (isRooted_withoutExtension hr)
    (dependencyMarker_infix_withoutExtension himarker) hmodule.2 hbase
  have hsame : layout.moveToGenDir imported.withoutExtension
        = (layout.emitPath imported).withoutExtension ↔
      keptSegments layout.basePath.path imported.withoutExtension
        = front ++ [last.withoutExtension] := by
    constructor
    · intro heq
      have hplaces :=
        hmoved.2.2.symm.trans ((congrArg view heq).trans hemitted.2)
      exact List.append_cancel_left (Prod.mk.inj hplaces).2
    · intro heq
      apply eq_of_view_eq hmoved.1 hemitted.1 hmoved.2.1
        (isRooted_withoutExtension (layout.isRooted_emitPath imported))
      rw [hmoved.2.2, hemitted.2, heq]
  rw [hfollowed, hsame, hkept, hview, List.drop_left]
  cases front with
  | cons first others => rfl
  | nil =>
      exact absurd hview
        (view_ne_of_dependency himported hr himarker hbase last)

/-- A dependency inside another one is emitted below the first dependency folder
as well. -/
theorem join_specifierOf_dependency_below_projectDir :
    let layout := outsideLayout []
    let imported : Path :=
      "/p/node_modules/a/node_modules/b.ngfactory.ts".toList
    let containing : Path := "/p/a/c.ngfactory.ts".toList
    IsNormal imported ∧ IsNormal containing ∧
      IsBelow imported layout.basePath.path ∧
      IsBelow containing layout.basePath.path ∧ dependencyMarker <:+: imported ∧
      layout.specifierOf imported containing
        = "../node_modules/a/node_modules/b.ngfactory".toList ∧
      join (layout.emitPath containing).dirname
        [layout.specifierOf imported containing]
        = (layout.emitPath imported).withoutExtension := by
  have himported : IsNormal
      "/p/node_modules/a/node_modules/b.ngfactory.ts".toList := by decide
  have hcontaining : IsNormal "/p/a/c.ngfactory.ts".toList := by decide
  have hibelow : IsBelow "/p/node_modules/a/node_modules/b.ngfactory.ts".toList
      projectDir.path :=
    ⟨[dependencyFolder, "a".toList, dependencyFolder, "b.ngfactory.ts".toList],
      by decide, by decide⟩
  have hcbelow : IsBelow "/p/a/c.ngfactory.ts".toList projectDir.path :=
    ⟨["a".toList, "c.ngfactory.ts".toList], by decide, by decide⟩
  have himarker : dependencyMarker
      <:+: "/p/node_modules/a/node_modules/b.ngfactory.ts".toList :=
    ⟨"/p".toList, "a/node_modules/b.ngfactory.ts".toList, by decide⟩
  have hcmarker : ¬ dependencyMarker <:+: "/p/a/c.ngfactory.ts".toList :=
    (cutAt?_eq_none_iff (by decide) _).1 (by decide)
  refine ⟨himported, hcontaining, hibelow, hcbelow,
    himarker, by decide +kernel, ?_⟩
  exact (join_specifierOf_dependency_iff himported hcontaining hibelow hcbelow
    himarker hcmarker (by decide) (by decide) (by decide)).2.2 (by decide)

/-- A dependency that is installed below the base path is imported from where
nothing is emitted. -/
theorem join_specifierOf_nestedDependency_ne :
    let layout := outsideLayout []
    let imported : Path := "/p/lib/node_modules/b.ngfactory.ts".toList
    let containing : Path := "/p/c.ngfactory.ts".toList
    IsNormal imported ∧ IsNormal containing ∧
      IsBelow imported layout.basePath.path ∧
      IsBelow containing layout.basePath.path ∧ dependencyMarker <:+: imported ∧
      ¬ dependencyMarker <:+: containing ∧
      (FileRole.classify imported.withoutExtension).isGenerated = true ∧
      (FileRole.classify containing.withoutExtension).isGenerated = true ∧
      join (layout.emitPath containing).dirname
        [layout.specifierOf imported containing]
        ≠ (layout.emitPath imported).withoutExtension := by
  decide +kernel

end Layout
end BuildHost
