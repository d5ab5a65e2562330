import BuildHost.Proofs.Layout.Specifier
import BuildHost.Proofs.Resolution.Dotted

/-!
# Specifiers that resolve to the file they were made for

When generated files go beside the sources, a specifier names the counterpart of
a module.  Nothing loads there, so that resolution goes on at the same place
among the sources (`mergedPlaces_mirror`), which is the module itself
(`resolve_specifierOf_beside`).
-/

namespace BuildHost
namespace Layout

open BuildHost.Path NodeResolution

variable {layout : Layout} {imported containing : Path}

/-! ## A module and its counterpart beside the sources -/

section Beside

variable {module : Path} {front : List Path} {name : Path}
  (hbase : ¬ Contains layout.basePath.path layout.genDir.path)
  (hgen : ¬ Contains layout.genDir.path layout.basePath.path)
  (hroots : layout.rootDirs = [layout.basePath, layout.genDir] ∨
    layout.rootDirs = [layout.genDir, layout.basePath])
  (hnormal : IsNormal module) (hrooted : Path.isRooted module = true)
  (hdependency : dependencyModule? module = none)
  (hview : view module = ((view layout.basePath.path).1,
    (view layout.basePath.path).2 ++ (front ++ [name])))

include hbase in
theorem basePath_ne_genDir : layout.basePath.path ≠ layout.genDir.path := by
  intro heq
  rw [heq] at hbase
  exact hbase (contains_self _)

include hbase hroots in
theorem filter_rootDirs_ne_genDir :
    (layout.rootDirs.map (·.path)).filter (· ≠ layout.genDir.path)
      = [layout.basePath.path] := by
  have hne := basePath_ne_genDir hbase
  rcases hroots with hroots | hroots
  · rw [hroots]
    simp [hne]
  · rw [hroots]
    simp [hne]

include hroots in
theorem mem_rootDirs_iff {root : Path} :
    root ∈ layout.rootDirs.map (·.path) ↔
      root = layout.basePath.path ∨ root = layout.genDir.path := by
  rcases hroots with hroots | hroots
  · rw [hroots]
    simp
  · rw [hroots]
    simp [or_comm]

include hbase hgen hroots hnormal hrooted hdependency hview in
/-- The counterpart of a module belongs to the directory of generated files
alone, and the same place among the sources is the module. -/
theorem mergedPlaces_mirror (hdrive : spellsDrive (front ++ [name]) = false) :
    mergedPlaces (layout.rootDirs.map (·.path)) (layout.moveToGenDir module)
      = [layout.moveToGenDir module, module] := by
  have hmirror := layout.isNormal_moveToGenDir hnormal hrooted hdependency
  have hplace := view_moveToGenDir_below hnormal hrooted
    (by simp) hview hdependency
  have hcontains : Contains layout.genDir.path (layout.moveToGenDir module) :=
    contains_iff.2 ⟨_, hplace⟩
  have hwithin : layout.genDir.path.isWithin (layout.moveToGenDir module)
      = true :=
    (isWithin_iff hmirror.2).2 ⟨_, hplace, hdrive⟩
  have honly : ∀ root ∈ layout.rootDirs.map (·.path),
      root.isWithin (layout.moveToGenDir module) = true →
        root = layout.genDir.path := by
    intro root hroot h
    rcases (mem_rootDirs_iff hroots).1 hroot with rfl | rfl
    · rcases (contains_of_isWithin hmirror.2 h).nested hcontains with
        hnested | hnested
      · exact absurd hnested hbase
      · exact absurd hnested hgen
    · rfl
  have hback : layout.basePath.path.join
      [layout.genDir.path.relative (layout.moveToGenDir module)] = module := by
    rw [relative_of_view hplace]
    apply eq_of_view_eq (isNormal_join _ _) hnormal
      (isRooted_join layout.basePath.isRooted_path _) hrooted
    rw [view_join_intercalate layout.basePath.isRooted_path
      (isPlain_of_view hrooted hview), hview]
  rw [mergedPlaces_of_unique ((mem_rootDirs_iff hroots).2 (.inr rfl))
    hwithin honly, filter_rootDirs_ne_genDir hbase hroots,
    List.map_singleton, hback]

include hnormal hrooted hdependency hview in
theorem isSuffixOf_moveToGenDir {ending : Path} (h : separator ∉ ending) :
    ending.isSuffixOf (layout.moveToGenDir module)
      = ending.isSuffixOf module := by
  have hmirror := layout.isNormal_moveToGenDir hnormal hrooted hdependency
  have hplace := view_moveToGenDir_below hnormal hrooted
    (by simp) hview hdependency
  rw [← List.append_assoc] at hplace hview
  rw [isSuffixOf_of_view hmirror.1 hmirror.2 hplace h,
    isSuffixOf_of_view hnormal hrooted hview h]

include hbase hgen hroots hnormal hrooted hdependency hview in
theorem resolve_dotRelative_moveToGenDir {files : KnownFiles} {file : Path}
    (hdrive : spellsDrive (front ++ [name]) = false)
    (hcontaining : IsNormal containing) (hcr : Path.isRooted containing = true)
    (hfile : dependencyModule? containing = none)
    (hcbelow : IsBelow containing layout.basePath.path)
    (hends : ∀ ending ∈ sourceExtensions, ending.isSuffixOf module = false)
    (hfirst : (extensions.map (module ++ ·)).find?
      files.resolutionHost.fileExists = some file)
    (hmirror : ∀ ending ∈ extensions,
      files.resolutionHost.fileExists (layout.moveToGenDir module ++ ending)
        = false)
    (hfolder : files.resolutionHost.directoryExists (layout.moveToGenDir module)
      = false) :
    (layout.resolve (resolver (layout.rootDirs.map (·.path))) files
        ((layout.moveToGenDir containing).dirname.dotRelative
          (layout.moveToGenDir module))
        (some (layout.moveToGenDir containing))).map (·.target)
      = .ok (some file) := by
  rcases hcbelow.exists_view with ⟨outer, other, hcview⟩
  have hdir := view_dirname_moveToGenDir hcontaining hcr hfile hcview
  have hmoved := layout.isNormal_moveToGenDir hnormal hrooted hdependency
  have hroot : (view (layout.moveToGenDir containing).dirname).1
      = (view (layout.moveToGenDir module)).1 := by
    rw [hdir.2, view_moveToGenDir_below hnormal hrooted
      (by simp) hview hdependency]
  have hcounterpart : ∀ ending ∈ sourceExtensions,
      ending.isSuffixOf (layout.moveToGenDir module) = false := by
    intro ending hmem
    rw [isSuffixOf_moveToGenDir hnormal hrooted hdependency hview
      (separator_notMem_of_mem_sourceExtensions ending hmem)]
    exact hends ending hmem
  have hnone : load files.resolutionHost (layout.moveToGenDir module)
      = none := by
    apply load_eq_none
    · intro ending hmem
      exact hcounterpart ending
        (mem_sourceExtensions_of_mem_extensions ending hmem)
    · exact hmirror
    · exact hfolder
  rw [resolve_dotRelative_module
    (layout.isNormal_moveToGenDir hcontaining hcr hfile).2 hdir.1
      hmoved.1 hmoved.2 hroot hcounterpart,
    mergedPlaces_mirror hbase hgen hroots hnormal hrooted hdependency
      hview hdrive,
    List.findSome?_cons, hnone, List.findSome?_cons, load_of_find? hends hfirst]

end Beside

/-! ## The round trip -/

/-- The specifier that a file beside generated code is imported by, read from
where the importing file is moved to, resolves to the file, when nothing stands
in the place of its counterpart. -/
theorem resolve_specifierOf_beside {files : KnownFiles}
    (hbase : ¬ Contains layout.basePath.path layout.genDir.path)
    (hgen : ¬ Contains layout.genDir.path layout.basePath.path)
    (hroots : layout.rootDirs = [layout.basePath, layout.genDir] ∨
      layout.rootDirs = [layout.genDir, layout.basePath])
    (himported : IsNormal imported) (hcontaining : IsNormal containing)
    (hibelow : IsBelow imported layout.basePath.path)
    (hcbelow : IsBelow containing layout.basePath.path)
    (himarker : ¬ dependencyMarker <:+: imported)
    (hcmarker : ¬ dependencyMarker <:+: containing)
    (hdrive : ∀ letter : Char, letter.isAlpha = true →
      [letter, ':'] ∉ (view imported).2)
    (hlast : lastSegment imported.withoutExtension ∉ [[], here, up])
    (hending : ∀ ending ∈ sourceExtensions,
      ending.isSuffixOf imported.withoutExtension = false)
    (hdisk : files.fs.isFile imported = true)
    (hfirst : (extensions.map (imported.withoutExtension ++ ·)).find?
      files.resolutionHost.fileExists = some imported)
    (hmirror : ∀ ending ∈ extensions, files.resolutionHost.fileExists
      (layout.moveToGenDir imported.withoutExtension ++ ending) = false)
    (hfolder : files.resolutionHost.directoryExists
      (layout.moveToGenDir imported.withoutExtension) = false) :
    (layout.resolve (resolver (layout.rootDirs.map (·.path)))
        (files.importing imported) (layout.specifierOf imported containing)
        (some (layout.moveToGenDir containing))).map (·.target)
      = .ok (some imported) := by
  have hir := hibelow.isRooted himported layout.basePath.isRooted_path
  have hcr := hcbelow.isRooted hcontaining layout.basePath.isRooted_path
  have hmodule := dependencyModule?_withoutExtension himarker
  have hfile := dependencyModule?_eq_none hcmarker
  rcases hibelow.exists_view with ⟨front, last, hiview⟩
  -- the module is a place of its own among the sources
  have hplain := isPlain_of_lastSegment himported hir
    layout.basePath.isNormal_path layout.basePath.isRooted_path hiview hlast
  have hstem : IsNormal imported.withoutExtension ∧
      view imported.withoutExtension = ((view layout.basePath.path).1,
        (view layout.basePath.path).2
          ++ (front ++ [last.withoutExtension])) := by
    rw [← List.append_assoc] at hiview ⊢
    exact view_withoutExtension himported hir hiview hplain
  have hrooted := isRooted_withoutExtension hir
  have hspells : spellsDrive (front ++ [last.withoutExtension]) = false := by
    apply spellsDrive_eq_false
    intro letter halpha hmem
    apply hdrive letter halpha
    rw [hiview]
    exact List.mem_append_right _ hmem
  have hmoved := layout.isNormal_moveToGenDir hstem.1 hrooted hmodule
  have hspecifier : layout.specifierOf imported containing
      = (layout.moveToGenDir containing).dirname.dotRelative
          (layout.moveToGenDir imported.withoutExtension) :=
    specifierOf_of_mirrored hmodule (genDirInsideBasePath_eq_false hbase)
      hmoved.2
  have hfiles : files.importing imported = files := by
    rw [KnownFiles.importing, if_pos]
    rw [KnownFiles.fileExists, KnownFiles.existence?, if_pos hdisk]
    rfl
  rw [hspecifier, hfiles]
  exact resolve_dotRelative_moveToGenDir hbase hgen hroots hstem.1 hrooted
    hmodule hstem.2 hspells hcontaining hcr hfile hcbelow hending hfirst
      hmirror hfolder

/-- The files of a project with one file. -/
def singleFile (p : Path) : KnownFiles where
  fs := .inMemory ((MemoryTree.empty true).addFile p ByteArray.empty)
  planned := []

theorem resolve_specifierOf_beside_outsideDir :
    let layout := outsideLayout [outsideDir, projectDir]
    let imported : Path := "/p/a/x.ts".toList
    let containing : Path := "/p/c.ts".toList
    let files := singleFile imported
    layout.specifierOf imported containing = "./a/x".toList ∧
      (layout.resolve (resolver (layout.rootDirs.map (·.path)))
          (files.importing imported) (layout.specifierOf imported containing)
          (some (layout.moveToGenDir containing))).map (·.target)
        = .ok (some imported) := by
  have hdrive : ∀ letter : Char, letter.isAlpha = true →
      [letter, ':'] ∉ (view "/p/a/x.ts".toList).2 := by
    have hview : (view "/p/a/x.ts".toList).2
        = ["p".toList, "a".toList, "x.ts".toList] := by
      decide +kernel
    intro letter halpha
    rw [hview]
    simp
  refine ⟨by decide +kernel, ?_⟩
  exact resolve_specifierOf_beside (by decide +kernel) (by decide +kernel)
    (.inr rfl) (by decide +kernel) (by decide +kernel) (by decide +kernel)
    (by decide +kernel) (by decide +kernel) (by decide +kernel) hdrive
    (by decide +kernel) (by decide +kernel) (by decide +kernel)
    (by decide +kernel) (by decide +kernel) (by decide +kernel)

/-- A name that leaves a dot leads to the directory itself, where nothing is
loaded. -/
theorem resolve_specifierOf_dot_ne :
    let layout := outsideLayout [projectDir, outsideDir]
    let imported : Path := "/p/..ts".toList
    let containing : Path := "/p/c.ts".toList
    let files := singleFile imported
    ¬ Contains layout.basePath.path layout.genDir.path ∧
      ¬ Contains layout.genDir.path layout.basePath.path ∧
      IsNormal imported ∧ IsNormal containing ∧
      IsBelow imported layout.basePath.path ∧
      IsBelow containing layout.basePath.path ∧
      ¬ dependencyMarker <:+: imported ∧
      ¬ dependencyMarker <:+: containing ∧
      (∀ letter : Char, letter.isAlpha = true →
        [letter, ':'] ∉ (view imported).2 ∧
          [letter, ':'] ∉ (view containing).2) ∧
      isGeneratedFile imported = false ∧
      (FileRole.classify imported.withoutExtension).isGenerated = false ∧
      lastSegment imported.withoutExtension ≠ [] ∧
      (∀ ending ∈ sourceExtensions,
        ending.isSuffixOf imported.withoutExtension = false) ∧
      files.fs.isFile imported = true ∧
      (extensions.map (imported.withoutExtension ++ ·)).find?
        files.resolutionHost.fileExists = some imported ∧
      (∀ ending ∈ extensions, files.resolutionHost.fileExists
        (layout.moveToGenDir imported.withoutExtension ++ ending) = false) ∧
      files.resolutionHost.directoryExists
        (layout.moveToGenDir imported.withoutExtension) = false ∧
      (layout.resolve (resolver (layout.rootDirs.map (·.path)))
          (files.importing imported) (layout.specifierOf imported containing)
          (some (layout.moveToGenDir containing))).map (·.target)
        ≠ .ok (some imported) := by
  have hdrive : ∀ letter : Char, letter.isAlpha = true →
      [letter, ':'] ∉ (view "/p/..ts".toList).2 ∧
        [letter, ':'] ∉ (view "/p/c.ts".toList).2 := by
    have himported : (view "/p/..ts".toList).2
        = ["p".toList, "..ts".toList] := by
      decide +kernel
    have hcontaining : (view "/p/c.ts".toList).2
        = ["p".toList, "c.ts".toList] := by
      decide +kernel
    intro letter halpha
    rw [himported, hcontaining]
    simp
  refine ⟨by decide +kernel, by decide +kernel, by decide +kernel,
    by decide +kernel, by decide +kernel, by decide +kernel, by decide +kernel,
    by decide +kernel, hdrive, by decide +kernel, by decide +kernel,
    by decide +kernel, by decide +kernel, by decide +kernel, by decide +kernel,
    by decide +kernel, by decide +kernel, ?_⟩
  intro heq
  exact absurd (congrArg Except.toOption heq) (by decide +kernel)

end Layout
end BuildHost
