import BuildHost.Proofs.Build.Session
import BuildHost.Proofs.Resolution.RoundTrip

/-!
# Sources that are imported from where they lie

When generated files go among the sources, a specifier spells the way from the
place of the containing file's counterpart to the source itself.  It is read
again as a specifier, without an ending: a source whose name still ends like one
without its own ending, such as `a.js.ts`, is not found by it
(`resolve_specifierOf_twoEndings_ne`), and every other source is
(`resolve_specifierOf_among`).
-/

namespace BuildHost
namespace Layout

open BuildHost.Path NodeResolution

variable {layout : Layout} {imported containing : Path}

theorem exists_extension_of_isSuffix {p ending : Path}
    (hmem : ending ∈ extensions) (h : ending <:+ p) :
    ∃ taken ∈ extensions, p.withoutExtension ++ taken = p := by
  have hcomparable : ∀ ending ∈ extensions, ∀ taken ∈ sourceExtensions,
      taken <:+ ending ∨ ending <:+ taken → taken ∈ extensions := by
    decide
  rcases exists_ending_of_isSuffix
    (mem_sourceExtensions_of_mem_extensions ending hmem) h h
    with ⟨taken, htaken, heq, hcompare⟩
  exact ⟨taken, hcomparable ending hmem taken htaken hcompare, heq⟩

theorem find?_eq_some_of_only {host : ResolutionHost} {module file : Path}
    (hfile : ∃ ending ∈ extensions, module ++ ending = file)
    (hexists : host.fileExists file = true)
    (honly : ∀ ending ∈ extensions, host.fileExists (module ++ ending) = true →
      module ++ ending = file) :
    (extensions.map (module ++ ·)).find? host.fileExists = some file := by
  cases hfind : (extensions.map (module ++ ·)).find? host.fileExists with
  | none =>
      rcases hfile with ⟨ending, hmem, rfl⟩
      rw [List.find?_eq_none] at hfind
      exact absurd hexists (hfind _ (List.mem_map_of_mem hmem))
  | some found =>
      have hfound := List.find?_some hfind
      rcases List.mem_map.1 (List.mem_of_find?_eq_some hfind) with
        ⟨ending, hmem, rfl⟩
      rw [honly ending hmem hfound]

/-- The specifier of a source that generated files go among, read from where the
importing file is moved to, resolves to the source.  Its name without its ending
must not end like a source file again, since reading a specifier takes an ending
off it, and must be more than dots. -/
theorem resolve_specifierOf_among {files : KnownFiles} {roots : List Path}
    (hinside : Contains layout.basePath.path layout.genDir.path)
    (hspells : spellsDrive
      ((view layout.genDir.path).2.drop (view layout.basePath.path).2.length)
      = false)
    (himported : IsNormal imported) (hcontaining : IsNormal containing)
    (hibelow : IsBelow imported layout.basePath.path)
    (hcbelow : IsBelow containing layout.basePath.path)
    (himarker : ¬ dependencyMarker <:+: imported)
    (hcmarker : ¬ dependencyMarker <:+: containing)
    (hgenerated : (FileRole.classify imported.withoutExtension).isGenerated
      = false)
    (hextension : ∃ ending ∈ extensions, ending <:+ imported)
    (hlast : lastSegment imported.withoutExtension ∉ [[], here, up])
    (hends : ∀ ending ∈ sourceExtensions,
      ending.isSuffixOf imported.withoutExtension = false)
    (hdisk : files.fs.isFile imported = true)
    (honly : ∀ ending ∈ extensions,
      files.resolutionHost.fileExists (imported.withoutExtension ++ ending)
        = true →
        imported.withoutExtension ++ ending = imported) :
    (layout.resolve (resolver roots) (files.importing imported)
        (layout.specifierOf imported containing)
        (some (layout.moveToGenDir containing))).map (·.target)
      = .ok (some imported) := by
  have hir := hibelow.isRooted himported layout.basePath.isRooted_path
  have hcr := hcbelow.isRooted hcontaining layout.basePath.isRooted_path
  have hmodule := dependencyModule?_withoutExtension himarker
  have hfile := dependencyModule?_eq_none hcmarker
  rcases hibelow.exists_view with ⟨front, last, hiview⟩
  rcases hcbelow.exists_view with ⟨outer, name, hcview⟩
  -- the module is a place of its own among the sources
  have hstem := view_withoutExtension_below himported hir
    layout.basePath.isNormal_path layout.basePath.isRooted_path hiview hlast
  have hrooted := isRooted_withoutExtension hir
  have hmoved := layout.isNormal_moveToGenDir hcontaining hcr hfile
  have hdir := view_dirname_moveToGenDir hcontaining hcr hfile hcview
  have hroot : (view (layout.moveToGenDir containing).dirname).1
      = (view imported.withoutExtension).1 := by
    rw [hdir.2, hstem.2, hinside.1]
  have hspecifier : layout.specifierOf imported containing
      = (layout.moveToGenDir containing).dirname.dotRelative
        imported.withoutExtension :=
    specifierOf_of_source hmodule hgenerated
      ((genDirInsideBasePath_iff hinside).2 hspells) hrooted
  have hexists : files.resolutionHost.fileExists imported = true :=
    KnownFiles.fileExists_resolutionHost hir
      (KnownFiles.fileExists_iff.2 (.inl hdisk))
  have hfirst : (extensions.map (imported.withoutExtension ++ ·)).find?
      files.resolutionHost.fileExists = some imported := by
    rcases hextension with ⟨ending, hmem, hending⟩
    exact find?_eq_some_of_only (exists_extension_of_isSuffix hmem hending)
      hexists honly
  rw [hspecifier, KnownFiles.importing_eq_self hdisk]
  exact resolve_dotRelative hmoved.2 hdir.1 hstem.1 hrooted hroot hends hfirst

/-- A layout that puts generated files among the sources. -/
def insideLayout : Layout where
  basePath := projectDir
  genDir := ⟨"/p/g".toList, by decide, by decide⟩
  rootDirs := []
  generateForLibraries := false

/-- A name with dots in it, imported from inside the directory that has the name
of its module. -/
theorem resolve_specifierOf_among_insideLayout :
    let imported : Path := "/p/a.b.d.ts".toList
    let containing : Path := "/p/a.b/c.ts".toList
    let files := singleFile imported
    insideLayout.specifierOf imported containing = "../../a.b".toList ∧
      (insideLayout.resolve (resolver []) (files.importing imported)
          (insideLayout.specifierOf imported containing)
          (some (insideLayout.moveToGenDir containing))).map (·.target)
        = .ok (some imported) := by
  refine ⟨by decide +kernel, ?_⟩
  exact resolve_specifierOf_among (by decide +kernel) (by decide +kernel)
    (by decide +kernel) (by decide +kernel) (by decide +kernel)
    (by decide +kernel) (by decide +kernel) (by decide +kernel)
    (by decide +kernel) ⟨".d.ts".toList, by decide, by decide +kernel⟩
    (by decide +kernel) (by decide +kernel) (by decide +kernel)
    (by decide +kernel)

/-- Two files, of which the second has the name of the first without its own
ending. -/
def twoEndings : KnownFiles where
  fs := .inMemory
    (((MemoryTree.empty true).addFile "/p/a.js.ts".toList
      ByteArray.empty).addFile
    "/p/a.ts".toList ByteArray.empty)
  planned := []

/-- The specifier of a file with two endings resolves to another file. -/
theorem resolve_specifierOf_twoEndings_ne :
    let imported : Path := "/p/a.js.ts".toList
    let containing : Path := "/p/c.ts".toList
    Contains insideLayout.basePath.path insideLayout.genDir.path ∧
      IsNormal imported ∧ IsNormal containing ∧
      IsBelow imported insideLayout.basePath.path ∧
      IsBelow containing insideLayout.basePath.path ∧
      ¬ dependencyMarker <:+: imported ∧
      ¬ dependencyMarker <:+: containing ∧ isGeneratedFile imported = false ∧
      (FileRole.classify imported.withoutExtension).isGenerated = false ∧
      (∃ ending ∈ extensions, ending <:+ imported) ∧
      lastSegment imported.withoutExtension ∉ [[], here, up] ∧
      twoEndings.fs.isFile imported = true ∧
      (∀ ending ∈ extensions,
        twoEndings.resolutionHost.fileExists
          (imported.withoutExtension ++ ending) = true →
        imported.withoutExtension ++ ending = imported) ∧
      (insideLayout.resolve (resolver []) (twoEndings.importing imported)
          (insideLayout.specifierOf imported containing)
          (some (insideLayout.moveToGenDir containing))).map (·.target)
        ≠ .ok (some imported) := by
  refine ⟨by decide +kernel, by decide +kernel, by decide +kernel,
    by decide +kernel, by decide +kernel, by decide +kernel, by decide +kernel,
    by decide +kernel, by decide +kernel,
    ⟨".ts".toList, by decide, by decide +kernel⟩,
    by decide +kernel, by decide +kernel, by decide +kernel, ?_⟩
  intro heq
  exact absurd (congrArg Except.toOption heq) (by decide +kernel)

end Layout
end BuildHost
