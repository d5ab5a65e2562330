import BuildHost.Proofs.Build.Action
import BuildHost.Proofs.Build.Session
import BuildHost.Proofs.Layout.Specifier
import BuildHost.Proofs.Resolution.Dotted

/-!
# Generated files that are imported before they are written

The specifier of a generated file spells the way between the counterparts of two
files, and that is the way between the files themselves
(`specifierOf_eq_dotRelative`).  Read from the importing file it leads to the
module of the generated file, whose `.ts` exists from the import on, and be it
only planned (`resolve_specifierOf_planned`).
-/

namespace BuildHost
namespace Layout

open BuildHost.Path NodeResolution

variable {layout : Layout} {imported containing : Path}

/-! ## Names of generated files -/

def writtenExtensions : List Path :=
  [".ngfactory.ts".toList, ".ngstyle.ts".toList]

def moduleExtensions : List Path :=
  [".ngfactory".toList, ".ngstyle".toList]

/-- Only the `.ts` is taken off the name of a generated file. -/
theorem withoutExtension_of_written {p : Path}
    (h : ∃ ending ∈ writtenExtensions, ending <:+ p) :
    p.withoutExtension ++ ".ts".toList = p ∧
      ∃ ending ∈ moduleExtensions, ending <:+ p.withoutExtension := by
  rcases h with ⟨ending, hmem, hending⟩
  have hts : ∀ ending ∈ writtenExtensions, ".ts".toList <:+ ending := by
    decide
  have hcomparable : ∀ ending ∈ writtenExtensions, ∀ taken ∈ sourceExtensions,
      taken <:+ ending ∨ ending <:+ taken → taken = ".ts".toList := by
    decide
  have hmodule : ∀ ending ∈ writtenExtensions,
      ∃ short ∈ moduleExtensions, short ++ ".ts".toList = ending := by
    decide
  rcases exists_ending_of_isSuffix (by decide) ((hts ending hmem).trans hending)
    hending with
    ⟨taken, htaken, heq, hcompare⟩
  obtain rfl := hcomparable ending hmem taken htaken hcompare
  refine ⟨heq, ?_⟩
  rcases hmodule ending hmem with ⟨short, hshort, rfl⟩
  rcases hending with ⟨start, hstart⟩
  refine ⟨short, hshort, start, ?_⟩
  rw [← heq, ← List.append_assoc] at hstart
  exact List.append_cancel_right hstart

theorem isGenerated_of_moduleExtension {p : Path}
    (h : ∃ ending ∈ moduleExtensions, ending <:+ p) :
    (FileRole.classify p).isGenerated = true := by
  rcases h with ⟨ending, hmem, hending⟩
  have hgenerated : ∀ ending ∈ moduleExtensions,
      ending ∈ generatedExtensions := by
    decide
  rw [FileRole.isGenerated_classify, isGeneratedFile, List.any_eq_true]
  exact ⟨ending, hgenerated ending hmem, List.isSuffixOf_iff_suffix.2 hending⟩

theorem not_isSuffixOf_of_moduleExtension {p : Path}
    (h : ∃ ending ∈ moduleExtensions, ending <:+ p) :
    ∀ ending ∈ sourceExtensions, ending.isSuffixOf p = false := by
  intro ending hmem
  rcases h with ⟨short, hshort, hsuffix⟩
  have happart : ∀ short ∈ moduleExtensions, ∀ ending ∈ sourceExtensions,
      ¬ (short <:+ ending ∨ ending <:+ short) := by
    decide
  rw [Bool.eq_false_iff]
  intro hending
  apply happart short hshort ending hmem
  exact List.suffix_or_suffix_of_suffix hsuffix
    (List.isSuffixOf_iff_suffix.1 hending)

/-! ## The way between two files and between their counterparts -/

theorem specifierOf_eq_dotRelative (himported : IsNormal imported)
    (hcontaining : IsNormal containing)
    (hibelow : IsBelow imported layout.basePath.path)
    (hcbelow : IsBelow containing layout.basePath.path)
    (himarker : ¬ dependencyMarker <:+: imported)
    (hcmarker : ¬ dependencyMarker <:+: containing)
    (hgenerated : (FileRole.classify imported.withoutExtension).isGenerated
      = true) :
    layout.specifierOf imported containing
      = containing.dirname.dotRelative imported.withoutExtension := by
  have hir := hibelow.isRooted himported layout.basePath.isRooted_path
  have hcr := hcbelow.isRooted hcontaining layout.basePath.isRooted_path
  have hmodule := dependencyModule?_withoutExtension himarker
  have hfile := dependencyModule?_eq_none hcmarker
  rcases hibelow.exists_view with ⟨front, last, hiview⟩
  rcases hcbelow.exists_view with ⟨outer, name, hcview⟩
  have hstem := view_module_of_isGenerated himported hir hiview hgenerated
  have htarget := view_moveToGenDir_below hstem.1
    (isRooted_withoutExtension hir) (by simp) hstem.2 hmodule
  have hsource := view_dirname_moveToGenDir hcontaining hcr hfile hcview
  have hdir : view containing.dirname
      = ((view layout.basePath.path).1,
        (view layout.basePath.path).2 ++ outer) := by
    rw [(view_dirname hcontaining hcr (by rw [hcview]; simp)).2, hcview,
      ← List.append_assoc, List.dropLast_concat]
  rw [specifierOf_of_generated hmodule hgenerated]
  apply dotRelative_eq_of_relative
  exact relative_eq_of_common hsource.2 htarget hdir hstem.2

theorem resolve_specifierOf_of_fileExists {files : KnownFiles}
    {roots : List Path} (himported : IsNormal imported)
    (hcontaining : IsNormal containing)
    (hibelow : IsBelow imported layout.basePath.path)
    (hcbelow : IsBelow containing layout.basePath.path)
    (himarker : ¬ dependencyMarker <:+: imported)
    (hcmarker : ¬ dependencyMarker <:+: containing)
    (hwritten : ∃ ending ∈ writtenExtensions, ending <:+ imported)
    (hexists : files.fileExists imported = true) :
    (layout.resolve (resolver roots) files
      (layout.specifierOf imported containing)
        (some containing)).map (·.target) = .ok (some imported) := by
  have hir := hibelow.isRooted himported layout.basePath.isRooted_path
  have hcr := hcbelow.isRooted hcontaining layout.basePath.isRooted_path
  have hname := withoutExtension_of_written hwritten
  have hgenerated := isGenerated_of_moduleExtension hname.2
  have hrooted := isRooted_withoutExtension hir
  rcases hcbelow.exists_view with ⟨outer, name, hcview⟩
  have hdir := view_dirname hcontaining hcr (by rw [hcview]; simp)
  have hroot : (view containing.dirname).1
      = (view imported.withoutExtension).1 := by
    rw [hdir.2, view_withoutExtension_fst hir, hcbelow.contains.1.symm,
      hibelow.contains.1]
  have hfirst : (extensions.map (imported.withoutExtension ++ ·)).find?
      files.resolutionHost.fileExists = some imported := by
    rw [extensions, List.map_cons, hname.1,
      List.find?_cons_of_pos (KnownFiles.fileExists_resolutionHost hir hexists)]
  rw [specifierOf_eq_dotRelative himported hcontaining hibelow hcbelow himarker
    hcmarker hgenerated]
  exact resolve_dotRelative hcr hdir.1
    (isNormal_module_of_isGenerated himported hir hgenerated) hrooted hroot
    (not_isSuffixOf_of_moduleExtension hname.2) hfirst

end Layout

namespace Build

open BuildHost.Path NodeResolution

/-- A generated file that was imported is found by its specifier from then on,
whatever else is asked, and whether or not it is written. -/
theorem resolve_specifierOf_planned {build : Build} {roots : List Path}
    {imported containing : Path}
    (hresolver : build.resolver = NodeResolution.resolver roots)
    (himported : IsNormal imported) (hcontaining : IsNormal containing)
    (hibelow : IsBelow imported build.layout.basePath.path)
    (hcbelow : IsBelow containing build.layout.basePath.path)
    (himarker : ¬ dependencyMarker <:+: imported)
    (hcmarker : ¬ dependencyMarker <:+: containing)
    (hwritten : ∃ ending ∈ Layout.writtenExtensions, ending <:+ imported)
    (state : State) :
    ∃ specifier importing,
      (build.specifierOf imported containing).run state = (.ok specifier,
        importing) ∧
        ∀ queries, ((build.resolve specifier (some containing)).run
          (build.afterQueries importing queries)).1 = .ok (some imported) := by
  refine ⟨_, _, build.run_specifierOf state imported containing, ?_⟩
  intro queries
  have hexists : (build.afterQueries
      { state with files := state.files.importing imported }
        queries).files.fileExists imported = true :=
    (build.grows_afterQueries _ queries).fileExists
      (state.files.fileExists_importing imported)
  rw [answer_resolve, hresolver]
  exact Layout.resolve_specifierOf_of_fileExists himported hcontaining hibelow
    hcbelow himarker hcmarker hwritten hexists

theorem resolve_specifierOf_planned_outsideBuild :
    let build := outsideBuild .empty fun _ => none
    let imported : Path := "/p/a.ngfactory.ts".toList
    let containing : Path := "/p/a.ngfactory/c.ngfactory.ts".toList
    let state := State.start (.inMemory (.empty true))
    state.files.fs.isFile imported = false ∧
      ∃ specifier importing,
        (build.specifierOf imported containing).run state = (.ok specifier,
          importing) ∧
          ∀ queries, ((build.resolve specifier (some containing)).run
            (build.afterQueries importing queries)).1
              = .ok (some imported) := by
  refine ⟨by decide +kernel, ?_⟩
  exact resolve_specifierOf_planned rfl (by decide +kernel) (by decide +kernel)
    (by decide +kernel) (by decide +kernel) (by decide +kernel)
    (by decide +kernel) ⟨".ngfactory.ts".toList, by decide, by decide +kernel⟩ _

end Build
end BuildHost
