import BuildHost.Proofs.Path.Ending
import BuildHost.Proofs.Resolution.Node
import BuildHost.Resolution.Specifier

/-!
# Resolution of dotted specifiers

A dotted specifier is resolved among the places that it leads to from the
directory of the containing file (`resolve_of_isDotted`).  When it spells the
way from there to a module, the files of the module itself are tried first
(`resolve_dotRelative`).
-/

namespace BuildHost
namespace Layout

open BuildHost.Path NodeResolution

variable {layout : Layout} {containing : Path}

theorem containingFile_of_isRooted {specifier containing : Path}
    (h : Path.isRooted containing = true) :
    layout.containingFile specifier (some containing) = .ok containing := by
  cases containing with
  | nil => cases h
  | cons c rest => rfl

theorem resolve_of_isDotted {files : KnownFiles} {roots : List Path}
    {specifier : Path} (hdotted : IsDotted specifier)
    (hspecifier : specifier.withoutExtension = specifier)
    (hcontaining : Path.isRooted containing = true) :
    (layout.resolve (resolver roots) files specifier (some containing)).map
        (·.target)
      = .ok ((mergedPlaces roots
        (containing.dirname.join [specifier])).findSome?
          (load files.resolutionHost)) := by
  rw [resolve, containingFile_of_isRooted hcontaining, hspecifier,
    ← target_resolveAmong, ← places_of_isDotted hdotted]
  rfl

theorem resolve_dotRelative_module {files : KnownFiles} {roots : List Path}
    {module : Path} (hcontaining : Path.isRooted containing = true)
    (hdir : Path.isRooted containing.dirname = true)
    (hmodule : IsNormal module) (hrooted : Path.isRooted module = true)
    (hroot : (view containing.dirname).1 = (view module).1)
    (hends : ∀ ending ∈ sourceExtensions, ending.isSuffixOf module = false) :
    (layout.resolve (resolver roots) files
        (containing.dirname.dotRelative module) (some containing)).map
        (·.target)
      = .ok ((mergedPlaces roots module).findSome?
        (load files.resolutionHost)) := by
  have hspecifier :=
    withoutExtension_dotRelative_module hmodule hrooted hroot hends
  have hplace : containing.dirname.join [containing.dirname.dotRelative module]
      = module := by
    rw [join_dotRelative hdir hrooted hroot]
    exact hmodule
  rw [resolve_of_isDotted (isDotted_dotRelative _ hrooted) hspecifier
    hcontaining, hplace]

theorem load_of_find? {host : ResolutionHost} {module file : Path}
    (hends : ∀ ending ∈ sourceExtensions, ending.isSuffixOf module = false)
    (hfirst : (extensions.map (module ++ ·)).find? host.fileExists
      = some file) :
    load host module = some file := by
  apply load_eq_some
  · intro ending hmem
    exact hends ending (mem_sourceExtensions_of_mem_extensions ending hmem)
  · exact hfirst

/-- The way to a module without an ending resolves to the first file that the
module has. -/
theorem resolve_dotRelative {files : KnownFiles} {roots : List Path}
    {module file : Path} (hcontaining : Path.isRooted containing = true)
    (hdir : Path.isRooted containing.dirname = true)
    (hmodule : IsNormal module) (hrooted : Path.isRooted module = true)
    (hroot : (view containing.dirname).1 = (view module).1)
    (hends : ∀ ending ∈ sourceExtensions, ending.isSuffixOf module = false)
    (hfirst : (extensions.map (module ++ ·)).find?
      files.resolutionHost.fileExists = some file) :
    (layout.resolve (resolver roots) files
      (containing.dirname.dotRelative module)
        (some containing)).map (·.target) = .ok (some file) := by
  rw [resolve_dotRelative_module hcontaining hdir hmodule hrooted hroot hends,
    mergedPlaces, List.findSome?_cons, load_of_find? hends hfirst]

end Layout
end BuildHost
