import BuildHost.Path.Basic

/-!
# Module resolution

From an import specifier to the file that it names.  A resolver sees the files
of a build through a `ResolutionHost` and says which manifests it has read on
its way.
-/

namespace BuildHost

structure ResolutionHost where
  fileExists : Path → Bool
  directoryExists : Path → Bool
  fileText : Path → Option String

structure Resolution where
  /-- The file that the specifier names. -/
  target : Option Path
  /-- The manifests that were read, in order. -/
  manifests : List Path
deriving DecidableEq, Repr

/-- Finds the file that a specifier names, as imported from a containing
file. -/
abbrev ModuleResolver := ResolutionHost → Path → Path → Resolution

end BuildHost
