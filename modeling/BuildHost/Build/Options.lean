import BuildHost.Layout

/-!
# Options of a build
-/

namespace BuildHost

structure Options where
  basePath : Path
  genDir : Path
  rootDirs : List Path := []
  generateForLibraries : Bool := true
  /-- Whether every look at a root directory is logged. -/
  trace : Bool := false
  /-- The file with the texts of another language. -/
  catalogFile : Option Path := none
  catalogFormat : Option String := none
  /-- The language of the catalog. -/
  locale : Option String := none
deriving DecidableEq, Repr

def Options.layout (options : Options) : Except HostError Layout :=
  Layout.make options.basePath options.genDir options.rootDirs
    options.generateForLibraries

end BuildHost
