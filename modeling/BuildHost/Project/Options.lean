import BuildHost.Build.Options
import BuildHost.Project.Config

/-!
# Options of a project

The paths of a project file are read from the directory that holds the file.
-/

namespace BuildHost

namespace ProjectConfig

/-- The options of the build, for a project file in the directory `dir`.  The
base path is that directory unless the file names one, and generated files go to
the base path unless it names another place. -/
def options (config : ProjectConfig) (dir : Path) : Options :=
  let dir := dir.normalize
  let read (text : String) : Path := Path.readFrom dir text.toList
  let basePath := (config.template.basePath.map read).getD dir
  { basePath
    genDir := (config.template.genDir.map read).getD basePath
    rootDirs := (config.compiler.rootDirs.getD []).map read
    generateForLibraries := config.template.generateForLibraries
    trace := config.template.trace
    catalogFile := config.template.catalogFile.map read
    catalogFormat := config.template.catalogFormat
    locale := config.template.locale }

end ProjectConfig
end BuildHost
