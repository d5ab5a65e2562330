import BuildHost.CommandLine.Outcome

/-!
# Surroundings of a project

The folders that a command may look into.  They are known in two steps: first
the folder of the project file and, once that file can be read, the folders that
it and the command line name.
-/

namespace BuildHost
namespace CommandLine

def Command.paths : Command → List Path
  | .emitPath file => [file]
  | .moduleName imported containing => [imported, containing]
  | .resolve _ containing => containing.toList
  | .metadata file => [file]
  | .symbols => []

/-- The folder around everything that a pattern stands for: its text before any
special character, up to the last separator there. -/
def fixedFolder (pattern : Path) : Path :=
  Path.dirname (pattern.takeWhile fun c => !"?*[".toList.contains c)

/-- The folders that a project file in the directory `dir` names. -/
def configuredFolders (config : ProjectConfig) (dir : Path) : List Path :=
  let options := config.options dir
  let read (text : String) : Path := Path.readFrom dir.normalize text.toList
  [options.basePath, options.genDir] ++ options.rootDirs ++
    (config.files.getD []).map (fun text => (read text).dirname) ++
    config.includePatterns.map fun text => fixedFolder (read text)

/-- The dependency folders that a file in a folder can import from. -/
def dependencyFolders (folder : Path) : List Path :=
  folder.ancestors.map fun dir => dir.join [dependencyFolder]

/-- The folders that a command may look into besides that of the project
file. -/
def furtherFolders (disk : Disk) (invocation : Invocation) : List Path :=
  let project := absolute disk invocation.project
  let configured := match ProjectConfig.load disk project with
    | .ok config => configuredFolders config project.dirname
    | .error _ => []
  let named := invocation.command.paths.map fun p => (absolute disk p).dirname
  let folders := project.dirname :: configured ++ named
  folders ++ folders.flatMap dependencyFolders

def locationOf (p : Path) : DiskLocation := (Disk.namesOf p).filter (· ≠ [])

/-- The locations that have to be read so that everything in the folders is
known: each once, and none that is part of another.  The root folder is not read
as a whole. -/
def locationsToRead (folders : List Path) : List DiskLocation :=
  let locations := ((folders.map locationOf).filter (· ≠ [])).eraseDups
  locations.filter fun location =>
    !locations.any fun other => other ≠ location && other.isPrefixOf location

/-- The disk with the given working folder that holds what was found at
locations: each of them comes with the entries at and below it, and lies in
folders that are there. -/
def diskOf (workingFolder : DiskLocation)
    (found : List (DiskLocation × List (DiskLocation × DiskEntry))) : Disk :=
  let around := found.flatMap fun (location, _) =>
    (Disk.withFolderAt location.dropLast).entries
  { entries := OrderedMap.ofList around ++ found.flatMap (·.2)
    workingFolder }

end CommandLine
end BuildHost
