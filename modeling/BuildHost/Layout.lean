import BuildHost.FileRole
import BuildHost.HostError
import BuildHost.Path.Directory

/-!
# Layout of a build

Where the sources of a build lie and where the files go that are generated for
them.
-/

namespace BuildHost

structure Layout where
  /-- Where first-party sources lie. -/
  basePath : Directory
  /-- Where generated files go. -/
  genDir : Directory
  /-- Further places of sources; a later one has precedence. -/
  rootDirs : List Directory
  /-- Whether declaration files of libraries get code generated for them. -/
  generateForLibraries : Bool
deriving DecidableEq

namespace Layout

def directory (field : LayoutField) (p : Path) : Except HostError Directory :=
  match Directory.ofPath? p with
  | some dir => .ok dir
  | none => .error (.invalidLayout field p)

/-- The layout of the directories that a configuration gives, all of which must
be absolute. -/
def make (basePath genDir : Path) (rootDirs : List Path)
    (generateForLibraries : Bool) :
    Except HostError Layout := do
  let basePath ← directory .basePath basePath
  let genDir ← directory .genDir genDir
  let rootDirs ← rootDirs.mapM (directory .rootDirs)
  return { basePath, genDir, rootDirs, generateForLibraries }

/-- Whether generated files go into the sources: into the base path or below
it. -/
def genDirInsideBasePath (layout : Layout) : Bool :=
  layout.basePath.path.isWithin layout.genDir.path

/-- The normal form of a path; a relative one is read from the base path. -/
def absolute (layout : Layout) (p : Path) : Path :=
  Path.readFrom layout.basePath.path p

/-- The place of sources that an absolute path belongs to: the last of the root
directories that contains it, however long another may be, or else the base
path. -/
def sourceRoot (layout : Layout) (p : Path) : Path :=
  match (layout.rootDirs.filter fun dir => dir.path.isWithin p).getLast? with
  | some dir => dir.path
  | none => layout.basePath.path

def withoutClimbs : Path → Path
  | '.' :: '.' :: '/' :: rest => withoutClimbs rest
  | p => if p = Path.up then [] else p

def emitPath (layout : Layout) (p : Path) : Path :=
  let p := layout.absolute p
  layout.genDir.path.join [withoutClimbs ((layout.sourceRoot p).relative p)]

/-- A path with the generated files' directory in place of the base path, where
it starts with it. -/
def replaceBasePath (layout : Layout) (p : Path) : Path :=
  (Path.replaceRoot p layout.basePath.path layout.genDir.path).getD p

/-- A path moved to where generated files go: what lies in a dependency folder
keeps its path from that folder on, and first-party files keep their path below
the base path. -/
def moveToGenDir (layout : Layout) (p : Path) : Path :=
  match dependencyModule? p with
  | some module => layout.genDir.path.join [dependencyMarker ++ module]
  | none => layout.replaceBasePath p

end Layout
end BuildHost
