import BuildHost.FileRole
import BuildHost.Resolution.Basic
import BuildHost.Resolution.PackageManifest

/-!
# Resolution by dependency folders and root directories

A relative or rooted specifier names a place, and, when nothing is there, the
same place in the other root directories, which count as one merged directory.
Any other specifier is looked for in the dependency folders of the directories
above the containing file, the nearest first.
-/

namespace BuildHost
namespace NodeResolution

def extensions : List Path := [".ts".toList, ".tsx".toList, ".d.ts".toList]

/-- The file that a place names: itself, if it ends like a source file, or with
one of the endings added. -/
def loadAsFile (host : ResolutionHost) (candidate : Path) : Option Path :=
  if extensions.any (·.isSuffixOf candidate) && host.fileExists candidate
    then some candidate
  else (extensions.map (candidate ++ ·)).find? host.fileExists

def manifestOf (folder : Path) : Path := folder.join ["package.json".toList]

def loadByManifest (host : ResolutionHost) (folder : Path) : Option Path := do
  let text ← host.fileText (manifestOf folder)
  let entry ← PackageManifest.entry? text
  loadAsFile host (folder.join [entry.toList])

/-- The file that stands for a folder: the one that its manifest names, or its
index. -/
def loadAsDirectory (host : ResolutionHost) (folder : Path) : Option Path :=
  if host.directoryExists folder then
    loadByManifest host folder <|>
      loadAsFile host (folder.join ["index".toList])
  else none

def load (host : ResolutionHost) (candidate : Path) : Option Path :=
  loadAsFile host candidate <|> loadAsDirectory host candidate

def manifestsRead (host : ResolutionHost) (candidate : Path) : List Path :=
  if (loadAsFile host candidate).isNone && host.directoryExists candidate then
    [manifestOf candidate]
  else []

/-- The longest of the root directories around a place; of equally long ones the
last. -/
def ownerOf (rootDirs : List Path) (candidate : Path) : Option Path :=
  (rootDirs.filter fun root => root.isWithin candidate).foldl
    (fun owner root =>
      match owner with
      | none => some root
      | some best =>
        if Utf8.byteLength best ≤ Utf8.byteLength root then some root
        else some best)
    none

def mergedPlaces (rootDirs : List Path) (candidate : Path) : List Path :=
  candidate ::
    match ownerOf rootDirs candidate with
    | none => []
    | some owner =>
      (rootDirs.filter (· ≠ owner)).map fun root =>
        root.join [owner.relative candidate]

/-- The places of a bare specifier, in the dependency folders above a containing
file. -/
def dependencyPlaces (host : ResolutionHost) (specifier containing : Path) :
    List Path :=
  (containing.dirname.ancestors.map
    fun dir => dir.join [dependencyFolder]).filter
    host.directoryExists |>.map fun folder => folder.join [specifier]

def isRelative (specifier : Path) : Bool :=
  "./".toList.isPrefixOf specifier || "../".toList.isPrefixOf specifier ||
    specifier = Path.here || specifier = Path.up

/-- The places that a specifier may name, in the order in which they are
tried. -/
def places (rootDirs : List Path) (host : ResolutionHost)
    (specifier containing : Path) :
    List Path :=
  if specifier.isRooted then mergedPlaces rootDirs specifier.normalize
  else if isRelative specifier
    then mergedPlaces rootDirs (containing.dirname.join [specifier])
  else dependencyPlaces host specifier containing

def resolveAmong (host : ResolutionHost) : List Path → Resolution
  | [] => ⟨none, []⟩
  | candidate :: rest =>
    match load host candidate with
    | some file => ⟨some file, manifestsRead host candidate⟩
    | none =>
      let later := resolveAmong host rest
      ⟨later.target, manifestsRead host candidate ++ later.manifests⟩

def resolver (rootDirs : List Path) : ModuleResolver :=
  fun host specifier containing =>
  resolveAmong host (places rootDirs host specifier containing)

end NodeResolution
end BuildHost
