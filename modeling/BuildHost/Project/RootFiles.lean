import BuildHost.FileRole
import BuildHost.Glob.Walk
import BuildHost.Project.Config

/-!
# Root files of a project

The files of the program that a project file describes, in order and each once.
Files listed by path are taken as they are; patterns are looked up on disk, and
leave out what the project file excludes or, when it excludes nothing, what lies
in dependency folders.
-/

namespace BuildHost

inductive ProjectFault where
  /-- The file cannot be read. -/
  | unreadable (path : Path) (source : IoError)
  /-- The file is no project file. -/
  | malformed (path : Path) (source : Json.Fault)
  /-- A pattern of excluded files is faulty. -/
  | excludePattern (pattern : Path) (source : Glob.PatternFault)
  /-- A pattern of included files is faulty. -/
  | includePattern (pattern : Path) (source : Glob.PatternFault)
deriving Repr

def ProjectFault.chain : ProjectFault → List String
  | unreadable path source =>
    ["Failed to read " ++ String.ofList path, source.message]
  | malformed path source =>
    ["Failed to parse " ++ String.ofList path, source.message]
  | excludePattern pattern source =>
    ["Invalid exclude pattern " ++ String.ofList pattern, source.message]
  | includePattern pattern source =>
    ["Invalid include pattern " ++ String.ofList pattern, source.message]

namespace ProjectConfig

def load (disk : Disk) (p : Path) : Except ProjectFault ProjectConfig := do
  let text ← (disk.read p).mapError (.unreadable p)
  (parse text).mapError (.malformed p)

def rootExtensions : List Path := [".ts".toList, ".tsx".toList, ".d.ts".toList]

/-- The pattern of included files: a last name with neither an asterisk nor a
dot is one of a directory, and stands for everything below it. -/
def includePattern (pattern : Path) : Path :=
  let last := (pattern.splitOn Path.separator).getLast?.getD []
  if last.contains '*' || last.contains '.' then pattern
  else pattern ++ "/**/*".toList

/-- The part of a path before its last separator, the part of that before its
last separator, and so on. -/
def textsAbove (p : Path) : List Path :=
  ((Glob.suffixes p.reverse).filter fun suffix =>
    suffix.head? = some Path.separator).map
    fun suffix => suffix.tail.reverse

/-- Whether a path, or a directory above it, is one that the pattern stands
for. -/
def isUnder (pattern : List Glob.Token) (p : Path) : Bool :=
  Glob.accepts pattern p || (textsAbove p).any (Glob.accepts pattern)

def isExcluded (exclude : List (List Glob.Token)) (p : Path) : Bool :=
  if exclude.isEmpty then (Path.cutAt? dependencyMarker p).isSome
  else exclude.any fun pattern => isUnder pattern p

def includedFiles (disk : Disk) (exclude : List (List Glob.Token))
    (pattern : Path) :
    Except ProjectFault (List Path) := do
  let pattern := includePattern pattern
  let found ← (Glob.find disk pattern).mapError (.includePattern pattern)
  return (found.map Path.normalize).filter fun p =>
    rootExtensions.any (·.isSuffixOf p) && !isExcluded exclude p

/-- The patterns of included files: those of the project file or, when it lists
no files either, the one of all files. -/
def includePatterns (config : ProjectConfig) : List String :=
  match config.included, config.files with
  | some patterns, _ => patterns
  | none, some _ => []
  | none, none => ["**/*"]

def excludePattern (pattern : Path) : Except ProjectFault (List Glob.Token) :=
  (Glob.parse pattern).mapError (.excludePattern pattern)

/-- Whether a path comes no later than another, in the order of their
characters' numbers. -/
def precedes : Path → Path → Bool
  | [], _ => true
  | _ :: _, [] => false
  | a :: p, b :: q => if a = b then precedes p q else a.toNat < b.toNat

def sorted (paths : List Path) : List Path :=
  (paths.mergeSort precedes).eraseReps

/-- The root files of the program, for a project file in the directory `dir`.
The patterns of excluded files are not looked at when there is no pattern that
they could restrict. -/
def rootFiles (config : ProjectConfig) (disk : Disk) (dir : Path) :
    Except ProjectFault (List Path) := do
  let dir := dir.normalize
  let read (text : String) : Path := Path.readFrom dir text.toList
  let listed := (config.files.getD []).map read
  if config.included.isNone ∧ config.files.isSome then return sorted listed
  else
    let exclude ← (config.excluded.getD []).mapM fun text =>
        excludePattern (read text)
    let found ← config.includePatterns.mapM fun text =>
        includedFiles disk exclude (read text)
    return sorted (listed ++ found.flatten)

end ProjectConfig
end BuildHost
