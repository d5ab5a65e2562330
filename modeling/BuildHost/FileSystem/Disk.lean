import BuildHost.FileSystem.IoError
import BuildHost.OrderedMap

/-!
# Files on disk

A tree of files and folders in which a path is followed name by name: `.` stays,
`..` climbs, every name but the last must be one of a folder, and a path that
ends in a separator names a folder.  Names are told apart by case.
-/

namespace BuildHost

inductive DiskEntry where
  | file (bytes : ByteArray)
  | folder

/-- Where an entry lies: the names on the way from the root folder. -/
abbrev DiskLocation := List Path

/-- Files and folders by their location; the root folder is always there. -/
structure Disk where
  entries : List (DiskLocation × DiskEntry)
  /-- The folder from which relative paths are followed. -/
  workingFolder : DiskLocation

namespace Disk

def entry? (disk : Disk) (location : DiskLocation) : Option DiskEntry :=
  if location = [] then some .folder else disk.entries.lookup location

def isFolderAt (disk : Disk) (location : DiskLocation) : Bool :=
  match disk.entry? location with
  | some .folder => true
  | _ => false

def maximalNameLength : Nat := 255

def followName (disk : Disk) (location : DiskLocation) (name : Path) :
    Except IoError DiskLocation :=
  match disk.entry? location with
  | none => .error .noEntry
  | some (.file _) => .error .notDirectory
  | some .folder =>
    if name = [] ∨ name = Path.here then .ok location
    else if name = Path.up then .ok location.dropLast
    else if maximalNameLength < Utf8.byteLength name then .error .nameTooLong
    else .ok (location ++ [name])

def startOf (disk : Disk) (p : Path) : DiskLocation :=
  if p.head? = some Path.separator then [] else disk.workingFolder

/-- The names of a path; empty names stand for doubled separators. -/
def namesOf (p : Path) : List Path := p.splitOn Path.separator

/-- The location that a path leads to, whether there is an entry or not. -/
def follow (disk : Disk) (p : Path) : Except IoError DiskLocation :=
  if p.contains '\x00' then .error .zeroInPath
  else if p = [] then .error .noEntry
  else (namesOf p).foldlM disk.followName (disk.startOf p)

def find (disk : Disk) (p : Path) : Except IoError DiskEntry := do
  let location ← disk.follow p
  match disk.entry? location with
  | some entry => return entry
  | none => throw .noEntry

def isFile (disk : Disk) (p : Path) : Bool :=
  match disk.find p with
  | .ok (.file _) => true
  | _ => false

def isDirectory (disk : Disk) (p : Path) : Bool :=
  match disk.find p with
  | .ok .folder => true
  | _ => false

def exists? (disk : Disk) (p : Path) : Bool :=
  (disk.find p).toBool

def read (disk : Disk) (p : Path) : Except IoError String := do
  match ← disk.find p with
  | .folder => throw .isDirectory
  | .file bytes => (Utf8.decode bytes).mapError fun _ => .notTextStream

/-- What lies below the folder that a path leads to, at any depth: the names on
the way from there. -/
def below (disk : Disk) (p : Path) : List (List Path) :=
  match disk.follow p with
  | .ok folder =>
    disk.entries.filterMap fun entry =>
      (folder.isPrefixOf? entry.1).filter (· ≠ [])
  | .error _ => []

/-- The names of the entries in the folder that a path leads to. -/
def names (disk : Disk) (p : Path) : List Path :=
  (disk.below p).filterMap fun way =>
    match way with
    | [name] => some name
    | _ => none

def namesToMake (p : Path) : List Path := namesOf (Path.dropTrailing p)

/-- The location at which a file or a folder is to be made; the folder around it
is there. -/
def followToMake (disk : Disk) (p : Path) : Except IoError DiskLocation :=
  if p.contains '\x00' then .error .zeroInPath
  else if p = [] then .error .noEntry
  else (namesToMake p).foldlM disk.followName (disk.startOf p)

/-- Whether a path can only be one of a folder: it ends in a separator, in `.`
or in `..`. -/
def namesFolder (p : Path) : Bool :=
  match (namesOf p).getLast? with
  | none => true
  | some name => name = [] || name = Path.here || name = Path.up

def write (disk : Disk) (p : Path) (bytes : ByteArray) :
    Except IoError Disk := do
  let location ← disk.followToMake p
  if namesFolder p || disk.isFolderAt location then throw .isDirectory
  else return { disk with
    entries := OrderedMap.insert location (.file bytes) disk.entries }

def makeFolder (disk : Disk) (p : Path) : Except IoError Disk := do
  let location ← disk.followToMake p
  if (disk.entry? location).isSome then throw .alreadyExists
  else return { disk with entries := disk.entries ++ [(location, .folder)] }

/-- The parts of a path that folders are made for: its names, and a root or a
`.` before them. -/
def partsOf (p : Path) : List Path :=
  let names := (namesOf p).filter fun name => name ≠ [] ∧ name ≠ Path.here
  if p.head? = some Path.separator then Path.Root.slash.text :: names
  else if (namesOf p).head? = some Path.here then Path.here :: names
  else names

def pathOf : List Path → Path
  | [] => []
  | first :: rest =>
    if first = Path.Root.slash.text
      then first ++ [Path.separator].intercalate rest
    else [Path.separator].intercalate (first :: rest)

/-- The path itself and the paths of the folders around it, innermost first;
neither the root nor the folder that relative paths start from is one of
them. -/
def foldersAround (p : Path) : List Path :=
  let parts := partsOf p
  let least := if parts.head? = some Path.Root.slash.text then 2 else 1
  if parts.length < least then []
  else
    p :: ((List.range (parts.length - least)).map
      fun n => pathOf (parts.take (least + n))).reverse

/-- Makes folders where none are yet, outermost first; those made before a fault
stay. -/
def makeFolders (disk : Disk) : List Path → Except IoError Unit × Disk
  | [] => (.ok (), disk)
  | p :: rest =>
    match disk.makeFolder p with
    | .ok disk => makeFolders disk rest
    | .error fault =>
      if fault = .alreadyExists ∧ disk.isDirectory p then makeFolders disk rest
      else (.error fault, disk)

/-- Looks for the innermost path that a folder is at or can be made at;
`missing` holds the paths inside it, which lack a folder around them. -/
def ensureFrom (disk : Disk) (missing : List Path) :
    List Path → Except IoError Unit × Disk
  | [] => disk.makeFolders missing
  | p :: outer =>
    match disk.makeFolder p with
    | .ok disk => disk.makeFolders missing
    | .error fault =>
      if fault = .noEntry then ensureFrom disk (p :: missing) outer
      else if fault = .alreadyExists ∧ disk.isDirectory p then
        disk.makeFolders missing
      else (.error fault, disk)

/-- Makes the folder that a path names, and the folders around it. -/
def ensureFolder (disk : Disk) (p : Path) : Except IoError Unit × Disk :=
  disk.ensureFrom [] (foldersAround p)

/-- A disk with the folder at a location and those around it, and no files. -/
def withFolderAt (location : DiskLocation) : Disk where
  entries := (List.range location.length).map fun n =>
    (location.take (n + 1), .folder)
  workingFolder := location

end Disk
end BuildHost
