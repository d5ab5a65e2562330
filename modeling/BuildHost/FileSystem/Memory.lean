import BuildHost.FileSystem.IoError
import BuildHost.OrderedMap
import BuildHost.Unicode.LowerCase

/-!
# Files in memory

A tree of files and folders that is stored by path: a file or a folder is known
under the normal form of its path, in lower case when the tree does not tell
cases apart.  A file and a folder may be stored under one path; the file is then
seen first.  Every reading of a file is counted.
-/

namespace BuildHost

structure MemoryTree where
  caseSensitive : Bool
  /-- The folder that a program would run in. -/
  workingFolder : Path
  files : List (Path × ByteArray)
  folders : List Path
  /-- How often each file was read. -/
  reads : List (Path × Nat)

namespace MemoryTree

def empty (caseSensitive : Bool) : MemoryTree where
  caseSensitive := caseSensitive
  workingFolder := Path.Root.slash.text
  files := []
  folders := [Path.Root.slash.text]
  reads := []

def key (tree : MemoryTree) (p : Path) : Path :=
  if tree.caseSensitive then p.normalize else Unicode.lower p.normalize

def isFile (tree : MemoryTree) (p : Path) : Bool :=
  (tree.files.lookup (tree.key p)).isSome

def isDirectory (tree : MemoryTree) (p : Path) : Bool :=
  !tree.isFile p && tree.folders.contains (tree.key p)

def exists? (tree : MemoryTree) (p : Path) : Bool :=
  tree.isFile p || tree.folders.contains (tree.key p)

def bytes (tree : MemoryTree) (p : Path) : Except IoError ByteArray :=
  match tree.files.lookup (tree.key p) with
  | some bytes => .ok bytes
  | none =>
    .error (if tree.folders.contains (tree.key p) then .isFolder
      else .fileNotFound p)

def read (tree : MemoryTree) (p : Path) : Except IoError String := do
  (Utf8.decode (← tree.bytes p)).mapError .notText

def countRead (tree : MemoryTree) (p : Path) : MemoryTree :=
  if tree.isFile p then
    let key := tree.key p
    { tree with
      reads :=
        OrderedMap.insert key ((tree.reads.lookup key).getD 0 + 1) tree.reads }
  else tree

def readCount (tree : MemoryTree) (p : Path) : Nat :=
  (tree.reads.lookup (tree.key p)).getD 0

def totalReads (tree : MemoryTree) : Nat :=
  tree.reads.foldl (fun total entry => total + entry.2) 0

/-- The tree with a folder and the folders above it, up to one that is there
already. -/
def withFolder (tree : MemoryTree) (folder : Path) : MemoryTree :=
  let missing := folder.ancestors.takeWhile fun p => !tree.folders.contains p
  { tree with folders := missing ++ tree.folders }

/-- The tree with a file, whose folders are made when they are missing. -/
def addFile (tree : MemoryTree) (p : Path) (bytes : ByteArray) : MemoryTree :=
  let key := tree.key p
  let tree := tree.withFolder key.dirname
  { tree with files := OrderedMap.insert key bytes tree.files }

def write (tree : MemoryTree) (p : Path) (bytes : ByteArray) :
    Except IoError MemoryTree :=
  let key := tree.key p
  if tree.folders.contains key.dirname then
    .ok { tree with files := OrderedMap.insert key bytes tree.files }
  else .error (.folderNotFound key.dirname)

/-- Makes a folder and the folders above it, unless a file is stored under the
path. -/
def ensureFolder (tree : MemoryTree) (p : Path) : Except IoError MemoryTree :=
  if tree.isFile p then .error .folderIsFile
  else .ok (tree.withFolder (tree.key p))

end MemoryTree
end BuildHost
