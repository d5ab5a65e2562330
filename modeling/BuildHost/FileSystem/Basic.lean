import BuildHost.FileSystem.Disk
import BuildHost.FileSystem.Memory

/-!
# File systems

The files that a build reads and writes: a tree in memory or one on disk, with
the same operations.
-/

namespace BuildHost

inductive FileSystem where
  | inMemory (tree : MemoryTree)
  | onDisk (disk : Disk)

structure FileStats where
  isFile : Bool
  isDirectory : Bool
deriving DecidableEq, Repr

namespace FileSystem

def isCaseSensitive : FileSystem → Bool
  | inMemory tree => tree.caseSensitive
  | onDisk _ => true

def exists? (fs : FileSystem) (p : Path) : Bool :=
  match fs with
  | inMemory tree => tree.exists? p
  | onDisk disk => disk.exists? p

def isFile (fs : FileSystem) (p : Path) : Bool :=
  match fs with
  | inMemory tree => tree.isFile p
  | onDisk disk => disk.isFile p

def isDirectory (fs : FileSystem) (p : Path) : Bool :=
  match fs with
  | inMemory tree => tree.isDirectory p
  | onDisk disk => disk.isDirectory p

def stat (fs : FileSystem) (p : Path) : Except IoError FileStats :=
  match fs with
  | inMemory tree =>
    if tree.exists? p then .ok ⟨tree.isFile p, tree.isDirectory p⟩
    else .error .pathNotFound
  | onDisk disk => do
    match ← disk.find p with
    | .file _ => return ⟨true, false⟩
    | .folder => return ⟨false, true⟩

def read (fs : FileSystem) (p : Path) : Except IoError String :=
  match fs with
  | inMemory tree => tree.read p
  | onDisk disk => disk.read p

/-- The file system after a reading of the file under the path; only a tree in
memory counts. -/
def countRead (fs : FileSystem) (p : Path) : FileSystem :=
  match fs with
  | inMemory tree => inMemory (tree.countRead p)
  | onDisk disk => onDisk disk

def write (fs : FileSystem) (p : Path) (bytes : ByteArray) :
    Except IoError Unit × FileSystem :=
  match fs with
  | inMemory tree =>
    match tree.write p bytes with
    | .ok tree => (.ok (), inMemory tree)
    | .error fault => (.error fault, fs)
  | onDisk disk =>
    match disk.write p bytes with
    | .ok disk => (.ok (), onDisk disk)
    | .error fault => (.error fault, fs)

def ensureFolder (fs : FileSystem) (p : Path) :
    Except IoError Unit × FileSystem :=
  match fs with
  | inMemory tree =>
    match tree.ensureFolder p with
    | .ok tree => (.ok (), inMemory tree)
    | .error fault => (.error fault, fs)
  | onDisk disk =>
    let (result, disk) := disk.ensureFolder p
    (result, onDisk disk)

end FileSystem
end BuildHost
