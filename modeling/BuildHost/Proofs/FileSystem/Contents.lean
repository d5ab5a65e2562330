import BuildHost.FileSystem.Basic

/-!
# Readings leave the contents alone

There is nothing to read where no file is (`exists_fault_of_not_isFile`).  A
reading is counted, and that is all that it changes
(`withoutCounts_foldl_countRead`): the same files and folders are there
afterwards, and each file reads the same.
-/

namespace BuildHost

theorem MemoryTree.countRead_eq (tree : MemoryTree) (p : Path) :
    tree.countRead p = { tree with reads := (tree.countRead p).reads } := by
  unfold countRead
  split
  · rfl
  · rfl

namespace FileSystem

/-- There is nothing to read where no file is. -/
theorem exists_fault_of_not_isFile {fs : FileSystem} {p : Path}
    (h : fs.isFile p = false) : ∃ fault, fs.read p = .error fault := by
  cases fs with
  | inMemory tree =>
      have hlookup : tree.files.lookup (tree.key p) = none := by
        simpa [isFile, MemoryTree.isFile] using h
      refine ⟨if tree.folders.contains (tree.key p) then .isFolder
        else .fileNotFound p, ?_⟩
      show tree.read p = _
      unfold MemoryTree.read MemoryTree.bytes
      rw [hlookup]
      rfl
  | onDisk disk =>
      change disk.isFile p = false at h
      show ∃ fault, disk.read p = .error fault
      unfold Disk.isFile at h
      unfold Disk.read
      cases hfound : disk.find p with
      | error fault => exact ⟨fault, rfl⟩
      | ok entry =>
          cases entry with
          | folder => exact ⟨.isDirectory, rfl⟩
          | file bytes => simp [hfound] at h

/-- Two file systems that no question about a path tells apart. -/
structure SameContents (fs other : FileSystem) : Prop where
  isFile_eq : ∀ p, other.isFile p = fs.isFile p
  isDirectory_eq : ∀ p, other.isDirectory p = fs.isDirectory p
  read_eq : ∀ p, other.read p = fs.read p

theorem SameContents.refl (fs : FileSystem) : SameContents fs fs :=
  ⟨fun _ => rfl, fun _ => rfl, fun _ => rfl⟩

theorem SameContents.trans {fs middle other : FileSystem}
    (first : SameContents fs middle) (last : SameContents middle other) :
    SameContents fs other := by
  constructor
  · intro p
    rw [last.isFile_eq, first.isFile_eq]
  · intro p
    rw [last.isDirectory_eq, first.isDirectory_eq]
  · intro p
    rw [last.read_eq, first.read_eq]

/-! ## Counts -/

/-- A file system as it is when readings are not counted. -/
def withoutCounts : FileSystem → FileSystem
  | inMemory tree => inMemory { tree with reads := [] }
  | onDisk disk => onDisk disk

theorem withoutCounts_countRead (fs : FileSystem) (p : Path) :
    (fs.countRead p).withoutCounts = fs.withoutCounts := by
  cases fs with
  | onDisk disk => rfl
  | inMemory tree =>
      show (inMemory (tree.countRead p)).withoutCounts = _
      rw [tree.countRead_eq p]
      rfl

theorem withoutCounts_foldl_countRead (fs : FileSystem) (paths : List Path) :
    (paths.foldl countRead fs).withoutCounts = fs.withoutCounts := by
  induction paths generalizing fs with
  | nil => rfl
  | cons p rest ih =>
      exact (ih (fs.countRead p)).trans (withoutCounts_countRead fs p)

/-- What is a tree but for the counts is that tree, with some counts. -/
theorem exists_reads_of_withoutCounts_eq {fs : FileSystem} {tree : MemoryTree}
    (h : fs.withoutCounts = (inMemory tree).withoutCounts) :
    ∃ reads, fs = inMemory { tree with reads := reads } := by
  cases fs with
  | onDisk disk => cases h
  | inMemory other =>
      rcases other with ⟨caseSensitive, workingFolder, files, folders, reads⟩
      cases h
      exact ⟨reads, rfl⟩

theorem sameContents_of_withoutCounts_eq {fs other : FileSystem}
    (h : other.withoutCounts = fs.withoutCounts) : SameContents fs other := by
  cases fs with
  | inMemory tree =>
      rcases exists_reads_of_withoutCounts_eq h with ⟨reads, rfl⟩
      exact ⟨fun _ => rfl, fun _ => rfl, fun _ => rfl⟩
  | onDisk disk =>
      cases other with
      | inMemory tree => cases h
      | onDisk other =>
          cases h
          exact .refl _

theorem sameContents_foldl_countRead (fs : FileSystem) (paths : List Path) :
    SameContents fs (paths.foldl countRead fs) :=
  sameContents_of_withoutCounts_eq (withoutCounts_foldl_countRead fs paths)

end FileSystem
end BuildHost
