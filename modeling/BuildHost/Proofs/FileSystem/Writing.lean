import BuildHost.Build.CodeGeneration
import BuildHost.Proofs.FileSystem.Contents
import BuildHost.Proofs.OrderedMap
import BuildHost.Proofs.Path.View

/-!
# Writing into a tree

A generated file that is written is stored under its path and nowhere else; one
that cannot be written leaves every file as it was, though folders may have been
made for it (`writeGenerated_inMemory`).
-/

namespace BuildHost

open BuildHost.Path OrderedMap

/-! ## Texts as bytes -/

theorem Utf8.decode_toUTF8 (text : String) :
    Utf8.decode text.toUTF8 = .ok text := by
  have hread : String.fromUTF8? text.toUTF8 = some text :=
    dif_pos text.isValidUTF8
  rw [Utf8.decode, hread]

namespace MemoryTree

variable {tree : MemoryTree} {p : Path}

/-- The bytes of the file that is stored under a path. -/
def stored? (tree : MemoryTree) (p : Path) : Option ByteArray :=
  tree.files.lookup (tree.key p)

theorem key_of_caseSensitive (h : tree.caseSensitive = true) (p : Path) :
    tree.key p = p.normalize := by
  rw [key, if_pos h]

theorem key_of_isNormal (h : tree.caseSensitive = true) (hp : IsNormal p) :
    tree.key p = p := by
  rw [key_of_caseSensitive h, hp]

theorem read_of_stored? {text : String}
    (h : tree.stored? p = some text.toUTF8) :
    tree.read p = .ok text := by
  have hbytes : tree.bytes p = .ok text.toUTF8 := by
    unfold bytes
    rw [show tree.files.lookup (tree.key p) = some text.toUTF8 from h]
  show (tree.bytes p
    >>= fun bytes => (Utf8.decode bytes).mapError IoError.notText) = _
  rw [hbytes]
  show (Utf8.decode text.toUTF8).mapError IoError.notText = _
  rw [Utf8.decode_toUTF8]
  rfl

end MemoryTree

/-! ## Writing -/

namespace FileSystem

variable (tree : MemoryTree) (p : Path)

/-- Making a folder changes no file, whether it succeeds or not. -/
theorem ensureFolder_inMemory :
    ∃ result folders,
      ensureFolder (.inMemory tree) p
        = (result, .inMemory { tree with folders := folders }) := by
  unfold ensureFolder MemoryTree.ensureFolder
  dsimp only
  by_cases hfile : tree.isFile p = true
  · rw [if_pos hfile]
    exact ⟨.error .folderIsFile, tree.folders, rfl⟩
  · rw [if_neg hfile]
    exact ⟨.ok (), (tree.withFolder (tree.key p)).folders, rfl⟩

variable {tree p}

theorem write_inMemory (hcase : tree.caseSensitive = true) (hp : IsNormal p)
    (bytes : ByteArray) :
    write (.inMemory tree) p bytes
        = (.ok (), .inMemory { tree with files := insert p bytes tree.files }) ∨
      ∃ fault, write (.inMemory tree) p bytes
        = (.error fault, .inMemory tree) := by
  unfold write MemoryTree.write
  dsimp only
  rw [MemoryTree.key_of_isNormal hcase hp]
  by_cases hfolder : tree.folders.contains p.dirname = true
  · left
    rw [if_pos hfolder]
  · right
    rw [if_neg hfolder]
    exact ⟨.folderNotFound p.dirname, rfl⟩

end FileSystem

/-- A generated file is stored, or else no file changes; folders may be made in
both cases. -/
theorem Build.writeGenerated_inMemory {tree : MemoryTree} {p : Path}
    (hcase : tree.caseSensitive = true) (hp : IsNormal p) (content : String) :
    ∃ folders,
      writeGenerated (.inMemory tree) p content
          = (.ok (), .inMemory
              { tree with
                files := insert p content.toUTF8 tree.files,
                folders := folders }) ∨
        ∃ fault, writeGenerated (.inMemory tree) p content
          = (.error fault, .inMemory { tree with folders := folders }) := by
  rcases FileSystem.ensureFolder_inMemory tree p.dirname with
    ⟨result, folders, hensure⟩
  unfold writeGenerated
  rw [hensure]
  refine ⟨folders, ?_⟩
  cases result with
  | error fault => exact .inr ⟨fault, rfl⟩
  | ok _ =>
      let made : MemoryTree := { tree with folders := folders }
      have hmade : made.caseSensitive = true := hcase
      exact FileSystem.write_inMemory hmade hp content.toUTF8

end BuildHost
