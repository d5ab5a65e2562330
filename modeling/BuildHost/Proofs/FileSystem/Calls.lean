import BuildHost.Proofs.FileSystem.Folders
import BuildHost.Proofs.FileSystem.Writing
import BuildHost.Proofs.Path.Containment

/-!
# Trees that calls have filled

A call that fails leaves the tree as it is; one that succeeds makes the folders
on a way up, and most calls put a file as well (`TreeCall.run_cases`).  So after
any calls the directory of every file and of every folder is a folder
(`hasDirectories_afterCalls`), a file can be written into each of them, and a
file holds what was last put under its path (`stored?_afterCalls`).
-/

namespace BuildHost

open BuildHost.Path OrderedMap

/-- The calls that put something into a tree. -/
inductive TreeCall where
  /-- Puts a file, and makes its folders where they are missing. -/
  | addFile (p : Path) (bytes : ByteArray)
  | ensureFolder (p : Path)
  | write (p : Path) (bytes : ByteArray)

namespace TreeCall

variable {tree done : MemoryTree} {call : TreeCall}

def path : TreeCall → Path
  | addFile p _ => p
  | ensureFolder p => p
  | write p _ => p

/-- The contents of the file that is to be put. -/
def bytes? : TreeCall → Option ByteArray
  | addFile _ bytes => some bytes
  | ensureFolder _ => none
  | write _ bytes => some bytes

def run (tree : MemoryTree) : TreeCall → Except IoError Unit × FileSystem
  | addFile p bytes => (.ok (), .inMemory (tree.addFile p bytes))
  | ensureFolder p => FileSystem.ensureFolder (.inMemory tree) p
  | write p bytes => FileSystem.write (.inMemory tree) p bytes

def Succeeds (tree : MemoryTree) (call : TreeCall) : Prop :=
  (call.run tree).1.isOk = true

instance (tree : MemoryTree) (call : TreeCall) :
    Decidable (call.Succeeds tree) :=
  inferInstanceAs (Decidable (_ = _))

/-- What a call puts into the file of a path, which may be spelled in another
way. -/
def puts? (tree : MemoryTree) (p : Path) (call : TreeCall) : Option ByteArray :=
  if call.Succeeds tree ∧ call.path.normalize = p.normalize then call.bytes?
  else none

/-- How a call changes a tree that it succeeds on. -/
inductive Changes (tree : MemoryTree) : TreeCall → MemoryTree → Prop where
  /-- Of a file, the folders above it are made. -/
  | file {call : TreeCall} {bytes : ByteArray} {made : List Path}
      (hbytes : call.bytes? = some bytes)
    (hmade : MemoryTree.Makes tree.folders
      (dirname (tree.key call.path)) made) :
    Changes tree call { tree with
      files := insert (tree.key call.path) bytes tree.files, folders :=
        made ++ tree.folders }
  /-- A folder is made with the folders above it. -/
  | folder {call : TreeCall} {made : List Path} (hbytes : call.bytes? = none)
    (hfile : tree.isFile call.path = false)
    (hmade : MemoryTree.Makes tree.folders (tree.key call.path) made) :
    Changes tree call { tree with folders := made ++ tree.folders }

theorem run_write (tree : MemoryTree) (p : Path) (bytes : ByteArray) :
    run tree (write p bytes)
      = if dirname (tree.key p) ∈ tree.folders then
          (.ok (), .inMemory
            { tree with files := insert (tree.key p) bytes tree.files })
        else (.error (.folderNotFound (dirname (tree.key p))),
          .inMemory tree) := by
  have hcontains : tree.folders.contains (dirname (tree.key p)) = true ↔
      dirname (tree.key p) ∈ tree.folders := List.contains_iff_mem
  by_cases hfolder : dirname (tree.key p) ∈ tree.folders
  · simp only [run, FileSystem.write, MemoryTree.write, if_pos hfolder,
      if_pos (hcontains.2 hfolder)]
  · simp only [run, FileSystem.write, MemoryTree.write, if_neg hfolder,
      if_neg (mt hcontains.1 hfolder)]

theorem succeeds_write_iff {bytes : ByteArray} {p : Path} :
    Succeeds tree (write p bytes) ↔ dirname (tree.key p) ∈ tree.folders := by
  rw [Succeeds, run_write]
  by_cases hfolder : dirname (tree.key p) ∈ tree.folders
  · rw [if_pos hfolder]
    exact iff_of_true rfl hfolder
  · rw [if_neg hfolder]
    exact iff_of_false nofun hfolder

/-- A call fails and changes nothing, or succeeds and changes the tree in one of
two ways. -/
theorem run_cases (tree : MemoryTree) (call : TreeCall) :
    (∃ fault, call.run tree = (.error fault, .inMemory tree)) ∨
      ∃ done, call.run tree = (.ok (), .inMemory done) ∧
        Changes tree call done := by
  cases call with
  | addFile p bytes =>
      rcases MemoryTree.makes_withFolder tree (dirname (tree.key p)) with
        ⟨made, hmade, htree⟩
      refine .inr ⟨tree.addFile p bytes, rfl, ?_⟩
      rw [MemoryTree.addFile]
      simp only [htree]
      exact .file rfl hmade
  | ensureFolder p =>
      cases hfile : tree.isFile p with
      | true =>
          refine .inl ⟨.folderIsFile, ?_⟩
          rw [run, FileSystem.ensureFolder, MemoryTree.ensureFolder,
            if_pos hfile]
      | false =>
          rcases MemoryTree.makes_withFolder tree (tree.key p) with
            ⟨made, hmade, htree⟩
          refine .inr ⟨tree.withFolder (tree.key p), ?_, ?_⟩
          · rw [run, FileSystem.ensureFolder, MemoryTree.ensureFolder,
              if_neg (by simp [hfile])]
          · rw [htree]
            exact .folder rfl hfile hmade
  | write p bytes =>
      rw [run_write]
      by_cases hfolder : dirname (tree.key p) ∈ tree.folders
      · have hmade : MemoryTree.Makes tree.folders (dirname (tree.key p)) [] :=
          .present hfolder
        rw [if_pos hfolder]
        exact .inr ⟨_, rfl,
          @Changes.file tree (write p bytes) bytes [] rfl hmade⟩
      · rw [if_neg hfolder]
        exact .inl ⟨_, rfl⟩

end TreeCall

namespace MemoryTree

variable {tree done middle : MemoryTree} {call : TreeCall} {p dir : Path}
  {root : Root} {front rest : List Path}

def filePaths (tree : MemoryTree) : List Path :=
  tree.files.map (·.1)

/-- The tree that a call leaves behind. -/
def afterCall (tree : MemoryTree) (call : TreeCall) : MemoryTree :=
  match (call.run tree).2 with
  | .inMemory done => done
  | .onDisk _ => tree

def afterCalls (tree : MemoryTree) (calls : List TreeCall) : MemoryTree :=
  calls.foldl afterCall tree

theorem afterCalls_concat (tree : MemoryTree) (calls : List TreeCall)
    (call : TreeCall) :
    tree.afterCalls (calls ++ [call])
      = (tree.afterCalls calls).afterCall call := by
  rw [afterCalls, List.foldl_append]
  rfl

theorem afterCall_cases (tree : MemoryTree) (call : TreeCall) :
    (¬ call.Succeeds tree ∧ tree.afterCall call = tree) ∨
      (call.Succeeds tree ∧ call.Changes tree (tree.afterCall call)) := by
  rcases call.run_cases tree with ⟨fault, hrun⟩ | ⟨done, hrun, hchanges⟩
  · left
    rw [TreeCall.Succeeds, afterCall, hrun]
    exact ⟨nofun, rfl⟩
  · right
    rw [TreeCall.Succeeds, afterCall, hrun]
    exact ⟨rfl, hchanges⟩

/-! ## What is kept -/

/-- Nothing is taken out of a tree. -/
structure Grows (tree done : MemoryTree) : Prop where
  caseSensitive_eq : done.caseSensitive = tree.caseSensitive
  filePaths_subset : tree.filePaths ⊆ done.filePaths
  folders_subset : tree.folders ⊆ done.folders

theorem Grows.refl (tree : MemoryTree) : Grows tree tree :=
  ⟨rfl, fun _ h => h, fun _ h => h⟩

theorem Grows.trans (first : Grows tree middle) (last : Grows middle done) :
    Grows tree done where
  caseSensitive_eq := last.caseSensitive_eq.trans first.caseSensitive_eq
  filePaths_subset :=
    fun _ h => last.filePaths_subset (first.filePaths_subset h)
  folders_subset := fun _ h => last.folders_subset (first.folders_subset h)

theorem grows_of_changes (h : call.Changes tree done) : Grows tree done := by
  cases h with
  | file _ _ =>
      refine ⟨rfl, ?_, List.subset_append_right _ _⟩
      intro file hfile
      exact mem_map_fst_insert.2 (.inr hfile)
  | folder _ _ _ => exact ⟨rfl, fun _ h => h, List.subset_append_right _ _⟩

theorem grows_afterCall (tree : MemoryTree) (call : TreeCall) :
    Grows tree (tree.afterCall call) := by
  rcases afterCall_cases tree call with ⟨-, hsame⟩ | ⟨-, hchanges⟩
  · rw [hsame]
    exact .refl tree
  · exact grows_of_changes hchanges

theorem grows_afterCalls (tree : MemoryTree) (calls : List TreeCall) :
    Grows tree (tree.afterCalls calls) := by
  induction calls generalizing tree with
  | nil => exact .refl tree
  | cons call rest ih => exact (grows_afterCall tree call).trans (ih _)

/-! ## Directories -/

/-- The directories of what is stored are stored as folders. -/
structure HasDirectories (tree : MemoryTree) : Prop where
  root_mem : Root.slash.text ∈ tree.folders
  dirname_file : ∀ file ∈ tree.filePaths, dirname file ∈ tree.folders
  dirname_folder : ∀ folder ∈ tree.folders, dirname folder ∈ tree.folders

theorem hasDirectories_empty (caseSensitive : Bool) :
    HasDirectories (empty caseSensitive) where
  root_mem := List.mem_singleton_self _
  dirname_file := fun _ hfile => absurd hfile List.not_mem_nil
  dirname_folder := by
    intro folder hfolder
    have hself : dirname Root.slash.text = Root.slash.text := by decide
    rw [List.mem_singleton.1 hfolder, hself]
    exact List.mem_singleton_self _

theorem HasDirectories.of_changes (h : HasDirectories tree)
    (hchanges : call.Changes tree done) :
    HasDirectories done := by
  have hkept := (grows_of_changes hchanges).folders_subset
  have hfolders : ∀ {p}, ∀ folder ∈ tree.folders,
      dirname folder ∈ tree.folders ∨ dirname folder = p :=
    fun folder hfolder => .inl (h.dirname_folder folder hfolder)
  cases hchanges with
  | file _ hmade =>
      refine ⟨hkept h.root_mem, ?_, hmade.dirname_mem hfolders⟩
      intro file hfile
      rcases mem_map_fst_insert.1 hfile with rfl | hfile
      · exact hmade.mem
      · exact hkept (h.dirname_file file hfile)
  | folder _ _ hmade =>
      exact ⟨hkept h.root_mem,
        fun file hfile => hkept (h.dirname_file file hfile),
        hmade.dirname_mem hfolders⟩

theorem HasDirectories.afterCalls (h : HasDirectories tree)
    (calls : List TreeCall) :
    HasDirectories (tree.afterCalls calls) := by
  induction calls generalizing tree with
  | nil => exact h
  | cons call rest ih =>
      apply ih
      rcases afterCall_cases tree call with ⟨-, hsame⟩ | ⟨-, hchanges⟩
      · rw [hsame]
        exact h
      · exact h.of_changes hchanges

/-- The folders above a stored folder are stored, unless the way up passes a
folder that is named by a colon. -/
theorem HasDirectories.mem_of_append (h : HasDirectories tree)
    (hplace : IsPlace root (front ++ rest)) (hcolon : [':'] ∉ front ++ rest)
    (hmem : render root (front ++ rest) ∈ tree.folders) :
    render root front ∈ tree.folders := by
  -- from the end, since a directory is reached by leaving out the last segment
  induction rest using List.reverseRecOn with
  | nil => rwa [List.append_nil] at hmem
  | append_singleton rest last ih =>
      rw [← List.append_assoc] at hplace hcolon hmem
      have habove : [':'] ∉ front ++ rest :=
        fun hin => hcolon (List.mem_append_left _ hin)
      have hdir := h.dirname_folder _ hmem
      rw [hplace.dirname_render_eq, if_neg] at hdir
      · exact ih hplace.of_append habove hdir
      · rintro ⟨-, heq⟩
        rw [heq] at habove
        exact habove (List.mem_singleton_self _)

theorem HasDirectories.dirname_key_mem (h : HasDirectories tree)
    (hchanges : call.Changes tree done) :
    dirname (tree.key call.path) ∈ done.folders := by
  have hdone := h.of_changes hchanges
  cases hchanges with
  | file _ hmade => exact hmade.mem
  | folder _ _ hmade => exact hdone.dirname_folder _ hmade.mem

/-- The directories above what a call has put are stored. -/
theorem HasDirectories.mem_of_isBelow (h : HasDirectories tree)
    (hcase : tree.caseSensitive = true) (hchanges : call.Changes tree done)
    (hr : isRooted call.path = true) (hcolon : [':'] ∉ (view call.path).2)
    (hbelow : IsBelow call.path dir) :
    render (view dir).1 (view dir).2 ∈ done.folders := by
  have hdone := h.of_changes hchanges
  have hmem := h.dirname_key_mem hchanges
  have hplace := isPlace_view hr
  rcases hbelow with ⟨rest, hne, hview⟩
  rcases (List.eq_nil_or_concat rest).resolve_left hne with ⟨between, last, rfl⟩
  rw [List.concat_eq_append, ← List.append_assoc] at hview
  have hentry : IsEntryOf call.path
      (render (view dir).1 ((view dir).2 ++ between)) := by
    rw [hview] at hplace
    exact ⟨last, by rw [hplace.of_append.view_render, hview]⟩
  rw [hview] at hplace
  rw [key_of_caseSensitive hcase, hentry.dirname_normalize hr hcolon,
    hplace.of_append.view_render] at hmem
  apply hdone.mem_of_append hplace.of_append _ hmem
  intro hin
  rw [hview] at hcolon
  exact hcolon (List.mem_append_left _ hin)

/-- A folder that a call was made for is stored, and so are the directories
above what a call has put. -/
theorem HasDirectories.mem_of_changes (h : HasDirectories tree)
    (hcase : tree.caseSensitive = true) (hchanges : call.Changes tree done)
    (hr : isRooted call.path = true) (hcolon : [':'] ∉ (view call.path).2)
    (hdir : call = .ensureFolder dir ∨ IsBelow call.path dir) :
    render (view dir).1 (view dir).2 ∈ done.folders := by
  rcases hdir with rfl | hbelow
  · change isRooted dir = true at hr
    cases hchanges with
    | file hbytes _ => cases hbytes
    | folder _ _ hmade =>
        have hmem := hmade.mem
        rw [key_of_caseSensitive hcase] at hmem
        rw [render_view hr]
        exact hmem
  · exact h.mem_of_isBelow hcase hchanges hr hcolon hbelow

/-! ## Contents -/

/-- What calls have last put into the file of a path. -/
def lastPut? (tree : MemoryTree) (p : Path) : List TreeCall → Option ByteArray
  | [] => none
  | call :: rest =>
    ((tree.afterCall call).lastPut? p rest).or (call.puts? tree p)

theorem stored?_afterCall (hcase : tree.caseSensitive = true) (call : TreeCall)
    (p : Path) :
    (tree.afterCall call).stored? p
      = (call.puts? tree p).or (tree.stored? p) := by
  have hkey := key_of_caseSensitive hcase
  rw [TreeCall.puts?]
  rcases afterCall_cases tree call with ⟨hfails, hsame⟩ | ⟨hsucceeds, hchanges⟩
  · rw [hsame, if_neg fun h => hfails h.1, Option.none_or]
  · have hafter := (grows_of_changes hchanges).caseSensitive_eq.trans hcase
    simp only [stored?, key_of_caseSensitive hafter, hkey,
      and_iff_right hsucceeds]
    generalize tree.afterCall call = done at hchanges
    cases hchanges with
    | file hbytes _ =>
        dsimp only
        rw [hbytes, lookup_insert, hkey]
        by_cases hpath : p.normalize = call.path.normalize
        · rw [if_pos hpath, if_pos hpath.symm, Option.some_or]
        · rw [if_neg hpath, if_neg (Ne.symm hpath), Option.none_or]
    | folder hbytes _ _ =>
        rw [hbytes, ite_self, Option.none_or]

theorem stored?_afterCalls (hcase : tree.caseSensitive = true)
    (calls : List TreeCall) (p : Path) :
    (tree.afterCalls calls).stored? p
      = (tree.lastPut? p calls).or (tree.stored? p) := by
  induction calls generalizing tree with
  | nil => rfl
  | cons call rest ih =>
      have hnext := (grows_afterCall tree call).caseSensitive_eq.trans hcase
      have hfirst := stored?_afterCall hcase call p
      rw [lastPut?, Option.or_assoc, ← hfirst]
      exact ih hnext

theorem bytes_eq_ok_iff {bytes : ByteArray} :
    tree.bytes p = .ok bytes ↔ tree.stored? p = some bytes := by
  rw [MemoryTree.bytes, stored?]
  cases tree.files.lookup (tree.key p) with
  | none => exact iff_of_false nofun nofun
  | some content => rw [Except.ok.injEq, Option.some_inj]

/-! ## Trees that were empty -/

/-- After any calls on an empty tree, the directories of all files and folders
are folders.  So a file is written exactly where its directory is a folder; that
is the case for every entry of a folder that a call has made, and of every
directory above what a call has put.  A call that fails changes nothing, and a
file holds what was last put under its path, in any spelling. -/
theorem afterCalls_fills_directories (calls : List TreeCall) :
    let start := MemoryTree.empty true
    let tree := start.afterCalls calls
    HasDirectories tree ∧
      (∀ p bytes, TreeCall.Succeeds tree (.write p bytes) ↔
        dirname p.normalize ∈ tree.folders) ∧
      (∀ before call dir p bytes, before ++ [call] <+: calls →
        call.Succeeds (start.afterCalls before) →
        isRooted call.path = true → [':'] ∉ (view call.path).2 →
        (call = .ensureFolder dir ∨ IsBelow call.path dir) →
        isRooted p = true → [':'] ∉ (view p).2 → IsEntryOf p dir →
        TreeCall.Succeeds tree (.write p bytes)) ∧
      (∀ call fault fs, TreeCall.run tree call = (.error fault, fs) →
        fs = .inMemory tree) ∧
      ∀ p bytes, tree.bytes p = .ok bytes ↔
        start.lastPut? p calls = some bytes := by
  intro start tree
  have hstart : HasDirectories start := hasDirectories_empty true
  have hcase : tree.caseSensitive = true :=
    (grows_afterCalls start calls).caseSensitive_eq
  have hwrite : ∀ p bytes,
      TreeCall.Succeeds tree (.write p bytes) ↔
        dirname p.normalize ∈ tree.folders := by
    intro p bytes
    rw [TreeCall.succeeds_write_iff, key_of_caseSensitive hcase]
  refine ⟨hstart.afterCalls calls, hwrite, ?_, ?_, ?_⟩
  · intro before call dir p bytes hprefix hsucceeds hr hcolon hdir hpr
      hpcolon hentry
    rw [hwrite, hentry.dirname_normalize hpr hpcolon]
    rcases hprefix with ⟨later, rfl⟩
    have hbefore := hstart.afterCalls before
    have hbeforecase := (grows_afterCalls start before).caseSensitive_eq
    have hgrows : Grows (start.afterCalls (before ++ [call])) tree := by
      have hlater := grows_afterCalls
        (start.afterCalls (before ++ [call])) later
      rw [afterCalls, afterCalls, ← List.foldl_append] at hlater
      exact hlater
    apply hgrows.folders_subset
    rw [afterCalls_concat]
    rcases afterCall_cases (start.afterCalls before) call with
      ⟨hfails, -⟩ | ⟨-, hchanges⟩
    · exact absurd hsucceeds hfails
    · exact hbefore.mem_of_changes hbeforecase hchanges hr hcolon hdir
  · intro call fault fs hrun
    rcases call.run_cases tree with ⟨other, hsame⟩ | ⟨done, hdone, -⟩
    · rw [hsame] at hrun
      exact (congrArg Prod.snd hrun).symm
    · rw [hdone] at hrun
      cases hrun
  · intro p bytes
    have hnone : start.stored? p = none := rfl
    rw [bytes_eq_ok_iff, stored?_afterCalls rfl, hnone, Option.or_none]

/-- Two calls put one file, under two spellings of its path, and two fail. -/
theorem afterCalls_fills_directories_twoSpellings :
    let before : List TreeCall := [.write "/a/b/c.ts".toList ⟨#[1]⟩]
    let call : TreeCall := .ensureFolder "/a\\./b/".toList
    let later : List TreeCall := [.write "/a//b/c.ts".toList ⟨#[2]⟩,
      .addFile "/a/x/../b/c.ts".toList ⟨#[3]⟩, .ensureFolder "/a/b/c.ts".toList]
    let start := MemoryTree.empty true
    let tree := start.afterCalls (before ++ call :: later)
    HasDirectories tree ∧ call.Succeeds (start.afterCalls before) ∧
      TreeCall.Succeeds tree (.write "/a/d.ts".toList ⟨#[4]⟩) ∧
      (∃ fault, TreeCall.run tree (.ensureFolder "/a/b/c.ts".toList)
        = (.error fault, .inMemory tree)) ∧
      tree.bytes "/a/b/./c.ts".toList = .ok ⟨#[3]⟩ := by
  intro before call later start tree
  have hprefix : before ++ [call] <+: before ++ call :: later := ⟨later, rfl⟩
  have hsucceeds : call.Succeeds (start.afterCalls before) := by decide
  have hbelow : IsBelow call.path "/a".toList := by decide
  have hentry : IsEntryOf "/a/d.ts".toList "/a".toList :=
    ⟨"d.ts".toList, by decide⟩
  rcases afterCalls_fills_directories (before ++ call :: later) with
    ⟨hdirs, -, hentries, hfails, hbytes⟩
  refine ⟨hdirs, hsucceeds, ?_, ?_, ?_⟩
  · exact hentries before call "/a".toList _ _ hprefix hsucceeds (by decide)
      (by decide) (.inr hbelow) (by decide) (by decide) hentry
  · rcases hrun : TreeCall.run tree (.ensureFolder "/a/b/c.ts".toList) with
      ⟨result, fs⟩
    cases result with
    | ok _ =>
        have hfault : ¬ TreeCall.Succeeds tree
            (.ensureFolder "/a/b/c.ts".toList) := by decide
        rw [TreeCall.Succeeds, hrun] at hfault
        exact absurd rfl hfault
    | error fault =>
        rw [hfails _ _ _ hrun]
        exact ⟨fault, rfl⟩
  · exact (hbytes _ _).2 (by decide)

end MemoryTree
end BuildHost
