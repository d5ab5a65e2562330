import BuildHost.Proofs.FileSystem.Calls
import Mathlib.Data.List.Infix
import Mathlib.Data.List.TakeWhile

/-!
# Files and folders apart

On a disk no path is both a file and a folder, and nothing is stored below a
file.  A tree that calls have filled is so exactly if no call has put a file
where a folder is, and none has put anything below a file
(`hasDistinctKinds_afterCalls_iff`): the tree lets both happen, and no later
call mends it.
-/

namespace BuildHost

open BuildHost.Path OrderedMap

namespace MemoryTree

/-- There is a folder at the path, however the two are spelled. -/
def HasFolderAt (tree : MemoryTree) (p : Path) : Prop :=
  ∃ folder ∈ tree.folders, view folder = view p

/-- There is a file above the path. -/
def HasFileAbove (tree : MemoryTree) (p : Path) : Prop :=
  ∃ file ∈ tree.filePaths, IsBelow p file

instance (tree : MemoryTree) (p : Path) : Decidable (HasFolderAt tree p) :=
  inferInstanceAs (Decidable (∃ folder ∈ tree.folders, _))

instance (tree : MemoryTree) (p : Path) : Decidable (HasFileAbove tree p) :=
  inferInstanceAs (Decidable (∃ file ∈ tree.filePaths, _))

end MemoryTree

/-- The call puts a file where a folder is, or something below a file. -/
def TreeCall.Clashes (tree : MemoryTree) (call : TreeCall) : Prop :=
  call.Succeeds tree ∧
    ((call.bytes?.isSome ∧ tree.HasFolderAt call.path) ∨
      tree.HasFileAbove call.path)

instance (tree : MemoryTree) (call : TreeCall) :
    Decidable (call.Clashes tree) :=
  inferInstanceAs (Decidable (_ ∧ _))

namespace MemoryTree

variable {tree done : MemoryTree} {call : TreeCall} {made : List Path}
  {p : Path}

def Holds (tree : MemoryTree) (p : Path) : Prop :=
  p ∈ tree.filePaths ∨ p ∈ tree.folders

theorem Grows.holds (h : Grows tree done) (hp : tree.Holds p) : done.Holds p :=
  hp.imp (fun hfile => h.filePaths_subset hfile) fun hfolder =>
    h.folders_subset hfolder

/-- No path is a file and a folder, and nothing is stored below a file. -/
structure HasDistinctKinds (tree : MemoryTree) : Prop where
  notMem_folders : ∀ file ∈ tree.filePaths, file ∉ tree.folders
  not_isBelow : ∀ file ∈ tree.filePaths, ∀ entry, tree.Holds entry →
    ¬ IsBelow entry file

theorem HasDistinctKinds.of_grows (h : HasDistinctKinds done)
    (hgrows : Grows tree done) :
    HasDistinctKinds tree where
  notMem_folders file hfile hfolder :=
    h.notMem_folders file (hgrows.filePaths_subset hfile)
      (hgrows.folders_subset hfolder)
  not_isBelow file hfile entry hentry :=
    h.not_isBelow file (hgrows.filePaths_subset hfile) entry
      (hgrows.holds hentry)

/-! ## Places -/

/-- What is stored in a tree that was filled under rooted paths: files in normal
form, and folders that are met on the way up from something. -/
structure HasPlaces (tree : MemoryTree) : Prop extends HasDirectories tree where
  caseSensitive_eq : tree.caseSensitive = true
  file : ∀ file ∈ tree.filePaths, IsNormal file ∧ isRooted file = true
  folder : ∀ folder ∈ tree.folders, folder = here ∨
    (IsTidy folder ∧ isRooted folder = true)
  below : ∀ folder ∈ tree.folders, IsNormal folder ∨
    ∃ entry, tree.Holds entry ∧ IsBelow entry folder

theorem hasPlaces_empty : HasPlaces (empty true) where
  toHasDirectories := hasDirectories_empty true
  caseSensitive_eq := rfl
  file := fun _ hfile => absurd hfile List.not_mem_nil
  folder := by
    intro folder hfolder
    rw [List.mem_singleton.1 hfolder]
    exact .inr ⟨.inl (by decide), by decide⟩
  below := by
    intro folder hfolder
    rw [List.mem_singleton.1 hfolder]
    exact .inl (by decide)

theorem not_contains_here (hr : isRooted p = true) : ¬ Contains p here := by
  rintro ⟨hroot, -⟩
  have hnone : (view here).1.isRooted = false := by decide
  rw [← hroot, isRooted_view hr] at hnone
  cases hnone

theorem HasPlaces.holds (h : HasPlaces tree) (hp : tree.Holds p) :
    p = here ∨ (IsTidy p ∧ isRooted p = true) := by
  rcases hp with hfile | hfolder
  · exact .inr ⟨.inl (h.file p hfile).1, (h.file p hfile).2⟩
  · exact h.folder p hfolder

theorem HasPlaces.hasFolderAt_of_isBelow (h : HasPlaces tree)
    (hr : isRooted p = true) {entry : Path} (hentry : tree.Holds entry)
    (hbelow : IsBelow entry p) : tree.HasFolderAt p := by
  induction hlength : (view entry).2.length using Nat.strongRecOn
    generalizing entry with
  | ind length ih =>
      subst hlength
      have hentry' : IsTidy entry ∧ isRooted entry = true := by
        refine (h.holds hentry).resolve_left ?_
        rintro rfl
        exact not_contains_here hr hbelow.contains
      have hdirname : dirname entry ∈ tree.folders := by
        rcases hentry with hfile | hfolder
        · exact h.dirname_file entry hfile
        · exact h.dirname_folder entry hfolder
      have hne : (view entry).2 ≠ [] := by
        intro hnil
        have hpos := hbelow.length_lt
        rw [hnil] at hpos
        exact Nat.not_lt_zero _ hpos
      have hdirview := (hentry'.1.dirname hentry'.2 hne).2.2
      rcases hbelow with ⟨rest, hrest, hview⟩
      rw [hview, List.dropLast_append_of_ne_nil hrest] at hdirview
      by_cases hnear : rest.dropLast = []
      · rw [hnear, List.append_nil] at hdirview
        exact ⟨dirname entry, hdirname, hdirview⟩
      · have hshorter := (hentry'.1.isBelow_dirname hentry'.2 hne).length_lt
        exact ih _ hshorter (.inr hdirname) ⟨rest.dropLast, hnear, hdirview⟩ rfl

theorem HasPlaces.key_isNormal (h : HasPlaces tree) (hr : isRooted p = true) :
    IsNormal (tree.key p) ∧ isRooted (tree.key p) = true := by
  rw [key_of_caseSensitive h.caseSensitive_eq]
  exact ⟨normalize_normalize p, isRooted_normalize hr⟩

theorem HasPlaces.view_key (h : HasPlaces tree) (p : Path) :
    view (tree.key p) = view p := by
  rw [key_of_caseSensitive h.caseSensitive_eq, view_normalize]

/-! ## What a call adds -/

theorem holds_of_changes (h : call.Changes tree done) :
    done.Holds (tree.key call.path) := by
  cases h with
  | file _ _ => exact .inl (mem_map_fst_insert.2 (.inl rfl))
  | folder _ _ hmade => exact .inr hmade.mem

theorem mem_filePaths_of_changes (h : call.Changes tree done)
    (hp : p ∈ done.filePaths) :
    p ∈ tree.filePaths ∨ (p = tree.key call.path ∧ call.bytes?.isSome) := by
  cases h with
  | file hbytes _ =>
      exact (mem_map_fst_insert.1 hp).symm.imp_right fun heq =>
        ⟨heq, by rw [hbytes]; rfl⟩
  | folder _ _ _ => exact .inl hp

theorem Makes.of_mem {folders : List Path} (h : Makes folders p made) :
    ∀ dir ∈ made, dir ∈ p.ancestors ∧ dir ∉ folders := by
  rw [makes_iff] at h
  subst h
  intro dir hdir
  exact ⟨(List.takeWhile_subset _) hdir,
    by simpa using List.mem_takeWhile_imp hdir⟩

/-- The new folders are above the path of the call, or one of them is made for
it. -/
theorem HasPlaces.mem_folders_of_changes (h : HasPlaces tree)
    (hr : isRooted call.path = true) (hchanges : call.Changes tree done)
    (hp : p ∈ done.folders) :
    p ∈ tree.folders ∨ p = here ∨ (IsTidy p ∧ isRooted p = true ∧
      (IsBelow (tree.key call.path) p ∨
        (p = tree.key call.path ∧ call.bytes? = none ∧
          tree.isFile call.path = false))) := by
  rcases h.key_isNormal hr with ⟨hnormal, hrooted⟩
  cases hchanges with
  | file _ hmade =>
      rcases List.mem_append.1 hp with hnew | hold
      · rcases hmade.of_mem p hnew with ⟨hancestor, hfresh⟩
        have hway := isWayUp_ancestors (dirname (tree.key call.path))
        right
        by_cases htop : dirname (tree.key call.path) = tree.key call.path
        · -- a file under `/`, which is there from the beginning
          have hslash : tree.key call.path = Root.slash.text := by
            refine (dirname_eq_self_iff.1 htop).resolve_right fun hhere => ?_
            rw [hhere] at hrooted
            cases hrooted
          rw [htop, hslash] at hway hancestor
          rw [hway.eq_singleton (by decide), List.mem_singleton] at hancestor
          exact absurd (hancestor ▸ h.root_mem) hfresh
        · have hne : p ≠ tree.key call.path := by
            rintro rfl
            exact hway.notMem htop hancestor
          have habove := (IsWayUp.up htop hway).of_mem (.inl hnormal) hrooted p
            (List.mem_cons_of_mem _ hancestor)
          exact habove.imp_right fun ⟨htidy, hpr, hplace⟩ =>
            ⟨htidy, hpr, .inl (hplace.resolve_left hne)⟩
      · exact .inl hold
  | folder hbytes hfile hmade =>
      rcases List.mem_append.1 hp with hnew | hold
      · right
        have habove := (isWayUp_ancestors _).of_mem (.inl hnormal) hrooted p
          (hmade.of_mem p hnew).1
        refine habove.imp_right fun ⟨htidy, hpr, hplace⟩ => ⟨htidy, hpr, ?_⟩
        exact hplace.symm.imp_right fun heq => ⟨heq, hbytes, hfile⟩
      · exact .inl hold

theorem HasPlaces.of_changes (h : HasPlaces tree)
    (hr : isRooted call.path = true) (hchanges : call.Changes tree done) :
    HasPlaces done := by
  have hgrows := grows_of_changes hchanges
  refine ⟨h.toHasDirectories.of_changes hchanges,
    hgrows.caseSensitive_eq.trans h.caseSensitive_eq, ?_, ?_, ?_⟩
  · intro file hfile
    rcases mem_filePaths_of_changes hchanges hfile with hold | ⟨rfl, -⟩
    · exact h.file file hold
    · exact h.key_isNormal hr
  · intro folder hfolder
    rcases h.mem_folders_of_changes hr hchanges hfolder with
      hold | hhere | ⟨htidy, hfr, -⟩
    · exact h.folder folder hold
    · exact .inl hhere
    · exact .inr ⟨htidy, hfr⟩
  · intro folder hfolder
    rcases h.mem_folders_of_changes hr hchanges hfolder with
      hold | rfl | ⟨-, -, hbelow | ⟨rfl, -, -⟩⟩
    · exact (h.below folder hold).imp_right fun ⟨entry, hentry, hbelow⟩ =>
        ⟨entry, hgrows.holds hentry, hbelow⟩
    · exact .inl (by decide)
    · exact .inr ⟨_, holds_of_changes hchanges, hbelow⟩
    · exact .inl (h.key_isNormal hr).1

theorem HasPlaces.afterCall (h : HasPlaces tree)
    (hr : isRooted call.path = true) :
    HasPlaces (tree.afterCall call) := by
  rcases afterCall_cases tree call with ⟨-, hsame⟩ | ⟨-, hchanges⟩
  · rw [hsame]
    exact h
  · exact h.of_changes hr hchanges

theorem HasPlaces.afterCalls (h : HasPlaces tree) {calls : List TreeCall}
    (hr : ∀ call ∈ calls, isRooted call.path = true) :
    HasPlaces (tree.afterCalls calls) := by
  induction calls generalizing tree with
  | nil => exact h
  | cons call rest ih =>
      rcases List.forall_mem_cons.1 hr with ⟨hcall, hrest⟩
      exact ih (h.afterCall hcall) hrest

/-! ## Clashes -/

/-- A file contains neither a folder, be it the path itself or one below it, nor
another file. -/
theorem HasPlaces.hasDistinctKinds_iff (h : HasPlaces tree) :
    HasDistinctKinds tree ↔ ∀ file ∈ tree.filePaths,
      (∀ folder ∈ tree.folders, ¬ Contains file folder) ∧
        ∀ other ∈ tree.filePaths, ¬ IsBelow other file := by
  constructor
  · intro hkinds file hfile
    refine ⟨?_,
      fun other hother => hkinds.not_isBelow file hfile other (.inl hother)⟩
    intro folder hfolder hcontains
    rcases h.file file hfile with ⟨hnormal, hr⟩
    by_cases hview : view folder = view file
    · rcases h.below folder hfolder with hfolder' | ⟨entry, hentry, hbelow⟩
      · -- two paths in normal form that are read alike are one
        have hfr : isRooted folder = true := by
          rcases h.folder folder hfolder with rfl | ⟨-, hfr⟩
          · exact absurd hcontains (not_contains_here hr)
          · exact hfr
        have heq : file = folder :=
          eq_of_view_eq hnormal hfolder' hr hfr hview.symm
        exact hkinds.notMem_folders file hfile (heq ▸ hfolder)
      · exact hkinds.not_isBelow file hfile entry hentry
          (hbelow.of_contains hcontains)
    · exact hkinds.not_isBelow file hfile folder (.inr hfolder)
        (isBelow_iff.2 ⟨hcontains, hview⟩)
  · intro hkinds
    refine ⟨fun file hfile hfolder =>
      (hkinds file hfile).1 file hfolder (contains_self file), ?_⟩
    intro file hfile entry hentry hbelow
    rcases hentry with hother | hfolder
    · exact (hkinds file hfile).2 entry hother hbelow
    · exact (hkinds file hfile).1 entry hfolder hbelow.contains

theorem HasPlaces.hasFolderAt_of_contains (h : HasPlaces tree)
    (hr : isRooted p = true) {folder : Path} (hfolder : folder ∈ tree.folders)
    (hcontains : Contains p folder) : tree.HasFolderAt p := by
  by_cases hview : view folder = view p
  · exact ⟨folder, hfolder, hview⟩
  · exact h.hasFolderAt_of_isBelow hr (.inr hfolder)
      (isBelow_iff.2 ⟨hcontains, hview⟩)

/-- A call that has clashed has put a file and a folder, or two files, that
contain one another. -/
theorem HasPlaces.not_clashes_of_changes (h : HasPlaces tree)
    (hr : isRooted call.path = true) (hchanges : call.Changes tree done)
    (hkinds : HasDistinctKinds done) : ¬ call.Clashes tree := by
  have hgrows := grows_of_changes hchanges
  have hkey := h.view_key call.path
  rintro ⟨-, ⟨hbytes, folder, hfolder, hview⟩ | ⟨file, hfile, hbelow⟩⟩
  · have hplaces := (h.of_changes hr hchanges).hasDistinctKinds_iff.1 hkinds
    have hfile : tree.key call.path ∈ done.filePaths := by
      cases hchanges with
      | file _ _ => exact mem_map_fst_insert.2 (.inl rfl)
      | folder hnone _ _ =>
          rw [hnone] at hbytes
          cases hbytes
    apply (hplaces _ hfile).1 folder (hgrows.folders_subset hfolder)
    rw [Contains, hkey, hview]
    exact ⟨rfl, List.prefix_rfl⟩
  · apply hkinds.not_isBelow file (hgrows.filePaths_subset hfile) _
      (holds_of_changes hchanges)
    rwa [IsBelow, hkey]

theorem HasPlaces.kept_of_changes (h : HasPlaces tree)
    (hr : isRooted call.path = true) (hchanges : call.Changes tree done)
    (hkinds : HasDistinctKinds tree)
    (hfileAbove : ¬ tree.HasFileAbove call.path) {file : Path}
    (hfile : file ∈ tree.filePaths) :
    (∀ folder ∈ done.folders, ¬ Contains file folder) ∧
      ∀ other ∈ done.filePaths, ¬ IsBelow other file := by
  rcases h.hasDistinctKinds_iff.1 hkinds file hfile with ⟨hfolders, hfiles⟩
  rcases h.key_isNormal hr with ⟨hkey, hkr⟩
  rcases h.file file hfile with ⟨hnormal, hfr⟩
  have habove : ¬ IsBelow (tree.key call.path) file := by
    rw [IsBelow, h.view_key]
    exact fun hbelow => hfileAbove ⟨file, hfile, hbelow⟩
  refine ⟨?_, ?_⟩
  · intro folder hfolder hcontains
    rcases h.mem_folders_of_changes hr hchanges hfolder with
      hold | rfl | ⟨-, -, hbelow | ⟨rfl, -, hfresh⟩⟩
    · exact hfolders folder hold hcontains
    · exact not_contains_here hfr hcontains
    · exact habove (hbelow.of_contains hcontains)
    · by_cases hview : view (tree.key call.path) = view file
      · -- a folder is not made where a file is
        obtain rfl : file = tree.key call.path :=
          eq_of_view_eq hnormal hkey hfr hkr hview.symm
        rw [isFile, isSome_lookup_iff.2 hfile] at hfresh
        cases hfresh
      · exact habove (isBelow_iff.2 ⟨hcontains, hview⟩)
  · intro other hother
    rcases mem_filePaths_of_changes hchanges hother with hold | ⟨rfl, -⟩
    · exact hfiles other hold
    · exact habove

theorem HasPlaces.put_of_changes (h : HasPlaces tree)
    (hr : isRooted call.path = true) (hchanges : call.Changes tree done)
    (hbytes : call.bytes?.isSome) (hfolderAt : ¬ tree.HasFolderAt call.path) :
    (∀ folder ∈ done.folders, ¬ Contains (tree.key call.path) folder) ∧
      ∀ other ∈ done.filePaths, ¬ IsBelow other (tree.key call.path) := by
  have hkr := (h.key_isNormal hr).2
  have hself : ¬ IsBelow (tree.key call.path)
      (tree.key call.path) := fun hbelow =>
    Nat.lt_irrefl _ hbelow.length_lt
  have hat : ¬ tree.HasFolderAt (tree.key call.path) := by
    rwa [HasFolderAt, h.view_key]
  refine ⟨?_, ?_⟩
  · intro folder hfolder hcontains
    rcases h.mem_folders_of_changes hr hchanges hfolder with
      hold | rfl | ⟨-, -, hbelow | ⟨-, hnone, -⟩⟩
    · exact hat (h.hasFolderAt_of_contains hkr hold hcontains)
    · exact not_contains_here hkr hcontains
    · exact hself (hbelow.of_contains hcontains)
    · rw [hnone] at hbytes
      cases hbytes
  · intro other hother hbelow
    rcases mem_filePaths_of_changes hchanges hother with hold | ⟨rfl, -⟩
    · exact hat (h.hasFolderAt_of_isBelow hkr (.inl hold) hbelow)
    · exact hself hbelow

theorem HasPlaces.hasDistinctKinds_afterCall_iff (h : HasPlaces tree)
    (hr : isRooted call.path = true) :
    HasDistinctKinds (tree.afterCall call) ↔
      HasDistinctKinds tree ∧ ¬ call.Clashes tree := by
  rcases afterCall_cases tree call with ⟨hfails, hsame⟩ | ⟨hsucceeds, hchanges⟩
  · rw [hsame]
    exact (and_iff_left fun hclash => hfails hclash.1).symm
  constructor
  · intro hkinds
    exact ⟨hkinds.of_grows (grows_of_changes hchanges),
      h.not_clashes_of_changes hr hchanges hkinds⟩
  · rintro ⟨hkinds, hclash⟩
    refine (h.of_changes hr hchanges).hasDistinctKinds_iff.2
      fun file hfile => ?_
    rcases mem_filePaths_of_changes hchanges hfile with hold | ⟨rfl, hbytes⟩
    · exact h.kept_of_changes hr hchanges hkinds
        (fun habove => hclash ⟨hsucceeds, .inr habove⟩) hold
    · exact h.put_of_changes hr hchanges hbytes fun hat =>
        hclash ⟨hsucceeds, .inl ⟨hbytes, hat⟩⟩

/-- After calls on an empty tree files and folders are apart exactly if none of
the calls has clashed with what was there before it. -/
theorem hasDistinctKinds_afterCalls_iff {calls : List TreeCall}
    (hr : ∀ call ∈ calls, isRooted call.path = true) :
    HasDistinctKinds ((empty true).afterCalls calls) ↔
      ∀ before call, before ++ [call] <+: calls →
        ¬ call.Clashes ((empty true).afterCalls before) := by
  -- from the end, since each call meets the tree that all calls before it have
  -- left
  induction calls using List.reverseRecOn with
  | nil =>
      refine iff_of_true ⟨fun _ hfile => absurd hfile List.not_mem_nil,
        fun _ hfile => absurd hfile List.not_mem_nil⟩ ?_
      intro before call hprefix
      exact absurd (List.prefix_nil.1 hprefix) (by simp)
  | append_singleton calls last ih =>
      have hrcalls : ∀ call ∈ calls,
          isRooted call.path = true := fun call hcall =>
        hr call (List.mem_append_left _ hcall)
      have hrlast := hr last
        (List.mem_append_right _ (List.mem_singleton_self last))
      rw [afterCalls_concat,
        (hasPlaces_empty.afterCalls hrcalls).hasDistinctKinds_afterCall_iff
          hrlast,
        ih hrcalls]
      constructor
      · rintro ⟨hbefore, hlast⟩ before call hprefix
        rcases List.prefix_concat_iff.1 hprefix with heq | hprefix
        · rcases List.append_inj' heq rfl with ⟨rfl, hcall⟩
          obtain rfl : call = last := List.singleton_inj.1 hcall
          exact hlast
        · exact hbefore before call hprefix
      · intro hclash
        refine ⟨fun before call hprefix => hclash before call ?_,
          hclash calls last List.prefix_rfl⟩
        exact hprefix.trans (List.prefix_append calls [last])

/-- A file is written, and then neither a folder at its path nor a file below it
is made: both calls fail. -/
theorem hasDistinctKinds_afterCalls_iff_aroundFile :
    let calls : List TreeCall :=
      [.ensureFolder "/a/b".toList, .write "/a\\b/c.ts".toList ⟨#[1]⟩,
        .ensureFolder "/a/b/./c.ts".toList,
        .write "/a/b/c.ts/d.ts".toList ⟨#[2]⟩]
    let tree := (empty true).afterCalls calls
    (∀ call ∈ calls, isRooted call.path = true) ∧
      (∀ before call, before ++ [call] <+: calls →
        ¬ call.Clashes ((empty true).afterCalls before)) ∧
      HasDistinctKinds tree := by
  intro calls tree
  have hr : ∀ call ∈ calls, isRooted call.path = true := by decide
  have hclash : ∀ front ∈ calls.inits, ∀ call ∈ front.getLast?,
      ¬ call.Clashes ((empty true).afterCalls front.dropLast) := by decide
  have hkinds : ∀ before call, before ++ [call] <+: calls →
      ¬ call.Clashes ((empty true).afterCalls before) := by
    intro before call hprefix
    have hcall := hclash _ ((List.mem_inits _ _).2 hprefix) call
      List.getLast?_concat
    rwa [List.dropLast_concat] at hcall
  exact ⟨hr, hkinds, (hasDistinctKinds_afterCalls_iff hr).2 hkinds⟩

/-- A folder below a file is made, and the file becomes a folder as well; and a
file is written where a folder is. -/
theorem hasDistinctKinds_afterCalls_ne :
    let below : List TreeCall :=
      [.write "/a".toList ⟨#[1]⟩, .ensureFolder "/a/b".toList]
    let same : List TreeCall :=
      [.ensureFolder "/a".toList, .write "/a".toList ⟨#[1]⟩]
    (∀ call ∈ below ++ same, isRooted call.path = true) ∧
      "/a".toList ∈ ((empty true).afterCalls below).filePaths ∧
      "/a".toList ∈ ((empty true).afterCalls below).folders ∧
      "/a/b".toList ∈ ((empty true).afterCalls below).folders ∧
      ¬ HasDistinctKinds ((empty true).afterCalls below) ∧
      ¬ HasDistinctKinds ((empty true).afterCalls same) := by
  intro below same
  refine ⟨by decide, by decide, by decide, by decide, ?_, ?_⟩
  · intro h
    exact h.notMem_folders "/a".toList (by decide) (by decide)
  · intro h
    exact h.notMem_folders "/a".toList (by decide) (by decide)

end MemoryTree
end BuildHost
