import BuildHost.Proofs.FileSystem.Disk
import BuildHost.Proofs.Path.Relative
import Mathlib.Data.List.Induction

/-!
# Trees of files

In a tree entries have names that a path can spell, and lie in folders.  So
every entry is reached from each folder around it (`IsTree.followNames`), along
the segments of its path (`follow_render_eq_ok_iff`).
-/

namespace BuildHost
namespace Disk

open BuildHost.Path

variable {disk : Disk} {location last : DiskLocation} {name : Path}

/-! ## Trees -/

/-- A name that an entry of a tree can have. -/
structure IsEntryName (name : Path) : Prop extends IsPlain name where
  zero_notMem : '\x00' ∉ name
  length_le : Utf8.byteLength name ≤ maximalNameLength

theorem isEntryName_iff :
    IsEntryName name ↔
      IsPlain name ∧ '\x00' ∉ name ∧
      Utf8.byteLength name ≤ maximalNameLength := by
  constructor
  · exact fun h => ⟨h.toIsPlain, h.zero_notMem, h.length_le⟩
  · exact fun ⟨hplain, hzero, hlength⟩ => ⟨hplain, hzero, hlength⟩

instance (name : Path) : Decidable (IsEntryName name) :=
  decidable_of_iff _ isEntryName_iff.symm

/-- Entries have names, and lie in folders. -/
structure IsTree (disk : Disk) : Prop where
  isEntryName : ∀ location ∈ disk.entries.map (·.1), ∀ name ∈ location,
    IsEntryName name
  isFolderAt : ∀ location ∈ disk.entries.map (·.1),
    disk.isFolderAt location.dropLast = true

theorem isTree_iff :
    disk.IsTree ↔ (∀ location ∈ disk.entries.map (·.1), ∀ name ∈ location,
      IsEntryName name) ∧
      ∀ location ∈ disk.entries.map (·.1), disk.isFolderAt location.dropLast
        = true := by
  constructor
  · exact fun h => ⟨h.isEntryName, h.isFolderAt⟩
  · exact fun ⟨hnames, hfolders⟩ => ⟨hnames, hfolders⟩

instance (disk : Disk) : Decidable disk.IsTree :=
  decidable_of_iff _ isTree_iff.symm

theorem followName_of_isEntryName (h : disk.isFolderAt location = true)
    (hname : IsEntryName name) :
    disk.followName location name = .ok (location ++ [name]) := by
  have hstays : ¬ (name = [] ∨ name = here) := by
    rintro (hnil | hhere)
    · exact hname.ne_nil hnil
    · exact hname.ne_here hhere
  rw [followName, isFolderAt_iff.1 h]
  dsimp only
  rw [if_neg hstays, if_neg hname.ne_up, if_neg (Nat.not_lt.2 hname.length_le)]

/-- In a tree every entry is reached from each folder around it. -/
theorem IsTree.followNames (htree : disk.IsTree) {way : List Path}
    (h : location ++ way ∈ disk.entries.map (·.1)) :
    disk.followNames location way = .ok (location ++ way) := by
  induction way using List.reverseRecOn with
  | nil =>
      rw [List.append_nil]
      rfl
  | append_singleton front name ih =>
      rw [← List.append_assoc] at h ⊢
      have hfolder := htree.isFolderAt _ h
      rw [List.dropLast_concat] at hfolder
      have hname : IsEntryName name :=
        htree.isEntryName _ h name (List.mem_append_right _ List.mem_cons_self)
      have hfront : disk.followNames location front
          = .ok (location ++ front) := by
        by_cases hnil : location ++ front = []
        · rw [(List.append_eq_nil_iff.1 hnil).1,
            (List.append_eq_nil_iff.1 hnil).2]
          rfl
        · exact ih
            ((isSome_entry?_iff hnil).1 (isSome_entry?_of_isFolderAt hfolder))
      refine followNames_append_eq_ok_iff.2 ⟨location ++ front, hfront, ?_⟩
      exact followNames_cons_eq_ok_iff.2
        ⟨_, followName_of_isEntryName hfolder hname, rfl⟩

/-! ## Places -/

/-- The folder in which the first segment at a root is looked for: a drive is a
name among others. -/
def startAt (disk : Disk) : Root → DiskLocation
  | .slash => []
  | _ => disk.workingFolder

theorem moves_namesOf_render {root : Root} {segments : List Path}
    (h : IsPlace root segments) :
    moves (namesOf (render root segments)) = root.segments ++ segments := by
  have hsegments : moves (([separator].intercalate segments).splitOn separator)
      = segments := by
    by_cases hne : segments = []
    · rw [hne]
      rfl
    · rw [List.splitOn_intercalate separator
        (separator_notMem_of_isPlain h.isPlain) hne, moves_of_isPlain h.isPlain]
  rw [render_of_isRooted h.isRooted, namesOf]
  cases root with
  | none => cases h.isRooted
  | slash =>
      have htext : Root.slash.text ++ [separator].intercalate segments
          = [] ++ separator :: [separator].intercalate segments := rfl
      rw [htext, List.splitOn_append_cons_self, moves_append, hsegments]
      rfl
  | drive letter =>
      have htext : (Root.drive letter).text ++ [separator].intercalate segments
          = [letter, ':'] ++ separator :: [separator].intercalate segments :=
        rfl
      have hdrive := Root.isPlain_segments h.isReadable
      have hsep : separator ∉ [letter, ':'] :=
        (hdrive _ List.mem_cons_self).separator_notMem
      rw [htext, List.splitOn_append_cons_self, moves_append, hsegments,
        List.splitOn_eq_singleton hsep]
      exact congrArg (· ++ segments) (moves_of_isPlain hdrive)

theorem followNames_namesOf_render {root : Root} {segments : List Path}
    (h : IsPlace root segments) (hne : segments ≠ []) :
    disk.followNames (disk.startOf (render root segments))
      (namesOf (render root segments))
      = disk.followNames (disk.startAt root) (root.segments ++ segments) := by
  have hsegments := List.splitOn_intercalate separator
    (separator_notMem_of_isPlain h.isPlain) hne
  rw [render_of_isRooted h.isRooted, namesOf]
  cases root with
  | none => cases h.isRooted
  | slash =>
      have htext : Root.slash.text ++ [separator].intercalate segments
          = [] ++ separator :: [separator].intercalate segments := rfl
      rw [htext, List.splitOn_append_cons_self, hsegments]
      rfl
  | drive letter =>
      have htext : (Root.drive letter).text ++ [separator].intercalate segments
          = [letter, ':'] ++ separator :: [separator].intercalate segments :=
        rfl
      have hsep : separator ∉ [letter, ':'] :=
        (Root.isPlain_segments h.isReadable _
          List.mem_cons_self).separator_notMem
      have hstart : disk.startOf
          ([letter, ':'] ++ separator :: [separator].intercalate segments)
          = disk.workingFolder := by
        rw [startOf]
        apply if_neg
        intro heq
        exact hsep (List.mem_cons.2 (.inl (Option.some.inj heq).symm))
      rw [htext, hstart, List.splitOn_append_cons_self, hsegments,
        List.splitOn_eq_singleton hsep]
      rfl

/-- A path in normal form is followed along the segments that it is read
with. -/
theorem follow_render_eq_ok_iff {root : Root} {segments : List Path}
    (h : IsPlace root segments) (hne : segments ≠ []) :
    disk.follow (render root segments) = .ok last ↔
      (∀ s ∈ root.segments ++ segments, '\x00' ∉ s) ∧
        disk.followNames (disk.startAt root) (root.segments ++ segments)
          = .ok last := by
  rw [← followNames_namesOf_render h hne, ← moves_namesOf_render h, 
    ← notMem_iff (by decide) (by decide)]
  constructor
  · intro hfollow
    rcases of_follow_eq_ok hfollow with ⟨hzero, _, hnames⟩
    exact ⟨hzero, hnames⟩
  · rintro ⟨hzero, hnames⟩
    have hrender : render root segments ≠ [] := by
      intro hnil
      have hmoves := moves_namesOf_render h
      rw [hnil] at hmoves
      exact hne (List.append_eq_nil_iff.1 hmoves.symm).2
    rw [follow_eq hzero hrender]
    exact hnames

end Disk
end BuildHost
