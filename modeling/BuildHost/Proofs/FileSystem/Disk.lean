import BuildHost.Glob.Walk
import BuildHost.Proofs.OrderedMap
import BuildHost.Proofs.Path.Join

/-!
# Following paths on a disk

A path is followed name by name, and each name but the last has to be one of a
folder.  So where a path leads, a path with one more name leads one step further
(`follow_child`), and empty names and dots do not matter on the way to a folder
(`followNames_of_moves`).
-/

namespace BuildHost
namespace Disk

open BuildHost.Path

variable {disk : Disk} {location middle last : DiskLocation} {name : Path}

/-! ## One name -/

theorem isFolderAt_iff :
    disk.isFolderAt location = true ↔ disk.entry? location = some .folder := by
  unfold isFolderAt
  split
  next h => simp [h]
  next h =>
    constructor
    · intro hfalse
      cases hfalse
    · intro hfolder
      exact absurd hfolder h

theorem isFolderAt_of_followName
    (h : disk.followName location name = .ok middle) :
    disk.isFolderAt location = true := by
  unfold followName at h
  split at h
  next => cases h
  next => cases h
  next hfolder => exact isFolderAt_iff.2 hfolder

theorem eq_append_of_followName (h : disk.followName location name = .ok middle)
    (hname : IsEntered name) :
    middle = location ++ [name] := by
  have hblank : ¬ (name = [] ∨ name = here) := by
    rintro (hnil | hhere)
    · exact hname.ne_nil hnil
    · exact hname.ne_here hhere
  rw [followName, isFolderAt_iff.1 (isFolderAt_of_followName h)] at h
  dsimp only at h
  rw [if_neg hblank, if_neg hname.ne_up] at h
  split at h
  · cases h
  · cases h
    rfl

/-! ## Several names -/

/-- Follows names one after the other. -/
def followNames (disk : Disk) (location : DiskLocation) (names : List Path) :
    Except IoError DiskLocation :=
  names.foldlM disk.followName location

theorem followNames_cons_eq_ok_iff {names : List Path} :
    disk.followNames location (name :: names) = .ok last ↔
      ∃ middle, disk.followName location name = .ok middle ∧
        disk.followNames middle names = .ok last := by
  unfold followNames
  rw [List.foldlM_cons]
  cases h : disk.followName location name with
  | error fault =>
      constructor
      · intro hfault
        cases hfault
      · rintro ⟨middle, hmiddle, _⟩
        cases hmiddle
  | ok middle =>
      constructor
      · exact fun hlast => ⟨middle, rfl, hlast⟩
      · rintro ⟨other, hother, hlast⟩
        cases hother
        exact hlast

theorem followNames_append_eq_ok_iff {names others : List Path} :
    disk.followNames location (names ++ others) = .ok last ↔
      ∃ middle, disk.followNames location names = .ok middle ∧
        disk.followNames middle others = .ok last := by
  induction names generalizing location with
  | nil =>
      constructor
      · exact fun h => ⟨location, rfl, h⟩
      · rintro ⟨middle, hmiddle, h⟩
        cases hmiddle
        exact h
  | cons name rest ih =>
      rw [List.cons_append, followNames_cons_eq_ok_iff]
      constructor
      · rintro ⟨next, hnext, h⟩
        rcases ih.1 h with ⟨middle, hrest, hothers⟩
        exact ⟨middle, followNames_cons_eq_ok_iff.2 ⟨next, hnext, hrest⟩,
          hothers⟩
      · rintro ⟨middle, hnames, hothers⟩
        rcases followNames_cons_eq_ok_iff.1 hnames with ⟨next, hnext, hrest⟩
        exact ⟨next, hnext, ih.2 ⟨middle, hrest, hothers⟩⟩

theorem eq_append_of_followNames {names : List Path}
    (h : disk.followNames location names = .ok last)
    (hnames : ∀ name ∈ names, IsPlain name) : last = location ++ names := by
  induction names generalizing location with
  | nil =>
      cases h
      exact (List.append_nil _).symm
  | cons name rest ih =>
      rcases followNames_cons_eq_ok_iff.1 h with ⟨middle, hmiddle, hrest⟩
      have hstep := eq_append_of_followName hmiddle
        (hnames name List.mem_cons_self).toIsEntered
      rw [ih hrest fun other hother =>
        hnames other (List.mem_cons_of_mem name hother), hstep,
        List.append_assoc]
      rfl

/-- Where a name can be followed, there is a folder. -/
theorem isFolderAt_of_followNames {names : List Path}
    (h : disk.followNames location names = .ok last) (hne : names ≠ []) :
    disk.isFolderAt location = true := by
  cases names with
  | nil => exact absurd rfl hne
  | cons name rest =>
      rcases followNames_cons_eq_ok_iff.1 h with ⟨middle, hmiddle, _⟩
      exact isFolderAt_of_followName hmiddle

/-! ## Names that stay -/

/-- The names that lead somewhere else: empty names and `.` are left out. -/
def moves (names : List Path) : List Path :=
  names.filter fun name => name ≠ [] ∧ name ≠ here

@[simp] theorem moves_append (names others : List Path) :
    moves (names ++ others) = moves names ++ moves others :=
  List.filter_append names others

theorem moves_of_isPlain {names : List Path}
    (h : ∀ name ∈ names, IsPlain name) : moves names = names := by
  apply List.filter_eq_self.2
  intro name hname
  simp [(h name hname).ne_nil, (h name hname).ne_here]

theorem eq_nil_or_eq_here (names : List Path)
    (hname : ¬ (name ≠ [] ∧ name ≠ here)) :
    (name = [] ∨ name = here) ∧ moves (name :: names) = moves names := by
  constructor
  · by_cases hnil : name = []
    · exact .inl hnil
    · exact .inr (not_not.1 fun hhere => hname ⟨hnil, hhere⟩)
  · exact List.filter_cons_of_neg (by simpa using hname)

theorem followName_of_stays (h : disk.isFolderAt location = true)
    (hname : name = [] ∨ name = here) :
    disk.followName location name = .ok location := by
  rw [followName, isFolderAt_iff.1 h]
  exact if_pos hname

theorem followNames_moves {names : List Path}
    (h : disk.followNames location names = .ok last) :
    disk.followNames location (moves names) = .ok last := by
  induction names generalizing location with
  | nil => exact h
  | cons name rest ih =>
      rcases followNames_cons_eq_ok_iff.1 h with ⟨middle, hmiddle, hrest⟩
      by_cases hname : name ≠ [] ∧ name ≠ here
      · rw [moves, List.filter_cons_of_pos (by simpa using hname)]
        exact followNames_cons_eq_ok_iff.2 ⟨middle, hmiddle, ih hrest⟩
      · rcases eq_nil_or_eq_here rest hname with ⟨hstays, hmoves⟩
        rw [followName_of_stays (isFolderAt_of_followName hmiddle) hstays]
          at hmiddle
        cases hmiddle
        rw [hmoves]
        exact ih hrest

/-- On the way to a folder, names that stay may stand anywhere. -/
theorem followNames_of_moves {names : List Path}
    (h : disk.followNames location (moves names) = .ok last)
    (hlast : disk.isFolderAt last = true) :
    disk.followNames location names = .ok last := by
  induction names generalizing location with
  | nil => exact h
  | cons name rest ih =>
      by_cases hname : name ≠ [] ∧ name ≠ here
      · rw [moves, List.filter_cons_of_pos (by simpa using hname)] at h
        rcases followNames_cons_eq_ok_iff.1 h with ⟨middle, hmiddle, hrest⟩
        exact followNames_cons_eq_ok_iff.2 ⟨middle, hmiddle, ih hrest⟩
      · rcases eq_nil_or_eq_here rest hname with ⟨hstays, hmoves⟩
        rw [hmoves] at h
        have hfolder : disk.isFolderAt location = true := by
          by_cases hrest : moves rest = []
          · rw [hrest] at h
            cases h
            exact hlast
          · exact isFolderAt_of_followNames h hrest
        exact followNames_cons_eq_ok_iff.2
          ⟨location, followName_of_stays hfolder hstays, ih h⟩

/-! ## Paths -/

theorem follow_eq {p : Path} (hzero : '\x00' ∉ p) (hne : p ≠ []) :
    disk.follow p = disk.followNames (disk.startOf p) (namesOf p) := by
  have hcontains : ¬ p.contains '\x00' = true := by
    simpa using hzero
  rw [follow, if_neg hcontains, if_neg hne]
  rfl

theorem of_follow_eq_ok {p : Path} (h : disk.follow p = .ok last) :
    '\x00' ∉ p ∧ p ≠ [] ∧
      disk.followNames (disk.startOf p) (namesOf p) = .ok last := by
  unfold follow at h
  split at h
  next => cases h
  next hzero =>
    split at h
    next => cases h
    next hne => exact ⟨by simpa using hzero, hne, h⟩

theorem namesOf_append_separator (front : Path) {name : Path}
    (hname : separator ∉ name) :
    namesOf (front ++ separator :: name) = namesOf front ++ [name] := by
  rw [namesOf, List.splitOn_append_cons_self, List.splitOn_eq_singleton hname]
  rfl

theorem exists_namesOf_child (dir : Path) (hname : separator ∉ name) :
    ∃ front, namesOf (Glob.child dir name) = front ++ [name] ∧
      (namesOf dir = front ∨ namesOf dir = front ++ [[]]) := by
  unfold Glob.child
  by_cases hend : dir.getLast? = some separator
  · rw [if_pos hend]
    rcases List.getLast?_eq_some_iff.1 hend with ⟨front, rfl⟩
    refine ⟨namesOf front, ?_, .inr ?_⟩
    · rw [List.append_assoc]
      exact namesOf_append_separator front hname
    · exact namesOf_append_separator front List.not_mem_nil
  · rw [if_neg hend]
    exact ⟨namesOf dir, namesOf_append_separator dir hname, .inl rfl⟩

theorem exists_child_eq (dir name : Path) :
    ∃ more, Glob.child dir name = dir ++ more ∧
      (more = name ∨ more = separator :: name) := by
  unfold Glob.child
  split
  · exact ⟨name, rfl, .inl rfl⟩
  · exact ⟨separator :: name, rfl, .inr rfl⟩

/-- A path with one more name leads one step further. -/
theorem follow_child {dir : Path} (h : disk.follow dir = .ok location)
    (hstep : disk.followName location name = .ok middle)
    (hname : separator ∉ name) (hzero : '\x00' ∉ name) :
    disk.follow (Glob.child dir name) = .ok middle := by
  rcases of_follow_eq_ok h with ⟨hdirzero, hdir, hnames⟩
  rcases exists_child_eq dir name with ⟨more, hchild, hmore⟩
  have hmorezero : '\x00' ∉ more := by
    rcases hmore with rfl | rfl
    · exact hzero
    · intro hmem
      rcases List.mem_cons.1 hmem with heq | hmem
      · exact absurd heq (by decide)
      · exact hzero hmem
  have hstart : disk.startOf (Glob.child dir name) = disk.startOf dir := by
    rw [startOf, startOf, hchild]
    cases dir with
    | nil => exact absurd rfl hdir
    | cons c rest => rfl
  have hchildzero : '\x00' ∉ Glob.child dir name := by
    rw [hchild, List.mem_append, not_or]
    exact ⟨hdirzero, hmorezero⟩
  have hchildne : Glob.child dir name ≠ [] := by
    rw [hchild]
    exact List.append_ne_nil_of_left_ne_nil hdir more
  rw [follow_eq hchildzero hchildne, hstart]
  rcases exists_namesOf_child dir hname with ⟨front, hfront, hdirnames⟩
  rw [hfront]
  have hlast : disk.followNames location [name] = .ok middle :=
    followNames_cons_eq_ok_iff.2 ⟨middle, hstep, rfl⟩
  refine followNames_append_eq_ok_iff.2 ⟨location, ?_, hlast⟩
  rcases hdirnames with heq | heq
  · rw [heq] at hnames
    exact hnames
  · -- the separator at the end of the directory's path has an empty name
    -- behind it
    rw [heq] at hnames
    rcases followNames_append_eq_ok_iff.1 hnames with
      ⟨reached, hreached, hblank⟩
    have hfolder := isFolderAt_of_followNames hblank (List.cons_ne_nil _ _)
    rcases followNames_cons_eq_ok_iff.1 hblank with ⟨same, hsame, hend⟩
    rw [followName_of_stays hfolder (.inl rfl)] at hsame
    cases hsame
    cases hend
    exact hreached

theorem follow_foldl_child {names : List Path} {dir : Path}
    (h : disk.follow dir = .ok location)
    (hnames : disk.followNames location names = .ok last)
    (hlegal : ∀ name ∈ names, separator ∉ name ∧ '\x00' ∉ name) :
    disk.follow (names.foldl Glob.child dir) = .ok last := by
  induction names generalizing dir location with
  | nil =>
      cases hnames
      exact h
  | cons name rest ih =>
      rcases followNames_cons_eq_ok_iff.1 hnames with ⟨middle, hmiddle, hrest⟩
      rcases hlegal name List.mem_cons_self with ⟨hname, hzero⟩
      exact ih (follow_child h hmiddle hname hzero) hrest fun other hother =>
        hlegal other (List.mem_cons_of_mem name hother)

theorem moves_namesOf_child (dir : Path) (hname : separator ∉ name) :
    moves (namesOf (Glob.child dir name))
      = moves (namesOf dir) ++ moves [name] := by
  rcases exists_namesOf_child dir hname with ⟨front, hchild, hdir⟩
  have hfront : moves (namesOf dir) = moves front := by
    rcases hdir with heq | heq
    · rw [heq]
    · rw [heq, moves_append]
      exact List.append_nil _
  rw [hchild, moves_append, hfront]

theorem moves_namesOf_foldl_child {names : List Path} (dir : Path)
    (hnames : ∀ name ∈ names, separator ∉ name) :
    moves (namesOf (names.foldl Glob.child dir))
      = moves (namesOf dir) ++ moves names := by
  induction names generalizing dir with
  | nil => exact (List.append_nil _).symm
  | cons name rest ih =>
      have hothers : ∀ other ∈ rest, separator ∉ other := fun other hother =>
        hnames other (List.mem_cons_of_mem name hother)
      rw [List.foldl_cons, ih (Glob.child dir name) hothers,
        moves_namesOf_child dir (hnames name List.mem_cons_self),
        List.append_assoc, ← moves_append]
      rfl

theorem mem_moves_of_mem {names : List Path} {c : Char} (hdot : c ≠ '.')
    (hname : name ∈ names) (hmem : c ∈ name) :
    name ∈ moves names := by
  have hne : name ≠ [] ∧ name ≠ here := by
    constructor
    · intro hnil
      subst hnil
      cases hmem
    · intro hhere
      subst hhere
      exact hdot (List.mem_singleton.1 hmem)
  exact List.mem_filter.2 ⟨hname, by simpa using hne⟩

/-- What is neither a separator nor a dot stands in a name that leads somewhere
else. -/
theorem notMem_iff {p : Path} {c : Char} (hseparator : c ≠ separator)
    (hdot : c ≠ '.') :
    c ∉ p ↔ ∀ name ∈ moves (namesOf p), c ∉ name := by
  constructor
  · intro h name hname hmem
    exact h (mem_of_mem_splitOn (List.mem_of_mem_filter hname) hmem)
  · intro h hmem
    have htext : [separator].intercalate (namesOf p) = p :=
      List.intercalate_splitOn separator
    rw [← htext] at hmem
    rcases mem_of_mem_intercalate hmem with heq | ⟨name, hname, hmem⟩
    · exact hseparator heq
    · exact h name (mem_moves_of_mem hdot hname hmem) hmem

/-! ## Entries -/

theorem find_eq_ok_iff {p : Path} {entry : DiskEntry} :
    disk.find p = .ok entry ↔
      ∃ location, disk.follow p = .ok location ∧
      disk.entry? location = some entry := by
  unfold find
  cases hfollow : disk.follow p with
  | error fault =>
      constructor
      · intro h
        cases h
      · rintro ⟨location, h, _⟩
        cases h
  | ok location =>
      dsimp only [bind, Except.bind]
      cases hentry : disk.entry? location with
      | none =>
          constructor
          · intro h
            cases h
          · rintro ⟨other, hother, h⟩
            cases hother
            rw [hentry] at h
            cases h
      | some found =>
          constructor
          · intro h
            cases h
            exact ⟨location, rfl, hentry⟩
          · rintro ⟨other, hother, h⟩
            cases hother
            rw [hentry] at h
            cases h
            rfl

theorem exists?_iff {p : Path} :
    disk.exists? p = true ↔
      ∃ location, disk.follow p = .ok location ∧
      (disk.entry? location).isSome = true := by
  constructor
  · intro h
    cases hfind : disk.find p with
    | error fault =>
        rw [exists?, hfind] at h
        cases h
    | ok entry =>
        rcases find_eq_ok_iff.1 hfind with ⟨location, hfollow, hentry⟩
        exact ⟨location, hfollow, by rw [hentry]; rfl⟩
  · rintro ⟨location, hfollow, hsome⟩
    rcases Option.isSome_iff_exists.1 hsome with ⟨entry, hentry⟩
    rw [exists?, find_eq_ok_iff.2 ⟨location, hfollow, hentry⟩]
    rfl

theorem exists?_of_isFile {p : Path} (h : disk.isFile p = true) :
    disk.exists? p = true := by
  unfold isFile at h
  split at h
  next bytes hfind =>
    rw [exists?, hfind]
    rfl
  next => cases h

theorem isSome_entry?_iff (hne : location ≠ []) :
    (disk.entry? location).isSome = true ↔
      location ∈ disk.entries.map (·.1) := by
  rw [ entry?, if_neg hne, Option.isSome_iff_ne_none]
  exact (not_congr (OrderedMap.lookup_eq_none_iff location disk.entries)).trans
    not_not

theorem isSome_entry?_of_isFolderAt (h : disk.isFolderAt location = true) :
    (disk.entry? location).isSome = true := by
  rw [isFolderAt_iff.1 h]
  rfl

theorem mem_below_iff {p : Path} {way : List Path} :
    way ∈ disk.below p ↔
      ∃ location, disk.follow p = .ok location ∧ way ≠ [] ∧
        location ++ way ∈ disk.entries.map (·.1) := by
  unfold below
  cases hfollow : disk.follow p with
  | error fault => simp
  | ok folder =>
      simp only [List.mem_filterMap, Option.filter_eq_some_iff,
        List.isPrefixOf?_eq_some_iff_append_eq, List.mem_map, decide_eq_true_eq,
        Except.ok.injEq]
      constructor
      · rintro ⟨entry, hentry, heq, hne⟩
        exact ⟨folder, rfl, hne, entry, hentry, heq.symm⟩
      · rintro ⟨location, rfl, hne, entry, hentry, heq⟩
        exact ⟨entry, hentry, heq.symm, hne⟩

end Disk
end BuildHost
