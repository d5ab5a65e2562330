import BuildHost.Proofs.FileSystem.Tree

/-!
# Normal forms on disk

On a disk a climb takes back the name before it, as it does in a normal form.
So the normal form of a path leads where the path leads (`exists?_normalize`),
unless the path starts at a drive, which is a name like others here.
-/

namespace BuildHost
namespace Disk

open BuildHost.Path

variable {disk : Disk} {location last : DiskLocation} {name q : Path}
  {names : List Path} {root : Root}

theorem followName_up (h : disk.isFolderAt location = true) :
    disk.followName location up = .ok location.dropLast := by
  rw [followName, isFolderAt_iff.1 h]
  rfl

theorem followNames_of_climb {first : Path} {before : List Path}
    {middle : DiskLocation} (hfirst : IsEntered first)
    (hvisited : disk.followNames location (first :: before).reverse
      = .ok middle)
    (h : disk.followName middle up = .ok last) :
    disk.followNames location before.reverse = .ok last := by
  rw [List.reverse_cons] at hvisited
  rcases followNames_append_eq_ok_iff.1 hvisited with ⟨around, haround, hlast⟩
  rcases followNames_cons_eq_ok_iff.1 hlast with ⟨_, hstep, hend⟩
  cases hend
  rw [followName_up (isFolderAt_of_followName h),
    eq_append_of_followName hstep hfirst, List.dropLast_concat] at h
  cases h
  exact haround

theorem isEntered_of_isWalk {first : Path} {before : List Path}
    (h : IsWalk root (first :: before)) (hfirst : first ≠ up) :
    IsEntered first := by
  rcases h with ⟨entered, n, heq, hentered, _⟩
  have hmem : first ∈ entered ++ List.replicate n up := heq ▸ List.mem_cons_self
  rcases List.mem_append.1 hmem with hmem | hmem
  · exact hentered first hmem
  · exact absurd (List.eq_of_mem_replicate hmem) hfirst

/-- One more name leads from where the names walked so far lead to where the
names of the longer walk lead. -/
theorem followNames_step {visited : List Path} {middle : DiskLocation}
    (hwalk : IsWalk root visited)
    (hroot : root = .none ∨ root = .slash ∧ location = [])
    (hvisited : disk.followNames location visited.reverse = .ok middle)
    (h : disk.followName middle name = .ok last) :
    disk.followNames location (Path.step root visited name).reverse
      = .ok last := by
  have hfolder := isFolderAt_of_followName h
  have hmore : disk.followNames location (name :: visited).reverse
      = .ok last := by
    rw [List.reverse_cons]
    exact followNames_append_eq_ok_iff.2
      ⟨middle, hvisited, followNames_cons_eq_ok_iff.2 ⟨last, h, rfl⟩⟩
  unfold Path.step
  split
  next hstays =>
    rw [followName_of_stays hfolder hstays] at h
    cases h
    exact hvisited
  next hstays =>
    split
    next hup =>
      subst hup
      cases visited with
      | nil =>
          rcases hroot with rfl | ⟨rfl, rfl⟩
          · exact hmore
          · cases hvisited
            rw [followName_up hfolder] at h
            cases h
            rfl
      | cons first before =>
          dsimp only
          split
          next hfirst =>
            exact followNames_of_climb (isEntered_of_isWalk hwalk hfirst)
              hvisited h
          next hfirst =>
            rcases hroot with rfl | ⟨rfl, rfl⟩
            · exact hmore
            · rcases hwalk with ⟨entered, n, heq, hentered, hn⟩
              obtain rfl := hn rfl
              rw [List.replicate_zero, List.append_nil] at heq
              exact absurd (not_not.1 hfirst)
                (hentered first (heq ▸ List.mem_cons_self)).ne_up
    next => exact hmore

/-- Collapsed names lead where the names lead. -/
theorem followNames_collapse
    (hroot : root = .none ∨ root = .slash ∧ location = [])
    (hseparator : ∀ name ∈ names, separator ∉ name)
    (h : disk.followNames location names = .ok last) :
    disk.followNames location (Path.collapse root names) = .ok last := by
  induction names using List.reverseRecOn generalizing last with
  | nil => exact h
  | append_singleton front name ih =>
      rcases followNames_append_eq_ok_iff.1 h with ⟨middle, hfront, hname⟩
      rcases followNames_cons_eq_ok_iff.1 hname with ⟨_, hstep, hend⟩
      cases hend
      have hfrontSeparator : ∀ name ∈ front,
          separator ∉ name := fun other hother =>
        hseparator other (List.mem_append_left _ hother)
      rw [Path.collapse, List.foldl_append]
      exact followNames_step (isWalk_foldl hfrontSeparator (isWalk_nil root))
        hroot (ih hfrontSeparator hfront) hstep

theorem zero_notMem_collapse (hzero : ∀ name ∈ names, '\x00' ∉ name) :
    ∀ name ∈ Path.collapse root names, '\x00' ∉ name := by
  intro name hname
  rcases mem_of_mem_collapse hname with hmem | rfl
  · exact hzero name hmem
  · decide

theorem exists?_normalize_slash {rest : Path} (hback : '\\' ∉ separator :: rest)
    (h : disk.exists? (separator :: rest) = true) :
    disk.exists? (Path.normalize (separator :: rest)) = true := by
  rcases exists?_iff.1 h with ⟨location, hfollow, hsome⟩
  rcases of_follow_eq_ok hfollow with ⟨hzero, _, hnames⟩
  have hrest : disk.followNames [] (rest.splitOn separator) = .ok location := by
    rw [namesOf, ← List.nil_append (separator :: rest),
      List.splitOn_append_cons_self, List.splitOn_nil] at hnames
    rcases followNames_append_eq_ok_iff.1 hnames with ⟨_, hstart, hrest⟩
    cases hstart
    exact hrest
  have hlegal : ∀ name ∈ rest.splitOn separator,
      '\x00' ∉ name := fun name hname hmem =>
    hzero (List.mem_cons_of_mem _ (mem_of_mem_splitOn hname hmem))
  have hcollapsed := followNames_collapse (.inr ⟨rfl, rfl⟩)
    (fun _ hname => separator_notMem_of_mem_splitOn hname) hrest
  have hnormal : Path.normalize (separator :: rest)
      = render .slash (Path.collapse .slash (rest.splitOn separator)) := by
    rw [Path.normalize, normalizeSeparators_eq_self hback]
    rfl
  rw [hnormal]
  by_cases hnil : Path.collapse .slash (rest.splitOn separator) = []
  · rw [hnil]
    rfl
  · have hsegments : IsCollapsed .slash
        (Path.collapse .slash (rest.splitOn separator)) :=
      isCollapsed_collapse fun hmem => hback (List.mem_cons_of_mem _ hmem)
    have hplace : IsPlace .slash
        (Path.collapse .slash (rest.splitOn separator)) :=
      ⟨trivial, rfl, hsegments.isPlain rfl⟩
    have hreached := (follow_render_eq_ok_iff hplace hnil).2
      ⟨zero_notMem_collapse hlegal, hcollapsed⟩
    exact exists?_iff.2 ⟨location, hreached, hsome⟩

theorem head?_intercalate_ne
    (hlegal : ∀ name ∈ names, name ≠ [] ∧ separator ∉ name) :
    ([separator].intercalate names).head? ≠ some separator := by
  cases names with
  | nil => exact (Option.some_ne_none _).symm
  | cons name rest =>
      rcases hlegal name List.mem_cons_self with ⟨hne, hseparator⟩
      cases name with
      | nil => exact absurd rfl hne
      | cons c name =>
          have hhead : ([separator].intercalate ((c :: name) :: rest)).head?
              = some c := by
            by_cases hrest : rest = []
            · rw [hrest, List.intercalate_singleton]
              rfl
            · rw [List.intercalate_cons_of_ne_nil hrest]
              rfl
          rw [hhead]
          exact fun heq => hseparator (Option.some.inj heq ▸ List.mem_cons_self)

/-- Names that are joined are followed from the working folder. -/
theorem follow_intercalate (hne : names ≠ [])
    (hlegal : ∀ name ∈ names, name ≠ [] ∧ separator ∉ name)
    (hzero : ∀ name ∈ names, '\x00' ∉ name) :
    disk.follow ([separator].intercalate names)
      = disk.followNames disk.workingFolder names := by
  have hnames : namesOf ([separator].intercalate names) = names :=
    List.splitOn_intercalate separator
      (fun name hname => (hlegal name hname).2) hne
  have htext : [separator].intercalate names ≠ [] := by
    intro hnil
    rw [hnil] at hnames
    rw [← hnames] at hlegal
    exact (hlegal [] List.mem_cons_self).1 rfl
  have htextZero : '\x00' ∉ [separator].intercalate names := by
    intro hmem
    rcases mem_of_mem_intercalate hmem with heq | ⟨name, hname, hmem⟩
    · exact absurd heq (by decide)
    · exact hzero name hname hmem
  rw [follow_eq htextZero htext, hnames, startOf,
    if_neg (head?_intercalate_ne hlegal)]

theorem exists?_normalize_none (hback : '\\' ∉ q)
    (hroot : splitRoot q = (.none, q)) (h : disk.exists? q = true) :
    disk.exists? (Path.normalize q) = true := by
  rcases exists?_iff.1 h with ⟨location, hfollow, hsome⟩
  rcases of_follow_eq_ok hfollow with ⟨hzero, hne, hnames⟩
  have hstart : disk.startOf q = disk.workingFolder := by
    apply if_neg
    intro hhead
    rcases List.head?_eq_some_iff.1 hhead with ⟨rest, rfl⟩
    cases hroot
  rw [hstart] at hnames
  have hcollapsed := followNames_collapse (.inl rfl)
    (fun _ hname => separator_notMem_of_mem_splitOn hname) hnames
  have hlegal : ∀ name ∈ Path.collapse .none (q.splitOn separator),
      '\x00' ∉ name :=
    zero_notMem_collapse fun name hname hmem =>
      hzero (mem_of_mem_splitOn hname hmem)
  have hnormal : Path.normalize q
      = render .none (Path.collapse .none (q.splitOn separator)) := by
    rw [Path.normalize, normalizeSeparators_eq_self hback, hroot]
  have hsegments : IsCollapsed .none
      (Path.collapse .none (q.splitOn separator)) := isCollapsed_collapse hback
  rw [hnormal]
  generalize Path.collapse .none (q.splitOn separator)
    = segments at hcollapsed hlegal hsegments
  refine exists?_iff.2 ⟨location, ?_, hsome⟩
  by_cases hnil : segments = []
  · subst hnil
    cases hcollapsed
    have hfolder : disk.isFolderAt disk.workingFolder = true :=
      isFolderAt_of_followNames hnames (List.splitOn_ne_nil _ _)
    exact (follow_eq (by decide) (by decide)).trans
      (followNames_cons_eq_ok_iff.2
        ⟨_, followName_of_stays hfolder (.inr rfl), rfl⟩)
  · have htext : render .none segments = [separator].intercalate segments :=
      if_neg fun hboth => hnil hboth.2
    rw [htext, follow_intercalate hnil (fun name hname =>
      ⟨hsegments.ne_nil name hname, hsegments.separator_notMem name hname⟩)
        hlegal]
    exact hcollapsed

/-- The normal form of a path that does not start at a drive leads to an entry
where the path does. -/
theorem exists?_normalize (hback : '\\' ∉ q)
    (hroot : q.head? = some separator ∨ splitRoot q = (.none, q))
    (h : disk.exists? q = true) : disk.exists? (Path.normalize q) = true := by
  rcases hroot with hhead | hnone
  · rcases List.head?_eq_some_iff.1 hhead with ⟨rest, rfl⟩
    exact exists?_normalize_slash hback h
  · exact exists?_normalize_none hback hnone h

end Disk
end BuildHost
