import BuildHost.Proofs.FileSystem.Tree
import BuildHost.Proofs.Glob.Pattern
import BuildHost.Proofs.Path.Containment

/-!
# Walks along patterns

Components that are names lead where the names lead (`walk_exactly`), and behind
them the pattern of everything leads to what lies below.  So the pattern of
everything below a directory finds the paths below it that exist, and no others
(`exists_find_everything`).
-/

namespace BuildHost
namespace Glob

open BuildHost.Path BuildHost.Disk

variable {disk : Disk} {location last : DiskLocation} {dir p : Path}
  {names : List Path}

/-! ## Names -/

theorem mem_walk_of_mem {components : List Component}
    (h : p ∈ walk disk (names.map Component.exactly ++ components) dir) :
    p ∈ walk disk components (names.foldl child dir) := by
  induction names generalizing dir with
  | nil => exact h
  | cons name rest ih =>
      rw [List.map_cons, List.cons_append, walk] at h
      split at h
      · exact ih h
      · cases h

/-- Names of folders on the way lead where they are followed to. -/
theorem walk_exactly (components : List Component)
    (hdir : disk.follow dir = .ok location)
    (hnames : disk.followNames location names = .ok last)
    (hlast : disk.isFolderAt last = true)
    (hlegal : ∀ name ∈ names, separator ∉ name ∧ '\x00' ∉ name) :
    walk disk (names.map Component.exactly ++ components) dir
      = walk disk components (names.foldl child dir) := by
  induction names generalizing dir location with
  | nil => rfl
  | cons name rest ih =>
      rcases followNames_cons_eq_ok_iff.1 hnames with ⟨middle, hmiddle, hrest⟩
      rcases hlegal name List.mem_cons_self with ⟨hname, hzero⟩
      have hchild := follow_child hdir hmiddle hname hzero
      have hfolder : disk.isFolderAt middle = true := by
        cases rest with
        | nil =>
            cases hrest
            exact hlast
        | cons other others =>
            exact isFolderAt_of_followNames hrest (List.cons_ne_nil _ _)
      have hexists : disk.exists? (child dir name) = true :=
        exists?_iff.2 ⟨middle, hchild, isSome_entry?_of_isFolderAt hfolder⟩
      rw [List.map_cons, List.cons_append, walk, if_pos hexists]
      exact ih hchild hrest fun other hother =>
        hlegal other (List.mem_cons_of_mem name hother)

/-! ## Everything -/

theorem nil_mem_suffixes (text : List Char) : [] ∈ suffixes text := by
  induction text with
  | nil => exact List.mem_cons_self
  | cons c rest ih => exact List.mem_cons_of_mem _ ih

theorem accepts_anySequence (name : Path) :
    (Component.pattern [.anySequence]).accepts name = true := by
  show (suffixes name).any (accepts []) = true
  exact List.any_eq_true.2 ⟨[], nil_mem_suffixes name, by rw [accepts]; rfl⟩

theorem mem_walk_everythingBelow_iff :
    p ∈ walk disk everythingBelow dir ↔ ∃ way ∈ disk.below dir,
      way.foldl child dir = p := by
  have hlast : ∀ way ∈ disk.below dir,
      way.getLast?.any (Component.pattern [.anySequence]).accepts = true := by
    intro way hway
    rcases mem_below_iff.1 hway with ⟨_, _, hne, _⟩
    rw [List.getLast?_eq_some_getLast hne]
    exact accepts_anySequence _
  rw [everythingBelow, walk, List.mem_flatMap]
  constructor
  · rintro ⟨way, hway, hp⟩
    rw [if_pos (hlast way hway), walk, List.mem_singleton] at hp
    exact ⟨way, hway, hp.symm⟩
  · rintro ⟨way, hway, hp⟩
    refine ⟨way, hway, ?_⟩
    rw [if_pos (hlast way hway), walk, List.mem_singleton]
    exact hp.symm

/-! ## Spelling -/

/-- Where the walk to a place at a root starts. -/
def walkStart : Root → Path
  | .slash => Root.slash.text
  | _ => here

theorem moves_namesOf_walkStart (root : Root) :
    moves (namesOf (walkStart root)) = [] := by
  cases root <;> rfl

theorem collapse_moves (root : Root) (names : List Path) :
    Path.collapse root (moves names) = Path.collapse root names := by
  have hfold : ∀ visited, (moves names).foldl (Path.step root) visited
      = names.foldl (Path.step root) visited := by
    induction names with
    | nil => exact fun _ => rfl
    | cons name rest ih =>
        intro visited
        by_cases hname : name ≠ [] ∧ name ≠ here
        · rw [moves, List.filter_cons_of_pos (by simpa using hname)]
          exact ih _
        · rcases eq_nil_or_eq_here rest hname with ⟨hstays, hmoves⟩
          have hstep : Path.step root visited name = visited := if_pos hstays
          rw [hmoves, ih, List.foldl_cons, hstep]
  rw [Path.collapse, Path.collapse, hfold]

theorem exists_foldl_child_eq (names : List Path) (dir : Path) :
    ∃ more, names.foldl child dir = dir ++ more := by
  induction names generalizing dir with
  | nil => exact ⟨[], (List.append_nil dir).symm⟩
  | cons name rest ih =>
      rcases ih (child dir name) with ⟨more, hmore⟩
      rcases exists_child_eq dir name with ⟨added, hadded, _⟩
      exact ⟨added ++ more,
        by rw [List.foldl_cons, hmore, hadded, List.append_assoc]⟩

theorem render_none_drive {letter : Char} {segments : List Path}
    (hne : segments ≠ []) :
    render .none ((Root.drive letter).segments ++ segments)
      = render (.drive letter) segments := by
  rw [render, if_neg (fun h => absurd h.2 (List.cons_ne_nil _ _)),
    render_of_isRooted rfl]
  show [] ++ [separator].intercalate ([letter, ':'] :: segments) = _
  rw [List.intercalate_cons_of_ne_nil hne]
  rfl

/-- The normal form of a path that is spelled name by name. -/
theorem normalize_foldl_child {root : Root} {segments : List Path}
    (h : IsPlace root segments) (hne : segments ≠ [])
    (hnames : ∀ name ∈ names, separator ∉ name)
    (hmoves : moves names = root.segments ++ segments) :
    Path.normalize (names.foldl child (walkStart root))
      = render root segments := by
  have hplain : ∀ s ∈ root.segments ++ segments, IsPlain s := by
    intro s hs
    rcases List.mem_append.1 hs with hs | hs
    · exact Root.isPlain_segments h.isReadable s hs
    · exact h.isPlain s hs
  have hspelled : moves (namesOf (names.foldl child (walkStart root)))
      = root.segments ++ segments := by
    rw [moves_namesOf_foldl_child _ hnames, moves_namesOf_walkStart, hmoves]
    rfl
  have hback : '\\' ∉ names.foldl child (walkStart root) := by
    apply (notMem_iff (by decide) (by decide)).2
    rw [hspelled]
    exact fun s hs => (hplain s hs).backslash_notMem
  rcases exists_foldl_child_eq names (walkStart root) with ⟨more, hmore⟩
  rw [hmore] at hspelled hback ⊢
  rw [Path.normalize, normalizeSeparators_eq_self hback]
  cases root with
  | none => cases h.isRooted
  | slash =>
      have htext : walkStart .slash ++ more = [] ++ separator :: more := rfl
      rw [htext, namesOf, List.splitOn_append_cons_self,
        moves_append] at hspelled
      have hmoved : moves (more.splitOn separator) = segments := hspelled
      show render .slash (Path.collapse .slash (more.splitOn separator)) = _
      rw [← collapse_moves, hmoved, h.isCollapsed.collapse_eq]
  | drive letter =>
      have hsplit : splitRoot (walkStart (.drive letter) ++ more)
          = (.none, walkStart (.drive letter) ++ more) := by
        have hdot : ('.').isAlpha = false := by decide
        show splitRoot ('.' :: more) = (.none, '.' :: more)
        unfold splitRoot
        split
        next heq => cases heq
        next letter rest heq =>
          cases heq
          rw [hdot]
          rfl
        next => rfl
      rw [hsplit]
      show render .none (Path.collapse .none
        (namesOf (walkStart (.drive letter) ++ more))) = _
      rw [← collapse_moves, hspelled,
        collapse_entered fun s hs => (hplain s hs).toIsEntered,
        render_none_drive hne]

/-! ## What lies below a directory -/

theorem follow_walkStart {root : Root}
    (h : disk.isFolderAt (disk.startAt root) = true) :
    disk.follow (walkStart root) = .ok (disk.startAt root) := by
  have hzero : '\x00' ∉ walkStart root := by
    apply (notMem_iff (by decide) (by decide)).2
    rw [moves_namesOf_walkStart]
    exact fun _ hname => absurd hname List.not_mem_nil
  have hne : walkStart root ≠ [] := by
    cases root <;> exact List.cons_ne_nil _ _
  have hstart : disk.startOf (walkStart root) = disk.startAt root := by
    cases root <;> rfl
  rw [follow_eq hzero hne, hstart]
  apply followNames_of_moves _ h
  rw [moves_namesOf_walkStart]
  rfl

/-- Names that are spelled one after the other are followed from the start of
their root. -/
theorem followNames_of_follow_foldl_child {root : Root} {segments : List Path}
    (hnames : ∀ name ∈ names, separator ∉ name)
    (hmoves : moves names = segments)
    (h : disk.follow (names.foldl child (walkStart root)) = .ok location) :
    (∀ s ∈ segments, '\x00' ∉ s) ∧
      disk.followNames (disk.startAt root) segments = .ok location := by
  rcases of_follow_eq_ok h with ⟨hzero, _, hfollow⟩
  have hspelled : moves (namesOf (names.foldl child (walkStart root)))
      = segments := by
    rw [moves_namesOf_foldl_child _ hnames, moves_namesOf_walkStart, hmoves]
    rfl
  have hstart : disk.startOf (names.foldl child (walkStart root))
      = disk.startAt root := by
    rcases exists_foldl_child_eq names (walkStart root) with ⟨more, hmore⟩
    rw [hmore]
    cases root <;> rfl
  constructor
  · rw [← hspelled]
    exact (notMem_iff (by decide) (by decide)).1 hzero
  · rw [← hspelled, ← hstart]
    exact followNames_moves hfollow

section directory

variable {root : Root} {segments : List Path} {q : Path}

theorem normalize_way {way : List Path} (h : IsPlace root (segments ++ way))
    (hne : way ≠ []) (hnames : ∀ name ∈ names, separator ∉ name)
    (hmoves : moves names = root.segments ++ segments) :
    Path.normalize (way.foldl child (names.foldl child (walkStart root)))
      = render root (segments ++ way) := by
  have hplain : ∀ name ∈ way, IsPlain name :=
    fun name hname => h.isPlain name (List.mem_append_right _ hname)
  rw [← List.foldl_append]
  apply normalize_foldl_child h
    (List.append_ne_nil_of_right_ne_nil segments hne)
  · intro name hname
    rcases List.mem_append.1 hname with hname | hname
    · exact hnames name hname
    · exact (hplain name hname).separator_notMem
  · rw [moves_append, hmoves, moves_of_isPlain hplain, List.append_assoc]

theorem exists_of_mem_walk (htree : disk.IsTree) (h : IsPlace root segments)
    (hnames : ∀ name ∈ names, separator ∉ name)
    (hmoves : moves names = root.segments ++ segments)
    (hp : p ∈ walk disk (names.map Component.exactly ++ everythingBelow)
      (walkStart root)) :
    ∃ way, way ≠ [] ∧ IsPlace root (segments ++ way) ∧
      Path.normalize p = render root (segments ++ way) ∧
      disk.exists? (render root (segments ++ way)) = true := by
  rcases mem_walk_everythingBelow_iff.1 (mem_walk_of_mem hp) with
    ⟨way, hway, hspelled⟩
  rcases mem_below_iff.1 hway with ⟨location, hfollow, hne, hentry⟩
  have hentryName : ∀ name ∈ way, IsEntryName name := fun name hname =>
    htree.isEntryName _ hentry name (List.mem_append_right _ hname)
  have hplain : ∀ name ∈ way, IsPlain name :=
    fun name hname => (hentryName name hname).toIsPlain
  have hplace : IsPlace root (segments ++ way) := by
    apply h.withSegments
    intro s hs
    rcases List.mem_append.1 hs with hs | hs
    · exact h.isPlain s hs
    · exact hplain s hs
  have hsegments : segments ++ way ≠ [] :=
    List.append_ne_nil_of_right_ne_nil segments hne
  refine ⟨way, hne, hplace, ?_, ?_⟩
  · rw [← hspelled]
    exact normalize_way hplace hne hnames hmoves
  · rcases followNames_of_follow_foldl_child hnames hmoves hfollow with
      ⟨hzero, hreached⟩
    have hwhole : disk.followNames (disk.startAt root)
        (root.segments ++ (segments ++ way)) = .ok (location ++ way) := by
      rw [← List.append_assoc]
      exact followNames_append_eq_ok_iff.2
        ⟨location, hreached, htree.followNames hentry⟩
    have hlegal : ∀ s ∈ root.segments ++ (segments ++ way), '\x00' ∉ s := by
      intro s hs
      rw [← List.append_assoc] at hs
      rcases List.mem_append.1 hs with hs | hs
      · exact hzero s hs
      · exact (hentryName s hs).zero_notMem
    exact exists?_iff.2
      ⟨_, (follow_render_eq_ok_iff hplace hsegments).2 ⟨hlegal, hwhole⟩,
        (isSome_entry?_iff (List.append_ne_nil_of_right_ne_nil location hne)).2
          hentry⟩

theorem exists_mem_walk {way : List Path} (h : IsPlace root (segments ++ way))
    (hne : way ≠ []) (hnames : ∀ name ∈ names, separator ∉ name)
    (hmoves : moves names = root.segments ++ segments)
    (hexists : disk.exists? (render root (segments ++ way)) = true) :
    ∃ p ∈ walk disk (names.map Component.exactly ++ everythingBelow)
      (walkStart root),
      Path.normalize p = render root (segments ++ way) := by
  have hsegments : segments ++ way ≠ [] :=
    List.append_ne_nil_of_right_ne_nil segments hne
  have hplain : ∀ name ∈ way, IsPlain name :=
    fun name hname => h.isPlain name (List.mem_append_right _ hname)
  rcases exists?_iff.1 hexists with ⟨last, hfollow, hsome⟩
  rcases (follow_render_eq_ok_iff h hsegments).1 hfollow with ⟨hzero, hreached⟩
  have hstart : disk.isFolderAt (disk.startAt root) = true :=
    isFolderAt_of_followNames hreached
      (List.append_ne_nil_of_right_ne_nil _ hsegments)
  rw [← List.append_assoc] at hzero hreached
  rcases followNames_append_eq_ok_iff.1 hreached with
    ⟨location, hlocation, hway⟩
  have hlast := eq_append_of_followNames hway hplain
  have hfolder := isFolderAt_of_followNames hway hne
  rw [hlast, isSome_entry?_iff
    (List.append_ne_nil_of_right_ne_nil location hne)] at hsome
  have hlegal : ∀ name ∈ names, separator ∉ name ∧ '\x00' ∉ name := by
    intro name hname
    refine ⟨hnames name hname, fun hmem => ?_⟩
    have hmoved := mem_moves_of_mem (by decide) hname hmem
    rw [hmoves] at hmoved
    exact hzero name (List.mem_append_left way hmoved) hmem
  have hfollowed : disk.followNames (disk.startAt root) names
      = .ok location := by
    apply followNames_of_moves _ hfolder
    rw [hmoves]
    exact hlocation
  have hdir := follow_foldl_child (follow_walkStart hstart) hfollowed hlegal
  refine ⟨way.foldl child (names.foldl child (walkStart root)), ?_, ?_⟩
  · rw [walk_exactly everythingBelow (follow_walkStart hstart) hfollowed
      hfolder hlegal]
    exact mem_walk_everythingBelow_iff.2
      ⟨way, mem_below_iff.2 ⟨location, hdir, hne, hsome⟩, rfl⟩
  · exact normalize_way h hne hnames hmoves

/-- The walk finds the paths below a directory that exist. -/
theorem mem_map_normalize_walk_iff (htree : disk.IsTree)
    (h : IsPlace root segments) (hnames : ∀ name ∈ names, separator ∉ name)
    (hmoves : moves names = root.segments ++ segments) :
    q ∈ (walk disk (names.map Component.exactly ++ everythingBelow)
      (walkStart root)).map Path.normalize ↔
      IsNormal q ∧ IsBelow q (render root segments) ∧
        disk.exists? q = true := by
  rw [List.mem_map]
  constructor
  · rintro ⟨p, hp, rfl⟩
    rcases exists_of_mem_walk htree h hnames hmoves hp with
      ⟨way, hne, hplace, hnormal, hexists⟩
    rw [hnormal]
    refine ⟨hplace.isNormal_render, ⟨way, hne, ?_⟩, hexists⟩
    rw [hplace.view_render, h.view_render]
  · rintro ⟨hnormal, ⟨way, hne, hview⟩, hexists⟩
    rw [h.view_render] at hview
    have hrooted : isRooted q = true := by
      apply hnormal.isRooted
      rw [hview]
      exact h.isRooted
    have hplace := isPlace_view hrooted
    have hq := hnormal.render_view hrooted
    rw [hview] at hplace hq
    rw [← hq] at hexists ⊢
    exact exists_mem_walk hplace hne hnames hmoves hexists

/-- A directory with a text without wildcards is the start of a pattern that
finds the paths below it. -/
theorem exists_find_everything {text : Path} (htree : disk.IsTree)
    (h : IsPlace root segments)
    (htext : text = render root segments ∨
      text ++ [separator] = render root segments)
    (hliteral : ∀ c ∈ text, IsLiteral c) :
    ∃ found, find disk (text ++ everything) = .ok found ∧
      ∀ q, q ∈ found.map Path.normalize ↔
        IsNormal q ∧ IsBelow q (render root segments) ∧
        disk.exists? q = true := by
  have hmoves : moves (text.splitOn separator) = root.segments ++ segments := by
    rw [← moves_namesOf_render h]
    rcases htext with heq | heq
    · rw [heq]
      rfl
    · rw [← heq, namesOf_append_separator text List.not_mem_nil, moves_append]
      exact (List.append_nil _).symm
  have hseparator : ∀ name ∈ text.splitOn separator,
      separator ∉ name := fun _ hname =>
    separator_notMem_of_mem_splitOn hname
  have hstart : ∃ more, text ++ [separator] = root.text ++ more := by
    rw [render_of_isRooted h.isRooted] at htext
    rcases htext with heq | heq
    · exact ⟨[separator].intercalate segments ++ [separator],
        by rw [heq, List.append_assoc]⟩
    · exact ⟨_, heq⟩
  rcases hstart with ⟨more, hmore⟩
  cases root with
  | none => cases h.isRooted
  | slash =>
      have hsplit : text.splitOn separator ++ [[]]
          = [] :: more.splitOn separator := by
        rw [← namesOf, ← namesOf_append_separator text List.not_mem_nil, hmore]
        show (([] : Path) ++ separator :: more).splitOn separator = _
        rw [List.splitOn_append_cons_self]
        rfl
      cases hnames : text.splitOn separator with
      | nil => exact absurd hnames (List.splitOn_ne_nil separator text)
      | cons first names =>
          rw [hnames, List.cons_append] at hsplit
          rw [(List.cons.inj hsplit).1] at hnames
          rw [hnames] at hmoves hseparator
          refine ⟨_,
            by rw [find, parseWalk_slash hliteral hnames]; rfl, fun q => ?_⟩
          exact mem_map_normalize_walk_iff htree h
            (fun name hname => hseparator name (List.mem_cons_of_mem _ hname))
              hmoves
  | drive letter =>
      have hhead : (text ++ everything).head? ≠ some separator := by
        have hsame : (text ++ everything).head?
            = (text ++ [separator]).head? := by
          rw [List.head?_append, List.head?_append]
          rfl
        rw [hsame, hmore]
        exact fun heq =>
          ne_separator_of_isAlpha h.isReadable (Option.some.inj heq)
      refine ⟨_, by rw [find, parseWalk_here hliteral hhead]; rfl, fun q => ?_⟩
      exact mem_map_normalize_walk_iff htree h hseparator hmoves

end directory

end Glob
end BuildHost
