import BuildHost.Proofs.Glob.Components

/-!
# What a pattern lists

A walk along components finds the entries that the components lead to, and no
others (`exists_isWay_of_mem_walk`, `LeadsAlong.mem_walk`).
-/

namespace BuildHost
namespace Glob

open BuildHost.Path BuildHost.Disk

variable {disk : Disk} {location : DiskLocation} {dir p name : Path}
  {names front : List Path} {component : Component}
  {components rest : List Component} {tokens : List Token}

/-! ## Directories -/

theorem isDirectory_iff :
    disk.isDirectory p = true ↔
      ∃ location, disk.follow p = .ok location ∧
      disk.isFolderAt location = true := by
  have hfind : disk.isDirectory p = true ↔ disk.find p = .ok .folder := by
    unfold isDirectory
    split
    next h => exact iff_of_true rfl h
    next h => exact iff_of_false Bool.false_ne_true h
  simp only [hfind, find_eq_ok_iff, isFolderAt_iff]

theorem exists?_of_isDirectory (h : disk.isDirectory p = true) :
    disk.exists? p = true := by
  rcases isDirectory_iff.1 h with ⟨location, hfollow, hfolder⟩
  exact exists?_iff.2 ⟨location, hfollow, isSome_entry?_of_isFolderAt hfolder⟩

theorem mem_names_iff : name ∈ disk.names dir ↔ [name] ∈ disk.below dir := by
  rw [Disk.names, List.mem_filterMap]
  constructor
  · rintro ⟨way, hway, hname⟩
    split at hname
    next =>
      cases hname
      exact hway
    next => cases hname
  · exact fun h => ⟨[name], h, rfl⟩

theorem exists?_of_mem_below (htree : disk.IsTree) {way : List Path}
    (h : way ∈ disk.below dir) :
    (∀ name ∈ way, IsEntryName name) ∧
      disk.exists? (way.foldl child dir) = true := by
  rcases mem_below_iff.1 h with ⟨location, hfollow, hne, hentry⟩
  have hnames : ∀ name ∈ way, IsEntryName name := fun name hname =>
    htree.isEntryName _ hentry name (List.mem_append_right _ hname)
  refine ⟨hnames, exists?_iff.2 ⟨location ++ way, ?_, ?_⟩⟩
  · exact follow_foldl_child hfollow (htree.followNames hentry)
      fun name hname =>
      ⟨(hnames name hname).separator_notMem, (hnames name hname).zero_notMem⟩
  · exact (isSome_entry?_iff
      (List.append_ne_nil_of_right_ne_nil location hne)).2 hentry

/-- A directory of a tree has a directory around it, be it itself. -/
theorem exists?_child_dot (htree : disk.IsTree)
    (hdir : disk.isDirectory dir = true) (hname : name = here ∨ name = up) :
    disk.exists? (child dir name) = true := by
  rcases isDirectory_iff.1 hdir with ⟨location, hfollow, hfolder⟩
  have hlegal : separator ∉ name ∧ '\x00' ∉ name := by
    rcases hname with rfl | rfl <;> decide
  have haround : disk.isFolderAt location.dropLast = true := by
    by_cases hnil : location = []
    · rw [hnil]
      rfl
    · exact htree.isFolderAt _
        ((isSome_entry?_iff hnil).1 (isSome_entry?_of_isFolderAt hfolder))
  have hstep : ∃ middle, disk.followName location name = .ok middle ∧
      disk.isFolderAt middle = true := by
    rcases hname with rfl | rfl
    · exact ⟨location, followName_of_stays hfolder (.inr rfl), hfolder⟩
    · refine ⟨location.dropLast, ?_, haround⟩
      rw [followName, isFolderAt_iff.1 hfolder]
      rfl
  rcases hstep with ⟨middle, hmiddle, hsome⟩
  exact exists?_iff.2 ⟨middle, follow_child hfollow hmiddle hlegal.1 hlegal.2,
    isSome_entry?_of_isFolderAt hsome⟩

theorem of_mem_dotNames (h : name ∈ dotNames tokens) :
    (name = here ∨ name = up) ∧ accepts tokens name = true := by
  unfold dotNames at h
  split at h
  · rcases List.mem_filter.1 h with ⟨hmem, haccepts⟩
    exact ⟨by simpa using hmem, haccepts⟩
  · cases h

/-! ## Ways to entries -/

/-- A name that a walk along the components can meet: one of an entry, a dot
name, or one that a component spells. -/
inductive IsMet (components : List Component) : Path → Prop
  | entry {name : Path} (h : IsEntryName name) : IsMet components name
  | dots {name : Path} (h : name = here ∨ name = up) : IsMet components name
  | spelled {name : Path} (h : .exactly name ∈ components) :
      IsMet components name

theorem IsMet.cons (h : IsMet components name) (component : Component) :
    IsMet (component :: components) name := by
  cases h with
  | entry h => exact .entry h
  | dots h => exact .dots h
  | spelled h => exact .spelled (List.mem_cons_of_mem component h)

/-- The names on a way from a directory to an entry that the components lead
to. -/
structure IsWay (disk : Disk) (components : List Component) (dir : Path)
    (names : List Path) : Prop where
  leads : Leads components names
  isMet : ∀ name ∈ names, IsMet components name
  exists? : components ≠ [] → disk.exists? (names.foldl child dir) = true
  isDirectory : components.getLast? = some .directories →
    disk.isDirectory (names.foldl child dir) = true

theorem isWay_nil (disk : Disk) (dir : Path) : IsWay disk [] dir [] where
  leads := .nil
  isMet := List.forall_mem_nil _
  exists? := fun h => absurd rfl h
  isDirectory := fun hlast => absurd hlast (by simp)

theorem IsWay.cons (h : IsWay disk rest (child dir name) names)
    (hne : component ≠ .directories) (haccepts : component.accepts name = true)
    (hmet : IsMet (component :: rest) name)
    (hexists : disk.exists? (child dir name) = true) :
    IsWay disk (component :: rest) dir (name :: names) where
  leads := .name hne haccepts h.leads
  isMet := List.forall_mem_cons.2
    ⟨hmet, fun other hother => (h.isMet other hother).cons component⟩
  exists? := by
    intro _
    by_cases hnil : rest = []
    · subst hnil
      cases h.leads
      exact hexists
    · exact h.exists? hnil
  isDirectory := by
    intro hlast
    apply h.isDirectory
    rw [List.getLast?_cons] at hlast
    cases hrest : rest.getLast? with
    | none =>
        rw [hrest] at hlast
        exact absurd (Option.some.inj hlast) hne
    | some last =>
        rw [hrest] at hlast
        exact hlast

theorem IsWay.prepend (h : IsWay disk components (front.foldl child dir) names)
    (hne : components ≠ []) (hfront : ∀ name ∈ front, IsEntryName name) :
    IsWay disk (.directories :: components) dir (front ++ names) where
  leads := .directories front hne h.leads
  isMet := List.forall_mem_append.2
    ⟨fun other hother => .entry (hfront other hother),
      fun other hother => (h.isMet other hother).cons .directories⟩
  exists? := by
    rw [List.foldl_append]
    exact fun _ => h.exists? hne
  isDirectory := by
    intro hlast
    rw [List.foldl_append]
    apply h.isDirectory
    rw [List.getLast?_cons, List.getLast?_eq_some_getLast hne] at hlast
    rw [List.getLast?_eq_some_getLast hne]
    exact hlast

/-- Any directories, and then the entry that the component behind them
accepts. -/
theorem IsWay.behind {last : Path}
    (h : IsWay disk rest ((front ++ [last]).foldl child dir) names)
    (hne : component ≠ .directories) (haccepts : component.accepts last = true)
    (hentry : ∀ name ∈ front ++ [last], IsEntryName name)
    (hexists : disk.exists? ((front ++ [last]).foldl child dir) = true) :
    IsWay disk (.directories :: component :: rest) dir
      (front ++ last :: names) := by
  rw [List.foldl_append] at h hexists
  have hlast := hentry last (List.mem_append_right front List.mem_cons_self)
  have hcons := IsWay.cons h hne haccepts (.entry hlast) hexists
  exact hcons.prepend (List.cons_ne_nil _ _) fun name hname =>
    hentry name (List.mem_append_left _ hname)

theorem exists_isWay_of_mem_walk (htree : disk.IsTree)
    (hreduced : IsReduced components) (h : p ∈ walk disk components dir) :
    ∃ names, IsWay disk components dir names ∧ names.foldl child dir = p := by
  induction components, dir using walk.induct disk with
  | case1 dir =>
      rw [walk, List.mem_singleton] at h
      exact ⟨[], isWay_nil disk dir, h.symm⟩
  | case2 text rest dir hexists ih =>
      rw [walk, if_pos hexists] at h
      rcases ih hreduced.2 h with ⟨names, hway, hp⟩
      have haccepts : (Component.exactly text).accepts text = true :=
        decide_eq_true rfl
      exact ⟨text :: names,
        hway.cons (by simp) haccepts (.spelled List.mem_cons_self) hexists, hp⟩
  | case3 text rest dir hexists =>
      rw [walk, if_neg hexists] at h
      cases h
  | case4 tokens rest dir hdir ih =>
      rw [walk, if_pos hdir, List.mem_flatMap] at h
      rcases h with ⟨name, hname, h⟩
      rcases ih name hreduced.2 h with ⟨names, hway, hp⟩
      have hfound : accepts tokens name = true ∧
          IsMet (.pattern tokens :: rest) name ∧
          disk.exists? (child dir name) = true := by
        rcases List.mem_append.1 hname with hname | hname
        · rcases List.mem_filter.1 hname with ⟨hmem, haccepts⟩
          rcases exists?_of_mem_below htree (mem_names_iff.1 hmem) with
            ⟨hentry, hexists⟩
          exact ⟨haccepts, .entry (hentry name List.mem_cons_self), hexists⟩
        · rcases of_mem_dotNames hname with ⟨hdots, haccepts⟩
          exact ⟨haccepts, .dots hdots, exists?_child_dot htree hdir hdots⟩
      exact ⟨name :: names,
        hway.cons (by simp) hfound.1 hfound.2.1 hfound.2.2, hp⟩
  | case5 tokens rest dir hdir =>
      rw [walk, if_neg hdir] at h
      cases h
  | case6 dir =>
      rw [walk, List.mem_filter, List.mem_map] at h
      rcases h with ⟨⟨way, hway, rfl⟩, hdirectory⟩
      rcases mem_below_iff.1 hway with ⟨_, _, hne, _⟩
      refine ⟨way, ⟨.all hne, ?_, ?_, ?_⟩, rfl⟩
      · exact fun name hname =>
          .entry ((exists?_of_mem_below htree hway).1 name hname)
      · exact fun _ => exists?_of_isDirectory hdirectory
      · exact fun _ => hdirectory
  | case7 component rest dir ih =>
      rw [walk, List.mem_flatMap] at h
      rcases h with ⟨way, hway, h⟩
      rcases mem_below_iff.1 hway with ⟨_, _, hne, _⟩
      rcases exists?_of_mem_below htree hway with ⟨hentry, hexists⟩
      split at h
      next hlast =>
        have hcomponent : component ≠ .directories :=
          fun heq => hreduced.1 rfl (congrArg some heq)
        rcases ih way hreduced.2.2 h with ⟨names, hbehind, hp⟩
        rcases List.eq_nil_or_concat way with hnil | ⟨front, last, rfl⟩
        · exact absurd hnil hne
        · rw [List.concat_eq_append] at *
          rw [List.getLast?_concat] at hlast
          refine ⟨front ++ last :: names,
            hbehind.behind hcomponent hlast hentry hexists, ?_⟩
          rw [← hp, ← List.foldl_append, List.append_cons]
      next => cases h

/-! ## Entries on ways -/

/-- The names on the way to an entry of a tree are those of entries in
directories. -/
theorem follow_foldl_child_of_mem (htree : disk.IsTree)
    (hfollow : disk.follow dir = .ok location)
    (hentry : location ++ (front ++ names) ∈ disk.entries.map (·.1))
    (hne : front ≠ []) :
    disk.follow (front.foldl child dir) = .ok (location ++ front) ∧
      location ++ front ∈ disk.entries.map (·.1) := by
  have hnames : ∀ name ∈ front, IsEntryName name := fun name hname =>
    htree.isEntryName _ hentry name
      (List.mem_append_right _ (List.mem_append_left _ hname))
  have hmem : location ++ front ∈ disk.entries.map (·.1) := by
    by_cases hnil : names = []
    · rw [hnil, List.append_nil] at hentry
      exact hentry
    · rw [← List.append_assoc] at hentry
      have hfolder := isFolderAt_of_followNames (htree.followNames hentry) hnil
      exact (isSome_entry?_iff
        (List.append_ne_nil_of_right_ne_nil location hne)).1
        (isSome_entry?_of_isFolderAt hfolder)
  exact ⟨follow_foldl_child hfollow (htree.followNames hmem) fun name hname =>
    ⟨(hnames name hname).separator_notMem, (hnames name hname).zero_notMem⟩,
      hmem⟩

theorem isDirectory_of_mem (htree : disk.IsTree)
    (hfollow : disk.follow dir = .ok location)
    (hentry : location ++ names ∈ disk.entries.map (·.1)) (hne : names ≠ []) :
    disk.isDirectory dir = true :=
  isDirectory_iff.2
    ⟨location, hfollow,
      isFolderAt_of_followNames (htree.followNames hentry) hne⟩

/-- The names on a way along entries of a disk, from the entry at a location
that a directory spells. -/
structure LeadsAlong (disk : Disk) (components : List Component)
    (location : DiskLocation) (dir : Path) (names : List Path) : Prop where
  leads : Leads components names
  follow : disk.follow dir = .ok location
  mem_entries : names ≠ [] → location ++ names ∈ disk.entries.map (·.1)
  isDirectory : components.getLast? = some .directories →
    disk.isDirectory (names.foldl child dir) = true

/-- The way goes on from each entry on it. -/
theorem LeadsAlong.behind (htree : disk.IsTree)
    (h : LeadsAlong disk components location dir (front ++ names))
    (hne : front ≠ []) (hrest : Leads rest names)
    (hlast : rest.getLast? = some .directories →
      components.getLast? = some .directories) :
    location ++ front ∈ disk.entries.map (·.1) ∧
      LeadsAlong disk rest (location ++ front) (front.foldl child dir)
        names := by
  have hentry := h.mem_entries (List.append_ne_nil_of_left_ne_nil hne names)
  have hstep := follow_foldl_child_of_mem htree h.follow hentry hne
  refine ⟨hstep.2, hrest, hstep.1, fun _ => ?_, fun hdirectories => ?_⟩
  · rw [List.append_assoc]
    exact hentry
  · rw [← List.foldl_append]
    exact h.isDirectory (hlast hdirectories)

theorem getLast?_cons_of_eq_some (h : rest.getLast? = some .directories) :
    (component :: rest).getLast? = some .directories := by
  rw [List.getLast?_cons, h]
  rfl

theorem LeadsAlong.exists_name (htree : disk.IsTree)
    (h : LeadsAlong disk (component :: rest) location dir names)
    (hne : component ≠ .directories) :
    ∃ name back, names = name :: back ∧ component.accepts name = true ∧
      location ++ [name] ∈ disk.entries.map (·.1) ∧
      LeadsAlong disk rest (location ++ [name]) (child dir name) back := by
  rcases (leads_cons_iff hne).1 h.leads with ⟨name, back, rfl, haccepts, hrest⟩
  have hwhole : LeadsAlong disk (component :: rest) location dir
      ([name] ++ back) := h
  have hbehind := hwhole.behind htree (List.cons_ne_nil _ _) hrest
    getLast?_cons_of_eq_some
  exact ⟨name, back, rfl, haccepts, hbehind.1, hbehind.2⟩

/-- Any directories before a component lead on to the entry that the component
accepts. -/
theorem LeadsAlong.exists_front (htree : disk.IsTree)
    (h : LeadsAlong disk (.directories :: component :: rest) location dir names)
    (hne : component ≠ .directories) :
    ∃ front last back, names = front ++ [last] ++ back ∧
      component.accepts last = true ∧
      location ++ (front ++ [last]) ∈ disk.entries.map (·.1) ∧
      LeadsAlong disk rest (location ++ (front ++ [last]))
        ((front ++ [last]).foldl child dir) back := by
  rcases (leads_directories_iff (List.cons_ne_nil _ _)).1 h.leads with
    ⟨front, further, rfl, hfurther⟩
  rcases (leads_cons_iff hne).1 hfurther with ⟨last, back, rfl, haccepts, hrest⟩
  rw [List.append_cons] at h
  have hfront : front ++ [last] ≠ [] :=
    List.append_ne_nil_of_right_ne_nil front (List.cons_ne_nil _ _)
  have hbehind := h.behind htree hfront hrest fun hlast =>
    getLast?_cons_of_eq_some (getLast?_cons_of_eq_some hlast)
  exact ⟨front, last, back, List.append_cons front last back, haccepts,
    hbehind.1, hbehind.2⟩

theorem exists?_of_follow_of_mem (hfollow : disk.follow p = .ok location)
    (hentry : location ∈ disk.entries.map (·.1)) (hne : location ≠ []) :
    disk.exists? p = true :=
  exists?_iff.2 ⟨location, hfollow, (isSome_entry?_iff hne).2 hentry⟩

/-- A walk finds what the components lead to among the entries of a tree. -/
theorem LeadsAlong.mem_walk (htree : disk.IsTree)
    (hreduced : IsReduced components)
    (h : LeadsAlong disk components location dir names) :
    names.foldl child dir ∈ walk disk components dir := by
  induction components,
    dir using walk.induct disk generalizing names location with
  | case1 dir =>
      cases h.leads
      exact List.mem_singleton_self dir
  | case2 text rest dir hexists ih =>
      rcases h.exists_name htree (by simp) with
        ⟨name, back, rfl, haccepts, _, hback⟩
      obtain rfl : text = name := of_decide_eq_true haccepts
      rw [walk, if_pos hexists]
      exact ih hreduced.2 hback
  | case3 text rest dir hexists =>
      rcases h.exists_name htree (by simp) with
        ⟨name, back, rfl, haccepts, hentry, hback⟩
      obtain rfl : text = name := of_decide_eq_true haccepts
      have hne : location ++ [text] ≠ [] :=
        List.append_ne_nil_of_right_ne_nil _ (List.cons_ne_nil _ _)
      exact absurd (exists?_of_follow_of_mem hback.follow hentry hne) hexists
  | case4 tokens rest dir hdir ih =>
      rcases h.exists_name htree (by simp) with
        ⟨name, back, rfl, haccepts, hentry, hback⟩
      have hname : name ∈ disk.names dir :=
        mem_names_iff.2
          (mem_below_iff.2 ⟨location, h.follow, List.cons_ne_nil _ _, hentry⟩)
      rw [walk, if_pos hdir, List.mem_flatMap]
      exact ⟨name, List.mem_append_left _ (List.mem_filter.2 ⟨hname, haccepts⟩),
        ih name hreduced.2 hback⟩
  | case5 tokens rest dir hdir =>
      rcases h.exists_name htree (by simp) with ⟨name, back, rfl, _, hentry, _⟩
      exact absurd (isDirectory_of_mem htree h.follow hentry
        (List.cons_ne_nil _ _)) hdir
  | case6 dir =>
      have hne := leads_singleton_directories_iff.1 h.leads
      rw [walk, List.mem_filter, List.mem_map]
      exact ⟨⟨names, mem_below_iff.2
        ⟨location, h.follow, hne, h.mem_entries hne⟩, rfl⟩, h.isDirectory rfl⟩
  | case7 component rest dir ih =>
      have hcomponent : component ≠ .directories :=
        fun heq => hreduced.1 rfl (congrArg some heq)
      rcases h.exists_front htree hcomponent with
        ⟨front, last, back, rfl, haccepts, hentry, hback⟩
      have hne : front ++ [last] ≠ [] :=
        List.append_ne_nil_of_right_ne_nil front (List.cons_ne_nil _ _)
      rw [walk, List.mem_flatMap, List.foldl_append]
      refine ⟨front ++ [last],
        mem_below_iff.2 ⟨location, h.follow, hne, hentry⟩, ?_⟩
      rw [List.getLast?_concat, Option.any_some, if_pos haccepts]
      exact ih (front ++ [last]) hreduced.2.2 hback

end Glob
end BuildHost
