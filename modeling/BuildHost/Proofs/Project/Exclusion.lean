import BuildHost.Proofs.Glob.Expansion
import BuildHost.Proofs.Project.RootFiles

/-!
# Excluded files

A pattern of excluded files leaves out the included files that it lists and
those in directories that it lists.  It is matched against whole paths, so it
leaves out more than that: its wildcards pass separators, and `**` at its end
stands for files too (`rootFiles_of_excluded`).  Files that are listed by path
are never left out.
-/

namespace BuildHost

open BuildHost.Path

namespace ProjectConfig

variable {config : ProjectConfig} {disk : Disk} {dir p t : Path} {root : Root}
  {segments front : List Path} {tokens : List Glob.Token}

/-! ## The directories around a path -/

/-- The path is `p` itself or a directory around it, the root apart. -/
structure IsAround (t p : Path) : Prop where
  isNormal : IsNormal t
  isRooted : Path.isRooted t = true
  contains : Contains t p
  ne_nil : (view t).2 ≠ []

theorem isAround_render_iff (h : IsPlace root segments) :
    IsAround t (render root segments) ↔
      ∃ front back, segments = front ++ back ∧ front ≠ [] ∧ IsPlace root front ∧
        t = render root front := by
  constructor
  · intro ht
    have hplace := isPlace_view ht.isRooted
    have hrender := ht.isNormal.render_view ht.isRooted
    rcases contains_iff.1 ht.contains with ⟨back, hview⟩
    rw [h.view_render, Prod.mk.injEq] at hview
    rw [← hview.1] at hplace hrender
    exact ⟨_, back, hview.2, ht.ne_nil, hplace, hrender.symm⟩
  · rintro ⟨front, back, rfl, hne, hplace, rfl⟩
    refine ⟨hplace.isNormal_render, hplace.isRooted_render,
      contains_iff.2 ⟨back, ?_⟩, ?_⟩
    · rw [h.view_render, hplace.view_render]
    · rw [hplace.view_render]
      exact hne

theorem mem_textsAbove_iff :
    t ∈ textsAbove p ↔ ∃ rest, p = t ++ separator :: rest := by
  simp only [textsAbove, List.mem_map, List.mem_filter, Glob.mem_suffixes_iff,
    decide_eq_true_eq]
  constructor
  · rintro ⟨suffix, ⟨⟨behind, hbehind⟩, hhead⟩, rfl⟩
    rcases List.head?_eq_some_iff.1 hhead with ⟨above, rfl⟩
    refine ⟨behind.reverse, ?_⟩
    have htext := congrArg List.reverse hbehind
    rw [List.reverse_reverse, List.reverse_append, List.reverse_cons,
      List.append_assoc] at htext
    exact htext.symm
  · rintro ⟨rest, rfl⟩
    refine ⟨separator :: t.reverse, ⟨⟨rest.reverse, ?_⟩, rfl⟩,
      List.reverse_reverse t⟩
    rw [List.reverse_append, List.reverse_cons, List.append_assoc]
    rfl

/-- The names of a path at a root: what stands before the first separator, and
the segments. -/
theorem splitOn_render (h : IsPlace root segments) (hne : segments ≠ []) :
    (render root segments).splitOn separator
      = root.text.dropLast :: segments := by
  have hsegments := List.splitOn_intercalate separator
    (separator_notMem_of_isPlain h.isPlain) hne
  rw [render_of_isRooted h.isRooted]
  cases root with
  | none => cases h.isRooted
  | slash =>
      have htext : Root.slash.text ++ [separator].intercalate segments
          = [] ++ separator :: [separator].intercalate segments := rfl
      rw [htext, List.splitOn_append_cons_self, hsegments]
      rfl
  | drive letter =>
      have htext : (Root.drive letter).text ++ [separator].intercalate segments
          = [letter, ':'] ++ separator :: [separator].intercalate segments :=
        rfl
      have hdrive : separator ∉ [letter, ':'] :=
        (Root.isPlain_segments h.isReadable _
          List.mem_cons_self).separator_notMem
      rw [htext, List.splitOn_append_cons_self, hsegments,
        List.splitOn_eq_singleton hdrive]
      rfl

theorem intercalate_eq_render (hroot : root.isRooted = true)
    (hne : front ≠ []) :
    [separator].intercalate (root.text.dropLast :: front)
      = render root front := by
  rw [List.intercalate_cons_of_ne_nil hne, render_of_isRooted hroot]
  cases root with
  | none => cases hroot
  | slash => rfl
  | drive letter => rfl

/-- Cut at a separator, a path is left with a directory around it, or with what
stands before the first separator. -/
theorem mem_textsAbove_render_iff (h : IsPlace root segments)
    (hne : segments ≠ []) :
    t ∈ textsAbove (render root segments) ↔ t = root.text.dropLast ∨
      ∃ front back, segments = front ++ back ∧ front ≠ [] ∧ back ≠ [] ∧
        t = render root front := by
  rw [mem_textsAbove_iff]
  constructor
  · rintro ⟨rest, htext⟩
    have hsplit := splitOn_render h hne
    rw [htext, List.splitOn_append_cons_self] at hsplit
    have hjoin : [separator].intercalate (t.splitOn separator) = t :=
      List.intercalate_splitOn separator
    cases hnames : t.splitOn separator with
    | nil => exact absurd hnames (List.splitOn_ne_nil _ _)
    | cons first front =>
        rw [hnames, List.cons_append, List.cons.injEq] at hsplit
        rw [hnames, hsplit.1] at hjoin
        by_cases hfront : front = []
        · rw [hfront, List.intercalate_singleton] at hjoin
          exact .inl hjoin.symm
        · refine .inr ⟨front, _, hsplit.2.symm, hfront,
            List.splitOn_ne_nil _ _, ?_⟩
          rw [← hjoin, intercalate_eq_render h.isRooted hfront]
  · have hjoin : [separator].intercalate (root.text.dropLast :: segments)
        = render root segments :=
      intercalate_eq_render h.isRooted hne
    rintro (rfl | ⟨front, back, rfl, hfront, hback, rfl⟩)
    · refine ⟨[separator].intercalate segments, ?_⟩
      rw [← hjoin, List.intercalate_cons_of_ne_nil hne, List.append_assoc]
      rfl
    · refine ⟨[separator].intercalate back, ?_⟩
      rw [← hjoin, ← intercalate_eq_render h.isRooted hfront,
        ← List.cons_append, intercalate_append (List.cons_ne_nil _ _) hback]

/-! ## What is excluded -/

theorem separator_mem_text (h : root.isRooted = true) :
    separator ∈ root.text := by
  cases root with
  | none => cases h
  | slash => exact List.mem_cons_self
  | drive letter =>
      exact List.mem_cons_of_mem _ (List.mem_cons_of_mem _ List.mem_cons_self)

theorem separator_notMem_dropLast_text (h : IsPlace root segments) :
    separator ∉ root.text.dropLast := by
  cases root with
  | none => exact List.not_mem_nil
  | slash => exact List.not_mem_nil
  | drive letter =>
      exact (Root.isPlain_segments h.isReadable _
        List.mem_cons_self).separator_notMem

theorem isRooted_of_text_isPrefix (h : IsPlace root segments)
    (hp : root.text <+: p) : Path.isRooted p = true := by
  rcases hp with ⟨rest, rfl⟩
  have hback : '\\' ∉ root.text := by
    cases root with
    | none => exact List.not_mem_nil
    | slash => decide
    | drive letter =>
        have hplain := Root.isPlain_segments h.isReadable _ List.mem_cons_self
        have htext : (Root.drive letter).text
            = [letter, ':'] ++ [separator] := rfl
        rw [htext, List.mem_append, not_or]
        exact ⟨hplain.backslash_notMem, by decide⟩
  rw [Path.isRooted, normalizeSeparators_append,
    normalizeSeparators_eq_self hback, splitRoot_text h.isReadable h.isRooted]
  exact h.isRooted

/-- A pattern at a root leaves out the paths that it accepts, and those in
directories that it accepts. -/
theorem isUnder_iff (hpattern : IsPlace root segments)
    (hparse : Glob.parse (render root segments) = .ok tokens) (hp : IsNormal p)
    (hne : (view p).2 ≠ []) :
    isUnder tokens p = true ↔
      ∃ t, IsAround t p ∧ Glob.accepts tokens t = true := by
  have hroot : ∀ text, Glob.accepts tokens text = true →
      root.text <+: text := fun text haccepts =>
    Glob.text_isPrefix_of_reads hpattern hparse (Glob.reads_of_accepts haccepts)
  rw [isUnder, Bool.or_eq_true, List.any_eq_true]
  by_cases hr : Path.isRooted p = true
  · have hplace := isPlace_view hr
    have hrender := hp.render_view hr
    constructor
    · rintro (haccepts | ⟨t, ht, haccepts⟩)
      · exact ⟨p, ⟨hp, hr, contains_self p, hne⟩, haccepts⟩
      · rw [← hrender] at ht ⊢
        rcases (mem_textsAbove_render_iff hplace hne).1 ht with
          rfl | ⟨front, back, hsegments, hfront, _, rfl⟩
        · exact absurd
            ((hroot _ haccepts).subset (separator_mem_text hpattern.isRooted))
            (separator_notMem_dropLast_text hplace)
        · refine ⟨_, (isAround_render_iff hplace).2
            ⟨front, back, hsegments, hfront, ?_, rfl⟩, haccepts⟩
          rw [hsegments] at hplace
          exact hplace.of_append
    · rintro ⟨t, ht, haccepts⟩
      rw [← hrender] at ht ⊢
      rcases (isAround_render_iff hplace).1 ht with
        ⟨front, back, hsegments, hfront, _, rfl⟩
      by_cases hback : back = []
      · rw [hback, List.append_nil] at hsegments
        rw [hsegments]
        exact .inl haccepts
      · have habove := (mem_textsAbove_render_iff hplace hne).2
          (.inr ⟨front, back, hsegments, hfront, hback, rfl⟩)
        exact .inr ⟨_, habove, haccepts⟩
  · -- what the pattern accepts starts at its root, and nothing cut off such a
    -- path does
    refine iff_of_false ?_ ?_
    · rintro (haccepts | ⟨t, ht, haccepts⟩)
      · exact hr (isRooted_of_text_isPrefix hpattern (hroot p haccepts))
      · rcases mem_textsAbove_iff.1 ht with ⟨rest, rfl⟩
        exact hr
          (isRooted_of_text_isPrefix hpattern
            ((hroot t haccepts).trans (List.prefix_append _ _)))
    · rintro ⟨t, ht, _⟩
      apply hr
      apply hp.isRooted
      rw [← ht.contains.1]
      exact isRooted_view ht.isRooted

/-- The tokens stand for the path as a whole, but only with a wildcard that
passes a separator, or with `**` at the end for what is no directory. -/
def AcceptsAcross (disk : Disk) (tokens : List Glob.Token) (t : Path) : Prop :=
  Glob.accepts tokens t = true ∧ ¬ (Glob.Reads (· ≠ separator) tokens t ∧
    (tokens.getLast? = some .anyDirectories → disk.isDirectory t = true))

/-- Names, and `**` between them, accept nothing across separators. -/
theorem not_acceptsAcross
    (htokens : ∀ token ∈ tokens, token = .anyDirectories ∨ ∃ c, token = .char c)
    (hlast : tokens.getLast? ≠ some .anyDirectories) :
    ¬ AcceptsAcross disk tokens t := by
  rintro ⟨haccepts, hacross⟩
  exact hacross ⟨(Glob.reads_of_accepts haccepts).of_forall_token htokens,
    fun heq => absurd heq hlast⟩

theorem exists?_of_isAround (hp : IsNormal p) (hexists : disk.exists? p = true)
    (ht : IsAround t p) :
    disk.exists? t = true := by
  have hr : Path.isRooted p = true := by
    apply hp.isRooted
    rw [← ht.contains.1]
    exact isRooted_view ht.isRooted
  have hplace := isPlace_view hr
  have hrender := hp.render_view hr
  rw [← hrender] at ht hexists
  rcases (isAround_render_iff hplace).1 ht with
    ⟨front, back, hsegments, hfront, hfrontPlace, rfl⟩
  by_cases hback : back = []
  · rw [hback, List.append_nil] at hsegments
    rw [← hsegments]
    exact hexists
  · rw [hsegments] at hplace hexists
    have hne : front ++ back ≠ [] :=
      List.append_ne_nil_of_right_ne_nil front hback
    rcases Disk.exists?_iff.1 hexists with ⟨location, hfollow, _⟩
    rcases (Disk.follow_render_eq_ok_iff hplace hne).1 hfollow with
      ⟨hzero, hnames⟩
    rw [← List.append_assoc] at hzero hnames
    rcases Disk.followNames_append_eq_ok_iff.1 hnames with
      ⟨around, haround, hbehind⟩
    refine Disk.exists?_iff.2
      ⟨around, (Disk.follow_render_eq_ok_iff hfrontPlace hfront).2
        ⟨?_, haround⟩, ?_⟩
    · exact fun name hname => hzero name (List.mem_append_left _ hname)
    · exact Disk.isSome_entry?_of_isFolderAt
        (Disk.isFolderAt_of_followNames hbehind hback)

/-- What leaves out an existing path: something around it that the pattern
lists, or accepts across separators. -/
theorem isUnder_iff_listed (htree : disk.IsTree) {found : List Path}
    (hpattern : IsPlace root segments) (hsegments : segments ≠ [])
    (hparse : Glob.parse (render root segments) = .ok tokens)
    (hfound : Glob.find disk (render root segments) = .ok found)
    (hp : IsNormal p) (hne : (view p).2 ≠ [])
    (hexists : disk.exists? p = true) :
    isUnder tokens p = true ↔
      ∃ t, IsAround t p ∧
        (t ∈ found.map Glob.asWritten ∨ AcceptsAcross disk tokens t) := by
  rw [isUnder_iff hpattern hparse hp hne]
  have hlisted : ∀ t, IsAround t p →
      (t ∈ found.map Glob.asWritten ↔ Glob.Reads (· ≠ separator) tokens t ∧
        (tokens.getLast? = some .anyDirectories →
          disk.isDirectory t = true)) := by
    intro t ht
    have hrender := ht.isNormal.render_view ht.isRooted
    rw [← hrender]
    apply Glob.mem_map_asWritten_iff htree hpattern hsegments hparse hfound
      (isPlace_view ht.isRooted) ht.ne_nil
    rw [hrender]
    exact exists?_of_isAround hp hexists ht
  constructor
  · rintro ⟨t, ht, haccepts⟩
    refine ⟨t, ht, ?_⟩
    by_cases hwithin : t ∈ found.map Glob.asWritten
    · exact .inl hwithin
    · exact .inr ⟨haccepts, fun h => hwithin ((hlisted t ht).2 h)⟩
  · rintro ⟨t, ht, hwithin | hacross⟩
    · exact ⟨t, ht, Glob.accepts_of_reads ((hlisted t ht).1 hwithin).1⟩
    · exact ⟨t, ht, hacross.1⟩

/-! ## Root files -/

/-- The path that a text of the project file stands for. -/
def resolved (dir : Path) (text : String) : Path :=
  Path.readFrom dir.normalize text.toList

/-- A pattern of included files finds the source. -/
def Includes (config : ProjectConfig) (disk : Disk) (dir p : Path) : Prop :=
  IsSource p ∧ ∃ pattern ∈ config.includePatterns, ∃ found,
    Glob.find disk (includePattern (resolved dir pattern)) = .ok found ∧
      p ∈ found.map Path.normalize

theorem IsSource.view_ne_nil (h : IsSource p) (hp : IsNormal p) :
    (view p).2 ≠ [] := by
  have hdot : '.' ∈ p := by
    rcases h with h | h <;> exact h.subset (by decide)
  intro hnil
  have htext := splitRoot_text_append p
  rw [view, hp] at hnil
  rw [← htext, List.mem_append] at hdot
  rcases hdot with hdot | hdot
  · have hreadable := isReadable_splitRoot p
    cases hroot : (splitRoot p).1 with
    | none =>
        rw [hroot] at hdot
        cases hdot
    | slash =>
        rw [hroot] at hdot
        exact absurd hdot (by decide)
    | drive letter =>
        rw [hroot] at hdot hreadable
        have hletter : letter.isAlpha = true := hreadable
        rcases List.mem_cons.1 hdot with rfl | hdot
        · cases hletter
        · exact absurd hdot (by decide)
  · have hjoin : [separator].intercalate ((splitRoot p).2.splitOn separator)
        = (splitRoot p).2 :=
      List.intercalate_splitOn separator
    rw [← hjoin] at hdot
    rcases mem_of_mem_intercalate hdot with heq | ⟨name, hname, hmem⟩
    · exact absurd heq (by decide)
    · have hkept := List.filter_eq_nil_iff.1 hnil name hname
      exact absurd (not_not.1 (by simpa using hkept)) (List.ne_nil_of_mem hmem)

theorem backslash_notMem_includePattern (h : '\\' ∉ p) :
    '\\' ∉ includePattern p := by
  unfold includePattern
  dsimp only
  split
  · exact h
  · rw [List.mem_append, not_or]
    exact ⟨h, by decide⟩

theorem Includes.exists? (htree : disk.IsTree)
    (h : config.Includes disk dir p) :
    IsNormal p ∧ (view p).2 ≠ [] ∧ disk.exists? p = true := by
  rcases h with ⟨hsource, pattern, _, found, hfound, hp⟩
  rcases List.mem_map.1 hp with ⟨q, hq, rfl⟩
  have hnormal : IsNormal (Path.normalize q) := normalize_normalize q
  have hback : '\\' ∉ resolved dir pattern :=
    (isNormal_readFrom _ _).backslash_notMem
  refine ⟨hnormal, hsource.view_ne_nil hnormal, ?_⟩
  rcases Glob.exists?_normalize_of_mem_find htree
    (backslash_notMem_includePattern hback) hfound hq with rfl | hexists
  · exact absurd hsource (by decide)
  · exact hexists

theorem exists_mapM_eq_ok {patterns : List String}
    {finds : String → Except ProjectFault (List Path)}
    (h : ∀ pattern ∈ patterns, ∃ found, finds pattern = .ok found) :
    ∃ lists, patterns.mapM finds = .ok lists ∧
      ∀ p, p ∈ lists.flatten ↔ ∃ pattern ∈ patterns,
        ∃ found, finds pattern = .ok found ∧ p ∈ found := by
  induction patterns with
  | nil =>
      exact ⟨[], rfl,
        fun p =>
          iff_of_false List.not_mem_nil
            (by rintro ⟨pattern, hpattern, _⟩; cases hpattern)⟩
  | cons first rest ih =>
      rcases h first List.mem_cons_self with ⟨found, hfound⟩
      rcases ih fun pattern hpattern =>
        h pattern (List.mem_cons_of_mem _ hpattern) with ⟨lists, hlists, hmem⟩
      refine ⟨found :: lists, ?_, fun p => ?_⟩
      · rw [List.mapM_cons, hfound, hlists]
        rfl
      · rw [List.flatten_cons, List.mem_append, hmem]
        constructor
        · rintro (hp | ⟨pattern, hpattern, others, hothers, hp⟩)
          · exact ⟨first, List.mem_cons_self, found, hfound, hp⟩
          · exact ⟨pattern, List.mem_cons_of_mem _ hpattern, others,
              hothers, hp⟩
        · rintro ⟨pattern, hpattern, others, hothers, hp⟩
          rcases List.mem_cons.1 hpattern with rfl | hpattern
          · rw [hfound] at hothers
            cases hothers
            exact .inl hp
          · exact .inr ⟨pattern, hpattern, others, hothers, hp⟩

theorem mem_includedFiles_iff {pattern : Path} {found : List Path}
    (exclude : List (List Glob.Token))
    (hfound : Glob.find disk (includePattern pattern) = .ok found) :
    ∃ files, includedFiles disk exclude pattern = .ok files ∧
      ∀ p, p ∈ files ↔
        IsSource p ∧ p ∈ found.map Path.normalize ∧
        isExcluded exclude p = false := by
  refine ⟨_, by rw [includedFiles, hfound]; rfl, fun p => ?_⟩
  rw [List.mem_filter, Bool.and_eq_true, rootExtensions_any_iff,
    Bool.not_eq_true']
  exact and_left_comm

theorem isExcluded_singleton (tokens : List Glob.Token) (p : Path) :
    isExcluded [tokens] p = isUnder tokens p := by
  rw [isExcluded, List.isEmpty_cons, if_neg Bool.false_ne_true, List.any_cons,
    List.any_nil, Bool.or_false]

theorem exists_includedLists (tokens : List Glob.Token)
    (hincluded : ∀ pattern ∈ config.includePatterns,
      ∃ found, Glob.find disk (includePattern (resolved dir pattern))
        = .ok found) :
    ∃ lists,
      config.includePatterns.mapM (fun text =>
        includedFiles disk [tokens] (resolved dir text)) = .ok lists ∧
      ∀ p, p ∈ lists.flatten ↔
        config.Includes disk dir p ∧ isUnder tokens p = false := by
  have hfinds : ∀ pattern ∈ config.includePatterns,
      ∃ files, includedFiles disk [tokens] (resolved dir pattern)
        = .ok files := by
    intro pattern hpattern
    rcases hincluded pattern hpattern with ⟨found, hfound⟩
    rcases mem_includedFiles_iff [tokens] hfound with ⟨files, hfiles, _⟩
    exact ⟨files, hfiles⟩
  rcases exists_mapM_eq_ok hfinds with ⟨lists, hlists, hmem⟩
  refine ⟨lists, hlists, fun p => ?_⟩
  rw [hmem]
  constructor
  · rintro ⟨pattern, hpattern, files, hfiles, hp⟩
    rcases hincluded pattern hpattern with ⟨found, hfound⟩
    rcases mem_includedFiles_iff [tokens] hfound with ⟨others, hothers, hiff⟩
    rw [hfiles] at hothers
    cases hothers
    rcases (hiff p).1 hp with ⟨hsource, hp, hexcluded⟩
    exact ⟨⟨hsource, pattern, hpattern, found, hfound, hp⟩,
      isExcluded_singleton tokens p ▸ hexcluded⟩
  · rintro ⟨⟨hsource, pattern, hpattern, found, hfound, hp⟩, hunder⟩
    rcases mem_includedFiles_iff [tokens] hfound with ⟨files, hfiles, hiff⟩
    exact ⟨pattern, hpattern, files, hfiles,
      (hiff p).2 ⟨hsource, hp, (isExcluded_singleton tokens p).trans hunder⟩⟩

theorem not_includes_of_listed
    (h : config.included.isNone = true ∧ config.files.isSome = true) :
    ¬ config.Includes disk dir p := by
  rintro ⟨_, pattern, hpattern, _⟩
  rcases Option.isSome_iff_exists.1 h.2 with ⟨files, hfiles⟩
  rw [includePatterns, Option.isNone_iff_eq_none.1 h.1, hfiles] at hpattern
  cases hpattern

/-- With one pattern of excluded files, the root files are those listed by path,
and the included ones that the pattern does not leave out. -/
theorem exists_rootFiles_eq {text : String}
    (hexcluded : config.excluded = some [text])
    (hparse : Glob.parse (resolved dir text) = .ok tokens)
    (hincluded : ∀ pattern ∈ config.includePatterns,
      ∃ found, Glob.find disk (includePattern (resolved dir pattern))
        = .ok found) :
    ∃ paths, config.rootFiles disk dir = .ok paths ∧ ∀ p, p ∈ paths ↔
      p ∈ (config.files.getD []).map (resolved dir) ∨
        config.Includes disk dir p ∧ isUnder tokens p = false := by
  by_cases hlisted : config.included.isNone = true ∧ config.files.isSome = true
  · refine ⟨_, by rw [rootFiles, if_pos hlisted]; rfl, fun p => ?_⟩
    rw [mem_sorted_iff]
    exact (or_iff_left fun h => not_includes_of_listed hlisted h.1).symm
  · have hexclude : (config.excluded.getD []).mapM
        (fun text => excludePattern (resolved dir text)) = .ok [tokens] := by
      rw [hexcluded, Option.getD_some, List.mapM_cons, List.mapM_nil,
        excludePattern, hparse]
      rfl
    rcases exists_includedLists tokens hincluded with ⟨lists, hlists, hmem⟩
    refine ⟨_, rootFiles_eq_sorted hlisted hexclude hlists, fun p => ?_⟩
    rw [mem_sorted_iff, List.mem_append, hmem]
    rfl

/-- A project with one pattern of excluded files has as root files the files
that are listed by path, and the included files that are neither listed by the
pattern nor accepted across separators, and in no directory that is. -/
theorem rootFiles_of_excluded (htree : disk.IsTree)
    (hdir : Path.isRooted dir = true) {text : String} {listed : List Path}
    (hexcluded : config.excluded = some [text])
    (hroot : (view (resolved dir text)).2 ≠ [])
    (hlisted : Glob.find disk (resolved dir text) = .ok listed)
    (hincluded : ∀ pattern ∈ config.includePatterns,
      ∃ found, Glob.find disk (includePattern (resolved dir pattern))
        = .ok found) :
    ∃ tokens paths, Glob.parse (resolved dir text) = .ok tokens ∧
      config.rootFiles disk dir = .ok paths ∧
      ∀ p, p ∈ paths ↔ p ∈ (config.files.getD []).map (resolved dir) ∨
        config.Includes disk dir p ∧
          ∀ t, IsAround t p →
            t ∉ listed.map Glob.asWritten ∧ ¬ AcceptsAcross disk tokens t := by
  rcases Glob.of_find_eq_ok hlisted with ⟨tokens, _, hparse, _⟩
  rcases exists_rootFiles_eq hexcluded hparse hincluded with
    ⟨paths, hpaths, hmem⟩
  refine ⟨tokens, paths, hparse, hpaths,
    fun p =>
      (hmem p).trans (or_congr_right (and_congr_right fun hincludes => ?_))⟩
  have hr : Path.isRooted (resolved dir text) = true :=
    isRooted_readFrom (isRooted_normalize hdir) _
  have hplace := isPlace_view hr
  have hrender : render _ _ = resolved dir text :=
    IsNormal.render_view (isNormal_readFrom _ _) hr
  rw [← hrender] at hparse hlisted
  rcases hincludes.exists? htree with ⟨hnormal, hne, hexists⟩
  rw [← Bool.not_eq_true,
    isUnder_iff_listed htree hplace hroot hparse hlisted hnormal hne hexists]
  simp only [not_exists, not_and, not_or]

/-- A folder of sources with a folder of tests in it. -/
def testedDisk : Disk :=
  let tests := diskWithFiles ["p".toList, "src".toList, "testing".toList]
    ["b.ts".toList, "c.ts".toList]
  { tests with entries := tests.entries
    ++ [(["p".toList, "src".toList, "a.ts".toList], .file ByteArray.empty)] }

/-- A project without its tests, but for one that it lists by path. -/
def testedProject : ProjectConfig :=
  Draft.config
    { files := some (some ["src/testing/b.ts"]),
      included := some (some ["src"]), excluded := some (some ["src/testing"]) }

theorem rootFiles_testedProject :
    ∃ paths, testedProject.rootFiles testedDisk "/p".toList = .ok paths ∧
      "/p/src/a.ts".toList ∈ paths ∧ "/p/src/testing/b.ts".toList ∈ paths ∧
      "/p/src/testing/c.ts".toList ∉ paths := by
  have htree : testedDisk.IsTree := by decide
  have hexcluded : testedProject.excluded = some ["src/testing"] := rfl
  have hlisted : Glob.find testedDisk (resolved "/p".toList "src/testing")
      = .ok ["/p/src/testing".toList] := rfl
  have hincluded : Glob.find testedDisk
      (includePattern (resolved "/p".toList "src"))
        = .ok ["/p/src/testing".toList,
          "/p/src/testing/b.ts".toList, "/p/src/testing/c.ts".toList,
          "/p/src/a.ts".toList] := rfl
  have hpatterns : ∀ pattern ∈ testedProject.includePatterns,
      ∃ found,
        Glob.find testedDisk (includePattern (resolved "/p".toList pattern))
          = .ok found :=
    List.forall_mem_singleton.2 ⟨_, hincluded⟩
  rcases rootFiles_of_excluded htree (by decide) hexcluded
    (by decide) hlisted hpatterns with
    ⟨tokens, paths, hparse, hpaths, hmem⟩
  have hliteral : Glob.parse (resolved "/p".toList "src/testing")
      = .ok ("/p/src/testing".toList.map Glob.Token.char) := rfl
  obtain rfl := Except.ok.inj (hliteral.symm.trans hparse)
  refine ⟨paths, hpaths,
    (hmem _).2
    (.inr
      ⟨⟨by decide, "src", List.mem_singleton_self _, _, hincluded, by decide⟩,
        ?_⟩),
    (hmem _).2 (.inl (by decide)), fun hpath => ?_⟩
  · intro t ht
    constructor
    · intro hmem
      obtain rfl := List.mem_singleton.1 hmem
      exact absurd ht.contains (by decide)
    · refine not_acceptsAcross (fun token htoken => ?_) (by decide)
      rcases List.mem_map.1 htoken with ⟨c, _, hc⟩
      exact .inr ⟨c, hc.symm⟩
  · have haround : IsAround "/p/src/testing".toList
        "/p/src/testing/c.ts".toList :=
      ⟨by decide, by decide, by decide, by decide⟩
    rcases (hmem _).1 hpath with hfiles | ⟨_, hkept⟩
    · exact absurd hfiles (by decide)
    · exact (hkept _ haround).1 (List.mem_singleton_self _)

/-- A wildcard passes separators: the pattern lists nothing, and leaves out a
file in a folder. -/
theorem rootFiles_excluded_across :
    (diskWithFiles ["p".toList, "src".toList] ["a.ts".toList]).IsTree ∧
    Glob.find (diskWithFiles ["p".toList, "src".toList] ["a.ts".toList])
      (resolved "/p".toList "*.ts") = .ok [] ∧
    (Draft.config
      { included := some (some ["src/**/*.ts"]),
        excluded := some (some ["*.ts"]) }).Includes
      (diskWithFiles ["p".toList, "src".toList] ["a.ts".toList]) "/p".toList
        "/p/src/a.ts".toList ∧
    (Draft.config
      { included := some (some ["src/**/*.ts"]),
        excluded := some (some ["*.ts"]) }).rootFiles
      (diskWithFiles ["p".toList, "src".toList] ["a.ts".toList]) "/p".toList
        = .ok [] := by
  have hincluded : Glob.find
      (diskWithFiles ["p".toList, "src".toList] ["a.ts".toList])
      (includePattern (resolved "/p".toList "src/**/*.ts"))
        = .ok ["/p/src/a.ts".toList] := rfl
  have hnone : sorted [] = [] := by
    rw [sorted, List.mergeSort_nil]
    rfl
  have hroots : (Draft.config
      { included := some (some ["src/**/*.ts"]),
        excluded := some (some ["*.ts"]) }).rootFiles
      (diskWithFiles ["p".toList, "src".toList] ["a.ts".toList]) "/p".toList
        = .ok (sorted []) := rfl
  refine ⟨by decide, rfl,
    ⟨by decide, "src/**/*.ts", List.mem_singleton_self _, _,
      hincluded, by decide⟩, ?_⟩
  rw [hroots, hnone]

end ProjectConfig
end BuildHost
