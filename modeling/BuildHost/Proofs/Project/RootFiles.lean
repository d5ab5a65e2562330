import BuildHost.Project.RootFiles
import BuildHost.Proofs.FileRole
import BuildHost.Proofs.Glob.Walk
import BuildHost.Proofs.Path.Name
import Mathlib.Data.Char
import Mathlib.Data.List.Lex

/-!
# Root files of an included directory

Root files come in order and each once (`pairwise_sorted`).  A project file that
lists no files and includes one directory, or the one around it, has the sources
below that directory as root files, those in dependency folders apart
(`rootFiles_of_includesAll`).  A directory whose last segment has a dot is not
taken for one (`rootFiles_dotted`).
-/

namespace BuildHost

open BuildHost.Path

namespace ProjectConfig

variable {config : ProjectConfig} {disk : Disk} {dir top p q : Path}
  {paths : List Path}

/-! ## Order -/

theorem precedes_iff : precedes p q = true ↔ p ≤ q := by
  induction p generalizing q with
  | nil =>
      constructor
      · exact fun _ => not_lt.1 (List.not_lt_nil q)
      · exact fun _ => rfl
  | cons a p ih =>
      cases q with
      | nil =>
          constructor
          · intro h
            cases h
          · intro h
            exact absurd (List.nil_lt_cons a p) (not_lt.2 h)
      | cons b q =>
          rw [precedes, le_iff_lt_or_eq, List.cons_lt_cons_iff, List.cons.injEq]
          split
          next hab =>
            subst hab
            rw [ih, le_iff_lt_or_eq]
            simp
          next hab =>
            rw [decide_eq_true_eq]
            constructor
            · exact fun hlt => .inl (.inl hlt)
            · rintro ((hlt | ⟨heq, _⟩) | ⟨heq, _⟩)
              · exact hlt
              · exact absurd heq hab
              · exact absurd heq hab

theorem eraseRepsBy_loop_eq (a : Path) (rest taken : List Path) :
    List.eraseRepsBy.loop (· == ·) a rest taken
      = taken.reverse ++ (a :: rest).eraseReps := by
  induction rest generalizing a taken with
  | nil => exact List.reverse_cons
  | cons b rest ih =>
      rw [List.eraseReps, List.eraseRepsBy, List.eraseRepsBy.loop,
        List.eraseRepsBy.loop]
      split
      · rw [ih, ih, List.reverse_nil, List.nil_append]
      · rw [ih, ih, List.reverse_cons, List.append_assoc]
        rfl

theorem eraseReps_cons_cons (a b : Path) (rest : List Path) :
    (a :: b :: rest).eraseReps = if a = b then (b :: rest).eraseReps
      else a :: (b :: rest).eraseReps := by
  rw [List.eraseReps, List.eraseRepsBy, List.eraseRepsBy.loop]
  by_cases hab : a = b
  · subst hab
    rw [beq_self_eq_true, if_pos rfl]
    exact eraseRepsBy_loop_eq a rest []
  · rw [if_neg hab, beq_eq_false_iff_ne.2 hab]
    exact eraseRepsBy_loop_eq b rest [a]

theorem mem_eraseReps_iff : p ∈ paths.eraseReps ↔ p ∈ paths := by
  induction paths with
  | nil => exact Iff.rfl
  | cons a rest ih =>
      cases rest with
      | nil => exact Iff.rfl
      | cons b rest =>
          rw [eraseReps_cons_cons]
          split
          next hab =>
            subst hab
            rw [ih]
            simp
          next => rw [List.mem_cons, ih, List.mem_cons (a := p) (b := a)]

/-- Among paths in order, those that are alike stand together. -/
theorem pairwise_eraseReps (h : paths.Pairwise (· ≤ ·)) :
    paths.eraseReps.Pairwise (· < ·) := by
  induction paths with
  | nil => exact List.Pairwise.nil
  | cons a rest ih =>
      cases rest with
      | nil => exact List.pairwise_singleton _ a
      | cons b rest =>
          rcases List.pairwise_cons.1 h with ⟨hfirst, hrest⟩
          rw [eraseReps_cons_cons]
          split
          next => exact ih hrest
          next hab =>
            refine List.pairwise_cons.2 ⟨fun q hq => ?_, ih hrest⟩
            have hbq : b ≤ q := by
              rcases List.mem_cons.1 (mem_eraseReps_iff.1 hq) with heq | hmem
              · exact heq.ge
              · exact (List.pairwise_cons.1 hrest).1 q hmem
            exact lt_of_lt_of_le
              (lt_of_le_of_ne (hfirst b List.mem_cons_self) hab) hbq

theorem mem_sorted_iff : p ∈ sorted paths ↔ p ∈ paths :=
  mem_eraseReps_iff.trans List.mem_mergeSort

theorem pairwise_sorted (paths : List Path) :
    (sorted paths).Pairwise (· < ·) := by
  have hmerged : (paths.mergeSort precedes).Pairwise fun p q =>
      precedes p q = true := by
    apply List.pairwise_mergeSort
    · intro p q r hpq hqr
      exact precedes_iff.2 (le_trans (precedes_iff.1 hpq) (precedes_iff.1 hqr))
    · intro p q
      rw [Bool.or_eq_true, precedes_iff, precedes_iff]
      exact le_total p q
  exact pairwise_eraseReps (hmerged.imp precedes_iff.1)

/-! ## Dependency folders -/

/-- Whether a path has the ending of a source, be it a declaration file. -/
def IsSource (p : Path) : Prop :=
  ".ts".toList <:+ p ∨ ".tsx".toList <:+ p

instance (p : Path) : Decidable (IsSource p) :=
  inferInstanceAs (Decidable (_ ∨ _))

theorem rootExtensions_any_iff :
    rootExtensions.any (·.isSuffixOf p) = true ↔ IsSource p := by
  have hdeclaration : ".ts".toList <:+ ".d.ts".toList := ⟨".d".toList, rfl⟩
  simp only [rootExtensions, List.any_cons, List.any_nil, Bool.or_eq_true,
    List.isSuffixOf_iff_suffix, IsSource]
  constructor
  · intro h
    rcases h with h | h | h | h
    · exact .inl h
    · exact .inr h
    · exact .inl (hdeclaration.trans h)
    · cases h
  · intro h
    rcases h with h | h
    · exact .inl h
    · exact .inr (.inl h)

/-- A source has another name than a dependency folder. -/
theorem IsSource.ne_dependencyFolder {start : Path}
    (h : IsSource (start ++ separator :: dependencyFolder)) : False := by
  have hfolder : dependencyFolder <:+ start ++ separator :: dependencyFolder :=
    ⟨start ++ [separator], by rw [List.append_assoc]; rfl⟩
  rcases h with h | h
  · exact absurd (List.suffix_of_suffix_length_le h hfolder (by decide))
      (by decide)
  · exact absurd (List.suffix_of_suffix_length_le h hfolder (by decide))
      (by decide)

theorem isExcluded_nil_iff (hp : IsNormal p) (hr : Path.isRooted p = true)
    (hsource : IsSource p) :
    isExcluded [] p = true ↔ dependencyFolder ∈ (view p).2 := by
  have hcut : isExcluded [] p = (dependencyModule? p).isSome :=
    Option.isSome_map.symm
  rw [hcut]
  constructor
  · intro h
    rcases Option.isSome_iff_exists.1 h with ⟨module, hmodule⟩
    rcases exists_view_of_dependencyModule? hp hr hmodule with ⟨before, hview⟩
    rw [hview]
    exact List.mem_append_right _ List.mem_cons_self
  · intro h
    rcases List.append_of_mem h with ⟨before, after, hview⟩
    have hafter : after ≠ [] := by
      intro hnil
      rw [hnil] at hview
      rcases exists_eq_append_last hp hr (Prod.ext_iff.2 ⟨rfl, hview⟩) with
        ⟨_, start, hstart, _⟩
      rw [hstart] at hsource
      exact hsource.ne_dependencyFolder
    rcases exists_dependencyModule?_of_infix
      (dependencyMarker_infix_of_view hp hr hview hafter) with ⟨module, hmodule⟩
    rw [hmodule]
    rfl

/-! ## Everything below a directory -/

theorem includePattern_everything (text : Path) :
    includePattern (text ++ Glob.everything) = text ++ Glob.everything := by
  have hlast : ((text ++ Glob.everything).splitOn separator).getLast?.getD []
      = "*".toList := by
    rw [Glob.splitOn_everything]
    simp
  rw [includePattern, hlast]
  exact if_pos rfl

theorem includePattern_of_notMem (hliteral : ∀ c ∈ p, Glob.IsLiteral c)
    (hlast : '.' ∉ lastSegment p) :
    includePattern p = p ++ Glob.everything := by
  have hasterisk : '*' ∉ lastSegment p := by
    intro hmem
    have hne : p.splitOn separator ≠ [] := List.splitOn_ne_nil separator p
    rw [lastSegment, List.getLastD_eq_getLast?,
      List.getLast?_eq_some_getLast hne] at hmem
    exact (hliteral _ (mem_of_mem_splitOn (List.getLast_mem hne) hmem)).1 rfl
  rw [lastSegment, List.getLastD_eq_getLast?] at hlast hasterisk
  have hwhole : ¬ ((((p.splitOn separator).getLast?.getD []).contains '*'
      || ((p.splitOn separator).getLast?.getD []).contains '.') = true) := by
    simpa using ⟨hasterisk, hlast⟩
  exact if_neg hwhole

theorem readFrom_everything (hp : IsNormal p) (hr : Path.isRooted p = true) :
    readFrom p "**/*".toList = withSeparator p ++ "**/*".toList := by
  have htext : "**/*".toList
      = [separator].intercalate ["**".toList, "*".toList] := rfl
  have hrelative : ¬ Path.isRooted "**/*".toList = true := by decide
  have hplain : ∀ s ∈ ["**".toList, "*".toList], IsPlain s := by decide
  rw [readFrom, if_neg hrelative, htext]
  exact eq_withSeparator_append (isNormal_join _ _) (isRooted_join hr _) hp hr
    (List.cons_ne_nil _ _) (view_join_intercalate hr hplain)

theorem exists_includedFiles {text : Path} (htree : disk.IsTree)
    (htop : IsNormal top) (hrooted : Path.isRooted top = true)
    (htext : text = top ∨ text ++ [separator] = top)
    (hliteral : ∀ c ∈ text, Glob.IsLiteral c)
    (hpattern : includePattern p = text ++ Glob.everything) :
    ∃ found, includedFiles disk [] p = .ok found ∧ ∀ q, q ∈ found ↔
      IsNormal q ∧ IsBelow q top ∧ disk.exists? q = true ∧ IsSource q ∧
        dependencyFolder ∉ (view q).2 := by
  have hrender := htop.render_view hrooted
  rw [← hrender] at htext
  rcases Glob.exists_find_everything htree (isPlace_view hrooted) htext hliteral
    with ⟨found, hfound, hmem⟩
  rw [hrender] at hmem
  refine ⟨_, by rw [includedFiles, hpattern, hfound]; rfl, fun q => ?_⟩
  rw [List.mem_filter, hmem, Bool.and_eq_true, rootExtensions_any_iff]
  constructor
  · rintro ⟨⟨hnormal, hbelow, hexists⟩, hsource, hkept⟩
    refine ⟨hnormal, hbelow, hexists, hsource, ?_⟩
    intro hfolder
    rw [(isExcluded_nil_iff hnormal (hbelow.isRooted hnormal hrooted) hsource).2
      hfolder] at hkept
    cases hkept
  · rintro ⟨hnormal, hbelow, hexists, hsource, hfolder⟩
    refine ⟨⟨hnormal, hbelow, hexists⟩, hsource, ?_⟩
    rw [Bool.not_eq_true', Bool.eq_false_iff]
    intro hexcluded
    exact hfolder
      ((isExcluded_nil_iff hnormal (hbelow.isRooted hnormal hrooted) hsource).1
        hexcluded)

/-! ## One directory -/

/-- The project file in `dir` includes the directory `top`: it has no patterns
at all and is in it, or lists it.  A directory that is listed has no dot in its
last segment, since that is taken for the ending of a file. -/
inductive IncludesAll (config : ProjectConfig) (dir : Path) : Path → Prop
  | around (h : config.included = none) : IncludesAll config dir dir.normalize
  | listed (text : String) (h : config.included = some [text])
      (hlast : '.' ∉ lastSegment (readFrom dir.normalize text.toList)) :
      IncludesAll config dir (readFrom dir.normalize text.toList)

theorem IncludesAll.isNormal (h : config.IncludesAll dir top) :
    IsNormal top := by
  cases h with
  | around h => exact normalize_normalize dir
  | listed text h hlast => exact isNormal_readFrom _ _

theorem IncludesAll.isRooted (h : config.IncludesAll dir top)
    (hdir : Path.isRooted dir = true) :
    Path.isRooted top = true := by
  cases h with
  | around h => exact isRooted_normalize hdir
  | listed text h hlast => exact isRooted_readFrom (isRooted_normalize hdir) _

theorem IncludesAll.exists_pattern (h : config.IncludesAll dir top)
    (hdir : Path.isRooted dir = true) (hfiles : config.files = none)
    (hliteral : ∀ c ∈ top, Glob.IsLiteral c) :
    ∃ pattern text, config.includePatterns = [pattern] ∧
      (text = top ∨ text ++ [separator] = top) ∧
      includePattern (readFrom dir.normalize pattern.toList)
        = text ++ Glob.everything := by
  cases h with
  | around h =>
      rcases exists_withSeparator_eq dir.normalize with ⟨text, htext⟩
      have hread : readFrom dir.normalize "**/*".toList
          = text ++ Glob.everything := by
        rw [readFrom_everything (normalize_normalize dir)
          (isRooted_normalize hdir), htext, List.append_assoc]
        rfl
      refine ⟨"**/*", text, by rw [includePatterns, h, hfiles], ?_, ?_⟩
      · rw [withSeparator] at htext
        split at htext
        next => exact .inr htext.symm
        next => exact .inl (List.append_cancel_right htext).symm
      · rw [hread, includePattern_everything]
  | listed text h hlast =>
      exact ⟨text, _,
        by rw [includePatterns, h], .inl rfl,
        includePattern_of_notMem hliteral hlast⟩

/-- The root files are those listed by path, and what the patterns of included
files list. -/
theorem rootFiles_eq_sorted {exclude : List (List Glob.Token)}
    {lists : List (List Path)}
    (hlisted : ¬ (config.included.isNone = true ∧ config.files.isSome = true))
    (hexclude : (config.excluded.getD []).mapM
      (fun text => excludePattern (readFrom dir.normalize text.toList))
      = .ok exclude)
    (hfound : config.includePatterns.mapM
      (fun text => includedFiles disk exclude (readFrom dir.normalize
        text.toList))
      = .ok lists) :
    config.rootFiles disk dir
      = .ok (sorted
        ((config.files.getD []).map
            (fun text => readFrom dir.normalize text.toList)
          ++ lists.flatten)) := by
  unfold rootFiles
  dsimp only
  rw [if_neg hlisted, hexclude]
  show (config.includePatterns.mapM
    (fun text => includedFiles disk exclude (readFrom dir.normalize
      text.toList)) >>=
    fun found => pure (sorted (_ ++ found.flatten))) = _
  rw [hfound]
  rfl

theorem rootFiles_eq {pattern : String} {found : List Path}
    (hfiles : config.files = none) (hexcluded : config.excluded = none)
    (hpatterns : config.includePatterns = [pattern])
    (hfound : includedFiles disk [] (readFrom dir.normalize pattern.toList)
      = .ok found) :
    config.rootFiles disk dir = .ok (sorted found) := by
  have hlisted : ¬ (config.included.isNone = true ∧
      config.files.isSome = true) := by
    rw [hfiles]
    exact fun h => Bool.false_ne_true h.2
  have hexclude : (config.excluded.getD []).mapM
      (fun text => excludePattern (readFrom dir.normalize text.toList))
      = .ok [] := by
    rw [hexcluded]
    rfl
  have hlists : config.includePatterns.mapM
      (fun text => includedFiles disk [] (readFrom dir.normalize text.toList))
      = .ok [found] := by
    rw [hpatterns, List.mapM_cons, hfound]
    rfl
  rw [rootFiles_eq_sorted hlisted hexclude hlists, hfiles,
    List.flatten_singleton]
  rfl

/-- The root files of a project that includes one directory are the sources
below it. -/
theorem rootFiles_of_includesAll (htree : disk.IsTree)
    (hdir : Path.isRooted dir = true) (hfiles : config.files = none)
    (hexcluded : config.excluded = none)
    (hincludes : config.IncludesAll dir top)
    (hliteral : ∀ c ∈ top, Glob.IsLiteral c) :
    ∃ paths, config.rootFiles disk dir = .ok paths ∧ paths.Pairwise (· < ·) ∧
      (∀ p ∈ paths, IsBelow p top ∧ IsSource p ∧ dependencyFolder ∉ (view p).2 ∧
        disk.exists? p = true) ∧
      ∀ p, IsNormal p → disk.isFile p = true → IsBelow p top → IsSource p →
        dependencyFolder ∉ (view p).2 →
        p ∈ paths := by
  rcases hincludes.exists_pattern hdir hfiles hliteral with
    ⟨pattern, text, hpatterns, htext, hpattern⟩
  have htextLiteral : ∀ c ∈ text, Glob.IsLiteral c := by
    intro c hc
    apply hliteral
    rcases htext with heq | heq
    · exact heq ▸ hc
    · exact heq ▸ List.mem_append_left _ hc
  rcases exists_includedFiles htree hincludes.isNormal (hincludes.isRooted hdir)
    htext htextLiteral hpattern with
    ⟨found, hfound, hmem⟩
  refine ⟨sorted found, rootFiles_eq hfiles hexcluded hpatterns hfound,
    pairwise_sorted found, ?_, ?_⟩
  · intro p hp
    rcases (hmem p).1 (mem_sorted_iff.1 hp) with
      ⟨_, hbelow, hexists, hsource, hfolder⟩
    exact ⟨hbelow, hsource, hfolder, hexists⟩
  · intro p hnormal hfile hbelow hsource hfolder
    exact mem_sorted_iff.2
      ((hmem p).2 ⟨hnormal, hbelow, Disk.exists?_of_isFile hfile, hsource,
        hfolder⟩)

/-- A disk with a folder, those around it, and files without contents in it. -/
def diskWithFiles (location : DiskLocation) (names : List Path) : Disk where
  entries := (Disk.withFolderAt location).entries ++ names.map fun name =>
    (location ++ [name], .file ByteArray.empty)
  workingFolder := location

theorem rootFiles_of_includesAll_src : ∃ paths,
    (Draft.config { included := some (some ["src"]) }).rootFiles
        (diskWithFiles ["p".toList, "src".toList]
          ["b.tsx".toList, "a.ts".toList, "note.md".toList]) "/p/".toList
      = .ok paths ∧ paths.Pairwise (· < ·) ∧
    "/p/src/a.ts".toList ∈ paths ∧ "/p/src/b.tsx".toList ∈ paths ∧
    "/p/src/note.md".toList ∉ paths := by
  have htree : (diskWithFiles ["p".toList, "src".toList]
      ["b.tsx".toList, "a.ts".toList, "note.md".toList]).IsTree := by decide
  have hincludes : (Draft.config
      { included := some (some ["src"]) }).IncludesAll "/p/".toList
        "/p/src".toList :=
    .listed "src" rfl (by decide)
  have hletters : "/p/src".toList.all (fun c => decide (Glob.IsLiteral c))
      = true := by decide
  have hliteral : ∀ c ∈ "/p/src".toList, Glob.IsLiteral c := fun c hc =>
    of_decide_eq_true (List.all_eq_true.1 hletters c hc)
  rcases rootFiles_of_includesAll htree (by decide) rfl rfl hincludes
    hliteral with
    ⟨paths, hpaths, hsorted, hwithin, hall⟩
  refine ⟨paths, hpaths, hsorted, ?_, ?_, ?_⟩
  · exact hall _ (by decide) (by decide) (by decide) (by decide) (by decide)
  · exact hall _ (by decide) (by decide) (by decide) (by decide) (by decide)
  · intro hnote
    exact absurd (hwithin _ hnote).2.1 (by decide)

/-- A directory whose last segment has a dot is taken for a file, and nothing
below it is a root file. -/
theorem rootFiles_dotted :
    (diskWithFiles ["p".toList, "src.v2".toList] ["a.ts".toList]).IsTree ∧
    (diskWithFiles ["p".toList, "src.v2".toList]
      ["a.ts".toList]).isDirectory "/p/src.v2".toList = true ∧
    (diskWithFiles ["p".toList, "src.v2".toList]
      ["a.ts".toList]).isFile "/p/src.v2/a.ts".toList = true ∧
    IsBelow "/p/src.v2/a.ts".toList "/p/src.v2".toList ∧
    IsSource "/p/src.v2/a.ts".toList ∧
    (Draft.config { included := some (some ["src.v2"]) }).rootFiles
      (diskWithFiles ["p".toList, "src.v2".toList] ["a.ts".toList]) "/p".toList
        = .ok [] := by
  refine ⟨by decide, by decide, by decide, by decide, by decide, ?_⟩
  have hpatterns : (Draft.config
      { included := some (some ["src.v2"]) }).includePatterns
        = ["src.v2"] := rfl
  have hfound : includedFiles
      (diskWithFiles ["p".toList, "src.v2".toList] ["a.ts".toList]) []
      (readFrom (Path.normalize "/p".toList) "src.v2".toList) = .ok [] := rfl
  have hnone : sorted [] = [] := by
    rw [sorted, List.mergeSort_nil]
    rfl
  rw [rootFiles_eq rfl rfl hpatterns hfound, hnone]

end ProjectConfig
end BuildHost
