import BuildHost.Proofs.Build.Action
import BuildHost.Proofs.Build.Session
import Mathlib.Data.List.Nodup
import Mathlib.Data.List.Perm.Basic

/-!
# Planned outputs of a session

After any session of specifier queries on a tree in memory the planned outputs
are the normal forms of the imported paths where no file is, each once, whatever
the order of the queries was (`planned_afterQueries`).  Resolvers tell planned
outputs apart by membership alone (`resolutionHost_eq_of_perm`), so that later
answers do not depend on that order either.
-/

namespace BuildHost

/-- A tree in memory knows a file by its normal form. -/
theorem MemoryTree.isFile_normalize (tree : MemoryTree) (p : Path) :
    tree.isFile p.normalize = tree.isFile p := by
  unfold isFile key
  rw [Path.normalize_normalize]

namespace KnownFiles

/-! ## Records of outputs -/

/-- Each planned output is recorded once, by its normal form. -/
structure RecordsOutputs (files : KnownFiles) : Prop where
  nodup : files.planned.Nodup
  isNormal : ∀ name ∈ files.planned, name.IsNormal

theorem recordsOutputs_nil (fs : FileSystem) : RecordsOutputs ⟨fs, []⟩ :=
  ⟨List.nodup_nil, fun _ h => absurd h List.not_mem_nil⟩

theorem RecordsOutputs.plan {files : KnownFiles} (h : RecordsOutputs files)
    (p : Path) :
    RecordsOutputs (files.plan p) := by
  unfold KnownFiles.plan
  split
  next => exact h
  next hplanned =>
    rw [isPlanned_iff] at hplanned
    constructor
    · rw [List.nodup_append]
      refine ⟨h.nodup, List.nodup_singleton _, ?_⟩
      intro name hold other hnew heq
      rw [heq, List.mem_singleton.1 hnew] at hold
      exact hplanned hold
    · intro name hname
      rcases List.mem_append.1 hname with hold | hnew
      · exact h.isNormal name hold
      · rw [List.mem_singleton.1 hnew]
        exact Path.normalize_normalize p

theorem RecordsOutputs.importing {files : KnownFiles} (h : RecordsOutputs files)
    (imported : Path) : RecordsOutputs (files.importing imported) := by
  unfold KnownFiles.importing
  split
  · exact h
  · exact h.plan imported

/-! ## What resolvers see -/

theorem onDisk_iff_of_existence? {files : KnownFiles} {p : Path}
    {existence : FileExistence} (h : files.existence? p = some existence) :
    existence = .onDisk ↔ files.fs.isFile p = true := by
  unfold existence? at h
  split at h
  next hfile =>
    cases h
    exact ⟨fun _ => hfile, fun _ => rfl⟩
  next hfile =>
    split at h
    · cases h
      exact ⟨nofun, fun hdisk => absurd hdisk hfile⟩
    · cases h

theorem isPlanned_eq_of_perm {fs : FileSystem} {planned others : List Path}
    (h : planned.Perm others) (p : Path) :
    isPlanned ⟨fs, others⟩ p = isPlanned ⟨fs, planned⟩ p := by
  rw [Bool.eq_iff_iff, isPlanned_iff, isPlanned_iff]
  exact h.mem_iff.symm

theorem resolutionHost_eq_of_perm {fs : FileSystem} {planned others : List Path}
    (h : planned.Perm others) :
    resolutionHost ⟨fs, others⟩ = resolutionHost ⟨fs, planned⟩ := by
  have hexists : ∀ p, fileExists ⟨fs, others⟩ p
      = fileExists ⟨fs, planned⟩ p := by
    intro p
    unfold fileExists existence?
    rw [isPlanned_eq_of_perm h]
  simp only [resolutionHost, hexists]
  rfl

end KnownFiles

namespace Build

open KnownFiles

variable (build : Build) (state : State)

theorem recordsOutputs_afterQuery (h : state.files.RecordsOutputs)
    (query : SpecifierQuery) :
    (build.afterQuery state query).files.RecordsOutputs := by
  cases query with
  | specifier imported containing => exact h.importing imported
  | target specifier containing =>
      have hplanned :=
        build.planned_afterQuery_target state specifier containing
      constructor
      · rw [hplanned]
        exact h.nodup
      · rw [hplanned]
        exact h.isNormal

theorem recordsOutputs_afterQueries (h : state.files.RecordsOutputs)
    (queries : List SpecifierQuery) :
    (build.afterQueries state queries).files.RecordsOutputs := by
  induction queries generalizing state with
  | nil => exact h
  | cons query rest ih =>
      exact ih _ (build.recordsOutputs_afterQuery state h query)

/-! ## Any order of the queries -/

/-- The query asks to import the path. -/
def SpecifierQuery.Imports (imported : Path) : SpecifierQuery → Prop
  | .specifier other _ => other = imported
  | .target _ _ => False

theorem SpecifierQuery.plans_iff {fs : FileSystem} {p : Path}
    {query : SpecifierQuery} :
    query.Plans fs p ↔
      ∃ imported, query.Imports imported ∧ fs.isFile imported = false ∧
        imported.normalize = p.normalize := by
  cases query with
  | specifier imported containing => simp [Plans, Imports]
  | target specifier containing => simp [Plans, Imports]

/-- A file that a query has imported is known after the session. -/
theorem fileExists_afterQueries {queries : List SpecifierQuery}
    {imported : Path} (h : ∃ query ∈ queries, query.Imports imported) :
    (build.afterQueries state queries).files.fileExists imported = true := by
  rcases h with ⟨query, hquery, himports⟩
  rw [fileExists_iff,
    (build.grows_afterQueries state queries).contents.isFile_eq,
    isPlanned_afterQueries_iff]
  cases hfile : state.files.fs.isFile imported with
  | true => exact .inl rfl
  | false =>
      exact .inr (.inr ⟨query, hquery,
        SpecifierQuery.plans_iff.2 ⟨imported, himports, hfile, rfl⟩⟩)

theorem mem_planned_afterQueries_iff (fs : FileSystem)
    {queries : List SpecifierQuery} {name : Path} :
    name ∈ (build.afterQueries (.start fs) queries).files.planned ↔
      ∃ imported, (∃ query ∈ queries, query.Imports imported) ∧
        fs.isFile imported = false ∧
        imported.normalize = name := by
  have hnormal :=
    (build.recordsOutputs_afterQueries (.start fs) (recordsOutputs_nil fs)
      queries).isNormal
  have hplanned : (build.afterQueries (.start fs) queries).files.isPlanned name
      = true ↔
      (State.start fs).files.isPlanned name = true ∨ ∃ query ∈ queries,
        query.Plans fs name :=
    build.isPlanned_afterQueries_iff (.start fs)
  constructor
  · intro hmem
    rw [isPlanned_iff, hnormal name hmem] at hplanned
    rcases hplanned.1 hmem with hstart | ⟨query, hquery, hplans⟩
    · exact absurd (isPlanned_iff.1 hstart) List.not_mem_nil
    · rcases SpecifierQuery.plans_iff.1 hplans with
        ⟨imported, himports, hfile, hname⟩
      exact ⟨imported, ⟨query, hquery, himports⟩, hfile,
        hname.trans (hnormal name hmem)⟩
  · rintro ⟨imported, ⟨query, hquery, himports⟩, hfile, rfl⟩
    have hself : imported.normalize.normalize = imported.normalize :=
      Path.normalize_normalize imported
    rw [isPlanned_iff, hself] at hplanned
    exact hplanned.2 (.inr ⟨query, hquery,
      SpecifierQuery.plans_iff.2 ⟨imported, himports, hfile, hself.symm⟩⟩)

/-- Two sessions of the same queries plan the same outputs. -/
theorem perm_planned_afterQueries (fs : FileSystem)
    {queries others : List SpecifierQuery} (h : queries.Perm others) :
    (build.afterQueries (.start fs) queries).files.planned.Perm
      (build.afterQueries (.start fs) others).files.planned := by
  have hrecords :=
    build.recordsOutputs_afterQueries (.start fs) (recordsOutputs_nil fs)
  rw [List.perm_ext_iff_of_nodup (hrecords queries).nodup
    (hrecords others).nodup]
  intro name
  rw [mem_planned_afterQueries_iff, mem_planned_afterQueries_iff]
  simp only [h.mem_iff]

/-- After two sessions of the same queries a specifier names the same file. -/
theorem answer_resolve_of_perm (fs : FileSystem)
    {queries others : List SpecifierQuery} (h : queries.Perm others)
    (specifier : Path) (containing : Option Path) :
    ((build.resolve specifier containing).run
      (build.afterQueries (.start fs) others)).1
        = ((build.resolve specifier containing).run
          (build.afterQueries (.start fs) queries)).1 := by
  have hhost : (build.afterQueries (.start fs) others).files.resolutionHost
      = (build.afterQueries (.start fs) queries).files.resolutionHost :=
    calc
      _ = resolutionHost ⟨fs,
        (build.afterQueries (.start fs) others).files.planned⟩ :=
        resolutionHost_congr
          (build.grows_afterQueries (.start fs) others).contents _
      _ = resolutionHost ⟨fs,
        (build.afterQueries (.start fs) queries).files.planned⟩ :=
        resolutionHost_eq_of_perm (build.perm_planned_afterQueries fs h)
      _ = _ :=
        (resolutionHost_congr
          (build.grows_afterQueries (.start fs) queries).contents _).symm
  simp only [answer_resolve, Layout.resolve, hhost]

/-- Exactly the imported files that are not in the tree are planned, by their
normal forms, and every imported file is known; the order of the queries makes
no difference, neither to what is planned nor to a later answer. -/
theorem planned_afterQueries (build : Build) (tree : MemoryTree)
    (queries : List SpecifierQuery) :
    let start := State.start (.inMemory tree)
    let files := (build.afterQueries start queries).files
    (∀ name, name ∈ files.planned ↔
      ∃ imported, (∃ query ∈ queries, query.Imports imported) ∧
        tree.isFile imported = false ∧
        imported.normalize = name) ∧
    (∀ name ∈ files.planned, tree.isFile name = false) ∧
    (∀ imported, (∃ query ∈ queries, query.Imports imported) →
      ∃ existence, files.existence? imported = some existence ∧
        (existence = .onDisk ↔ tree.isFile imported = true)) ∧
    ∀ others : List SpecifierQuery, queries.Perm others →
      files.planned.Perm (build.afterQueries start others).files.planned ∧
      ∀ later specifier containing,
        ((build.resolve specifier containing).run
            (build.afterQueries start (others ++ later))).1
          = ((build.resolve specifier containing).run
              (build.afterQueries start (queries ++ later))).1 := by
  intro start files
  have hmem : ∀ name, name ∈ files.planned ↔
      ∃ imported, (∃ query ∈ queries, query.Imports imported) ∧
        tree.isFile imported = false ∧
        imported.normalize = name :=
    fun _ => build.mem_planned_afterQueries_iff (.inMemory tree)
  refine ⟨hmem, ?_, ?_, ?_⟩
  · intro name hname
    rcases (hmem name).1 hname with ⟨imported, -, hfile, rfl⟩
    rw [tree.isFile_normalize]
    exact hfile
  · intro imported himported
    have hfile : files.fs.isFile imported = tree.isFile imported :=
      (build.grows_afterQueries start queries).contents.isFile_eq imported
    rcases Option.isSome_iff_exists.1
      (build.fileExists_afterQueries start himported) with
      ⟨existence, hexistence⟩
    refine ⟨existence, hexistence, ?_⟩
    rw [← hfile]
    exact onDisk_iff_of_existence? hexistence
  · intro others hperm
    refine ⟨build.perm_planned_afterQueries _ hperm, ?_⟩
    intro later specifier containing
    exact build.answer_resolve_of_perm _ (hperm.append_right later) specifier
      containing

theorem planned_afterQueries_twoSpellings :
    let build := outsideBuild .empty fun _ => none
    let tree := (MemoryTree.empty true).addFile "/p/a.ts".toList "".toUTF8
    let containing : Path := "/p/c.ts".toList
    let queries : List SpecifierQuery :=
      [.specifier "/p/./a.ts".toList containing,
        .specifier "/p/b.ts".toList containing,
        .target "./b".toList (some containing),
        .specifier "/p//b.ts".toList containing]
    let start := State.start (.inMemory tree)
    queries.Perm queries.reverse ∧
      "/p/b.ts".toList ∈ (build.afterQueries start queries).files.planned ∧
      (build.afterQueries start queries).files.planned.Perm
        (build.afterQueries start queries.reverse).files.planned ∧
      ((build.resolve "./b".toList (some containing)).run
          (build.afterQueries start queries.reverse)).1
            = .ok (some "/p/b.ts".toList) := by
  intro build tree containing queries start
  have hperm : queries.Perm queries.reverse := (List.reverse_perm queries).symm
  have hanswer : ((build.resolve "./b".toList (some containing)).run
      (build.afterQueries start queries)).1 = .ok (some "/p/b.ts".toList) := by
    rfl
  rcases planned_afterQueries build tree queries with ⟨hmem, -, -, horder⟩
  refine ⟨hperm, (hmem _).2 ?_, (horder _ hperm).1, ?_⟩
  · exact ⟨"/p/b.ts".toList, ⟨queries[1], by simp [queries], rfl⟩,
      by decide +kernel, by decide⟩
  · exact ((horder _ hperm).2 [] "./b".toList (some containing)).trans hanswer

end Build
end BuildHost
