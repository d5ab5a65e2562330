import BuildHost.Proofs.Metadata.Sessions

/-!
# Planned outputs and metadata

A planned output exists for those who resolve specifiers, and there is nothing
to read of it yet.  What describes a file asks for existence twice: whether the
file itself is on disk, where an output that is only planned counts for nothing,
and whether its metadata file exists, where it counts.  So queries about
specifiers leave the description of every file alone, except for that of a
declaration file whose missing metadata file they plan
(`metadataOf_afterQueries_eq_iff`).
-/

namespace BuildHost

theorem KnownFiles.existence?_eq_onDisk_iff {files : KnownFiles} {p : Path} :
    files.existence? p = some .onDisk ↔ files.fs.isFile p = true := by
  unfold existence?
  by_cases hfile : files.fs.isFile p = true
  · rw [if_pos hfile]
    simp [hfile]
  · rw [if_neg hfile]
    by_cases hplanned : files.isPlanned p = true
    · simp [hfile, hplanned]
    · simp [hfile, hplanned]

namespace Build

variable {build : Build} {state : State} {queries : List SpecifierQuery}
  {p metadataFile : Path}

/-! ## The metadata file of a declaration file -/

/-- A file is there to be described when it is on disk or part of the
program. -/
def IsThere (build : Build) (fs : FileSystem) (p : Path) : Prop :=
  fs.isFile p = true ∨ build.program.contains p = true

theorem isThere_iff {files : KnownFiles} :
    build.IsThere files.fs p ↔
      ¬ (files.existence? p ≠ some .onDisk ∧ !build.program.contains p) := by
  rw [IsThere, ne_eq, KnownFiles.existence?_eq_onDisk_iff, not_and_or, not_not,
    Bool.not_eq_true', Bool.not_eq_false]

theorem keptDescription_of_not_isThere (h : ¬ build.IsThere state.files.fs p) :
    build.keptDescription state p = .ok none := by
  rw [isThere_iff, not_not] at h
  rw [keptDescription, describedBy?, if_pos h]
  exact if_pos h

theorem keptDescription_of_metadataFile
    (hthere : build.IsThere state.files.fs p)
    (hname : replaceDeclarationSuffix? p metadataExtension
      = some metadataFile) :
    build.keptDescription state p
      = if state.files.fileExists metadataFile then
          (build.keptRecords state metadataFile p).map some
        else
          .ok (some [MetadataRecord.empty
            MetadataRecord.currentVersion]) := by
  rw [isThere_iff] at hthere
  rw [keptDescription, describedBy?, ownDescription, if_neg hthere,
    if_neg hthere, metadataFileOf?, hname, Option.filter_some,
    if_pos (isDeclarationFile_of_replaceDeclarationSuffix? hname)]
  by_cases hexists : state.files.fileExists metadataFile = true
  · rw [if_pos hexists, if_pos hexists]
  · rw [if_neg hexists, if_neg hexists]

theorem isDeclarationFile_eq_false
    (h : replaceDeclarationSuffix? p metadataExtension = none) :
    isDeclarationFile p = false := by
  rw [isDeclarationFile, ← List.isSome_isSuffixOf?_eq_isSuffixOf,
    Option.map_eq_none_iff.1 h]
  rfl

theorem keptDescription_of_source (hthere : build.IsThere state.files.fs p)
    (hname : replaceDeclarationSuffix? p metadataExtension = none) :
    build.keptDescription state p
      = (build.heldSource state.files.fs p).map fun file =>
        some (build.collector file).toList := by
  rw [isThere_iff] at hthere
  rw [keptDescription, describedBy?, ownDescription, if_neg hthere,
    if_neg hthere, metadataFileOf?, hname, isDeclarationFile_eq_false hname]
  rfl

/-- A metadata file that is not on disk has nothing to give but what is kept of
it. -/
theorem exists_fault_keptRecords (build : Build) (p : Path)
    (hkept : state.cache.lookup metadataFile = none)
    (hfile : state.files.fs.isFile metadataFile = false) :
    ∃ fault, build.keptRecords state metadataFile p
      = .error (.io metadataFile fault) := by
  rcases FileSystem.exists_fault_of_not_isFile hfile with ⟨fault, hfault⟩
  refine ⟨fault, ?_⟩
  rw [keptRecords_of_lookup_eq_none hkept, heldRecords, hfault]
  rfl

/-! ## After queries about specifiers -/

theorem cache_afterQueries (build : Build) (state : State)
    (queries : List SpecifierQuery) :
    (build.afterQueries state queries).cache = state.cache := by
  induction queries generalizing state with
  | nil => rfl
  | cons query rest ih =>
      exact (ih (build.afterQuery state query)).trans
        (build.cache_afterQuery state query)

theorem sameContents_afterQueries (build : Build) (state : State)
    (queries : List SpecifierQuery) :
    state.files.fs.SameContents (build.afterQueries state queries).files.fs :=
  (build.grows_afterQueries state queries).contents

theorem isThere_afterQueries_iff :
    build.IsThere (build.afterQueries state queries).files.fs p ↔
      build.IsThere state.files.fs p := by
  rw [IsThere, IsThere,
    (build.sameContents_afterQueries state queries).isFile_eq]

theorem keptRecords_afterQueries (declarationFile : Path) :
    build.keptRecords (build.afterQueries state queries) p declarationFile
      = build.keptRecords state p declarationFile := by
  rw [keptRecords, keptRecords, cache_afterQueries,
    heldRecords_congr (build.sameContents_afterQueries state queries)]

/-- Whether queries plan a file that did not exist before. -/
def PlansAnew (files : KnownFiles) (queries : List SpecifierQuery)
    (p : Path) : Prop :=
  files.fileExists p = false ∧ ∃ query ∈ queries, query.Plans files.fs p

theorem fileExists_afterQueries_iff (build : Build) (state : State)
    (queries : List SpecifierQuery) (p : Path) :
    (build.afterQueries state queries).files.fileExists p = true ↔
      state.files.fileExists p = true ∨ PlansAnew state.files queries p := by
  rw [KnownFiles.fileExists_iff, isPlanned_afterQueries_iff,
    (build.sameContents_afterQueries state queries).isFile_eq, ← or_assoc,
    ← KnownFiles.fileExists_iff, PlansAnew, ← Bool.not_eq_true]
  constructor
  · intro h
    by_cases hexists : state.files.fileExists p = true
    · exact .inl hexists
    · exact .inr ⟨hexists, h.resolve_left hexists⟩
  · exact Or.imp_right And.right

/-- The kept records are those of a declaration file without a metadata file
only when such records were read. -/
theorem map_keptRecords_eq_empty_iff
    (hfile : state.files.fs.isFile metadataFile = false) :
    (build.keptRecords state metadataFile p).map some
        = .ok (some [MetadataRecord.empty MetadataRecord.currentVersion]) ↔
      state.cache.lookup metadataFile
        = some [MetadataRecord.empty MetadataRecord.currentVersion] := by
  cases hkept : state.cache.lookup metadataFile with
  | none =>
      rcases build.exists_fault_keptRecords p hkept hfile with ⟨fault, hfault⟩
      rw [hfault]
      constructor
      · intro h
        cases h
      · intro h
        cases h
  | some records =>
      rw [keptRecords_of_lookup hkept]
      constructor
      · intro h
        cases h
        rfl
      · intro h
        cases h
        rfl

theorem isFile_eq_false_of_plansAnew (h : PlansAnew state.files queries p) :
    state.files.fs.isFile p = false := by
  rw [← Bool.not_eq_true]
  intro hfile
  rw [PlansAnew, KnownFiles.fileExists_iff.2 (.inl hfile)] at h
  exact Bool.false_ne_true h.1.symm

theorem keptDescription_afterQueries_eq_iff :
    build.keptDescription (build.afterQueries state queries) p
      = build.keptDescription state p ↔
      ∀ metadataFile,
        replaceDeclarationSuffix? p metadataExtension = some metadataFile →
        build.IsThere state.files.fs p →
        PlansAnew state.files queries metadataFile →
        state.cache.lookup metadataFile
          = some [MetadataRecord.empty MetadataRecord.currentVersion] := by
  have hlater : build.IsThere (build.afterQueries state queries).files.fs p ↔
      _ :=
    isThere_afterQueries_iff
  by_cases hthere : build.IsThere state.files.fs p
  · cases hname : replaceDeclarationSuffix? p metadataExtension with
    | none =>
        rw [keptDescription_of_source (hlater.2 hthere) hname,
          keptDescription_of_source hthere hname,
          heldSource_congr (build.sameContents_afterQueries state queries)]
        simp
    | some metadataFile =>
        rw [keptDescription_of_metadataFile (hlater.2 hthere) hname,
          keptDescription_of_metadataFile hthere hname,
          keptRecords_afterQueries]
        have hexists :=
          build.fileExists_afterQueries_iff state queries metadataFile
        by_cases hplans : PlansAnew state.files queries metadataFile
        · rw [if_pos (hexists.2 (.inr hplans)),
            if_neg (by rw [hplans.1]; exact Bool.false_ne_true),
            map_keptRecords_eq_empty_iff (isFile_eq_false_of_plansAnew hplans)]
          simp [hthere, hplans]
        · rw [or_iff_left hplans, ← Bool.eq_iff_iff] at hexists
          rw [hexists]
          simp [hplans]
  · rw [keptDescription_of_not_isThere hthere,
      keptDescription_of_not_isThere (hlater.not.2 hthere)]
    simp [hthere]

/-- A declaration file on disk whose metadata file is not: what it is described
by depends on whether the metadata file is planned. -/
theorem keptDescription_of_missing
    (hname : replaceDeclarationSuffix? p metadataExtension = some metadataFile)
    (hp : state.files.fs.isFile p = true)
    (hfile : state.files.fs.isFile metadataFile = false) :
    build.keptDescription state p
      = if state.files.isPlanned metadataFile then
          (build.keptRecords state metadataFile p).map some
        else
          .ok (some [MetadataRecord.empty
            MetadataRecord.currentVersion]) := by
  have hexists : state.files.fileExists metadataFile
      = state.files.isPlanned metadataFile := by
    rw [Bool.eq_iff_iff, KnownFiles.fileExists_iff, hfile]
    simp
  rw [keptDescription_of_metadataFile (.inl hp) hname, hexists]

/-- Queries about specifiers leave the description of a file as it was, unless
the file is a declaration file, its metadata file does not exist, and a query
plans just that file; such a file is looked for in what is kept and then on
disk, where it is missing.  A file that is nowhere has no description after any
queries. -/
theorem metadataOf_afterQueries_eq_iff (build : Build) (state : State)
    (queries : List SpecifierQuery) (p : Path) :
    let later := build.afterQueries state queries
    (((build.metadataOf p).run later).1 = ((build.metadataOf p).run state).1 ↔
      ∀ metadataFile,
        replaceDeclarationSuffix? p metadataExtension = some metadataFile →
        state.files.fs.isFile p = true ∨ build.program.contains p = true →
        state.files.fileExists metadataFile = false →
        (∃ query ∈ queries, query.Plans state.files.fs metadataFile) →
        state.cache.lookup metadataFile
          = some [MetadataRecord.empty MetadataRecord.currentVersion]) ∧
    (state.files.fs.isFile p = false → build.program.contains p = false →
      ((build.metadataOf p).run later).1 = .ok none) ∧
    (∀ metadataFile,
      replaceDeclarationSuffix? p metadataExtension = some metadataFile →
      state.files.fs.isFile p = true →
      state.files.fs.isFile metadataFile = false →
      (later.files.isPlanned metadataFile = false →
        ((build.metadataOf p).run later).1
          = .ok (some [MetadataRecord.empty MetadataRecord.currentVersion])) ∧
      (later.files.isPlanned metadataFile = true →
        state.cache.lookup metadataFile = none →
        ∃ fault, ((build.metadataOf p).run later).1
          = .error (.io metadataFile fault))) := by
  intro later
  have hcontents := build.sameContents_afterQueries state queries
  rw [answer_metadataOf, answer_metadataOf, keptDescription_afterQueries_eq_iff]
  refine ⟨?_, ?_, ?_⟩
  · simp only [IsThere, PlansAnew, and_imp]
  · intro hfile hcontains
    apply keptDescription_of_not_isThere
    rw [IsThere, hcontents.isFile_eq, hfile, hcontains]
    simp
  · intro metadataFile hname hp hfile
    rw [← hcontents.isFile_eq] at hp hfile
    rw [keptDescription_of_missing hname hp hfile]
    constructor
    · intro hplanned
      rw [if_neg (by rw [hplanned]; exact Bool.false_ne_true)]
    · intro hplanned hkept
      rw [← build.cache_afterQueries state queries] at hkept
      rcases build.exists_fault_keptRecords p hkept hfile with ⟨fault, hfault⟩
      refine ⟨fault, ?_⟩
      rw [if_pos hplanned, hfault]
      rfl

/-- A declaration file beside which there is no metadata file. -/
def bareTree : FileSystem :=
  .inMemory ((MemoryTree.empty true).addFile "/p/a.d.ts".toList "".toUTF8)

theorem metadataOf_afterQueries_eq_iff_bareTree :
    let build := outsideBuild .empty fun _ => none
    let declarationFile : Path := "/p/a.d.ts".toList
    let metadataFile : Path := "/p/a.metadata.json".toList
    let containing : Path := "/p/c.ts".toList
    let state := State.start bareTree
    ((build.metadataOf declarationFile).run
        (build.afterQueries state [.specifier "/p/b".toList containing])).1
      = ((build.metadataOf declarationFile).run state).1 ∧
    ((build.metadataOf metadataFile).run
        (build.afterQueries state [.specifier metadataFile containing])).1
          = .ok none ∧
    ((build.metadataOf declarationFile).run
        (build.afterQueries state [.specifier "/p/b".toList containing])).1
      = .ok (some [MetadataRecord.empty MetadataRecord.currentVersion]) := by
  intro build declarationFile metadataFile containing state
  have hname : replaceDeclarationSuffix? declarationFile metadataExtension
      = some metadataFile := by
    decide
  have hother := metadataOf_afterQueries_eq_iff build state
    [.specifier "/p/b".toList containing] declarationFile
  refine ⟨?_, ?_, ?_⟩
  · apply hother.1.2
    intro other hfile _ _ hplans
    rw [hname] at hfile
    cases hfile
    rcases hplans with ⟨query, hquery, hplans⟩
    rw [List.mem_singleton.1 hquery] at hplans
    exact absurd hplans.2 (by decide)
  · have hplanned := metadataOf_afterQueries_eq_iff build state
      [.specifier metadataFile containing] metadataFile
    exact hplanned.2.1 (by decide) (by decide)
  · exact (hother.2.2 metadataFile hname (by decide) (by decide)).1
      (by decide)

/-- A planned metadata file takes the description of its declaration file
away. -/
theorem metadataOf_plannedMetadata_ne :
    let build := outsideBuild .empty fun _ => none
    let declarationFile : Path := "/p/a.d.ts".toList
    let metadataFile : Path := "/p/a.metadata.json".toList
    let state := State.start bareTree
    let later := build.afterQueries state
      [.specifier metadataFile "/p/c.ts".toList]
    state.files.fs.isFile declarationFile = true ∧
      state.files.fs.isFile metadataFile = false ∧
      ((build.metadataOf declarationFile).run state).1
        = .ok (some [MetadataRecord.empty MetadataRecord.currentVersion]) ∧
      ((build.metadataOf declarationFile).run later).1
        ≠ ((build.metadataOf declarationFile).run state).1 := by
  intro build declarationFile metadataFile state later
  refine ⟨by decide, by decide, rfl, ?_⟩
  intro h
  cases h

end Build
end BuildHost
