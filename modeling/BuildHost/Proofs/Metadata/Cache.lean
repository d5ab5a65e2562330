import BuildHost.Proofs.Build.Session
import BuildHost.Proofs.Metadata.Upgrade

/-!
# Metadata that is kept

A request for a metadata file gives what is kept of the file and leaves the
state alone (`run_readMetadata_of_lookup`), or it reads the file
(`run_readMetadata`).  Only an answer that was read is kept, so that a request
that fails leaves what is kept as it was (`cache_readMetadata`).
-/

namespace BuildHost
namespace Build

open OrderedMap

/-! ## What files hold -/

variable {build : Build} {state : State} {p declarationFile : Path}

/-- The records of a metadata file as the file system holds them, with the
upgraded one when there has to be one. -/
def heldRecords (build : Build) (fs : FileSystem) (p declarationFile : Path) :
    Except HostError (List MetadataRecord) :=
  match (fs.read p).mapError (HostError.io p) with
  | .error fault => .error fault
  | .ok text =>
    match (MetadataRecord.parseFile text).mapError
      (HostError.metadataParse p) with
    | .error fault => .error fault
    | .ok records =>
      match outdated? records with
      | none => .ok records
      | some old => (build.heldSource fs declarationFile).map fun file =>
          records ++ [upgraded old (build.collector file)]

theorem heldRecords_congr {fs other : FileSystem} (h : fs.SameContents other)
    (p declarationFile : Path) :
    build.heldRecords other p declarationFile
      = build.heldRecords fs p declarationFile := by
  simp only [heldRecords, h.read_eq, heldSource_congr h]

theorem run_upgrade (build : Build) (old : MetadataRecord)
    (declarationFile : Path) (state : State) :
    ∃ after, (build.upgrade old declarationFile).run state
        = ((build.heldSource state.files.fs declarationFile).map fun file =>
            upgraded old (build.collector file), after) ∧
      state.OnlyReads after := by
  rcases build.run_sourceFile declarationFile state with ⟨after, hrun, hafter⟩
  refine ⟨after, ?_, hafter⟩
  unfold upgrade
  rw [run_bind, hrun]
  cases build.heldSource state.files.fs declarationFile with
  | error fault => rfl
  | ok file => rfl

/-! ## Requests for metadata files -/

/-- What is kept of a file is given again, without a look at the file system. -/
theorem run_readMetadata_of_lookup {records : List MetadataRecord}
    (declarationFile : Path) (h : state.cache.lookup p = some records) :
    (build.readMetadata p declarationFile).run state
      = (.ok records, state) := by
  unfold readMetadata
  rw [run_bind]
  show (_ : Action (List MetadataRecord)).run state = _
  rw [h]
  rfl

/-- A file of which nothing is kept is read; its records are kept when there is
no fault. -/
theorem run_readMetadata (build : Build) (declarationFile : Path)
    (h : state.cache.lookup p = none) :
    ∃ after, (state.afterReading p).OnlyReads after ∧
      (build.readMetadata p declarationFile).run state
        = match build.heldRecords state.files.fs p declarationFile with
          | .error fault => (.error fault, after)
          | .ok records =>
              (.ok records,
                  { after with cache := (p, records) :: state.cache }) := by
  unfold readMetadata heldRecords
  rw [run_bind]
  show ∃ after, _ ∧ (_ : Action (List MetadataRecord)).run state = _
  rw [h]
  show ∃ after, _ ∧ (fileText p >>= _).run state = _
  rw [run_bind, run_fileText]
  cases state.files.fs.read p with
  | error fault => exact ⟨_, .refl _, rfl⟩
  | ok text =>
      dsimp only [Except.mapError]
      cases MetadataRecord.parseFile text with
      | error fault =>
          -- the fault is logged
          let read := state.afterReading p
          let message := "Failed to read JSON file " ++ String.ofList p
          exact ⟨{ read with log := read.log ++ [⟨.error, message⟩] },
            ⟨rfl, [], rfl⟩, rfl⟩
      | ok records =>
          dsimp only
          cases outdated? records with
          | none => exact ⟨_, .refl _, rfl⟩
          | some old =>
              dsimp only
              rcases build.run_upgrade old declarationFile
                (state.afterReading p) with
                ⟨after, hupgrade, hafter⟩
              rw [heldSource_congr
                (state.onlyReads_afterReading p).sameContents] at hupgrade
              refine ⟨after, hafter, ?_⟩
              rw [run_bind, hupgrade]
              cases build.heldSource state.files.fs declarationFile with
              | error fault => rfl
              | ok file =>
                  show (Except.ok _, { after with cache := _ :: after.cache })
                    = _
                  rw [hafter.cache_eq]
                  rfl

theorem readMetadata_of_lookup_eq_none (build : Build) (declarationFile : Path)
    (h : state.cache.lookup p = none) :
    ((build.readMetadata p declarationFile).run state).1
        = build.heldRecords state.files.fs p declarationFile ∧
      ∃ paths, ((build.readMetadata p declarationFile).run state).2.files
        = state.files.countReads (p :: paths) := by
  rcases build.run_readMetadata declarationFile h with ⟨after, hafter, hrun⟩
  rcases hafter.exists_files_eq with ⟨paths, hpaths⟩
  rw [hrun]
  cases build.heldRecords state.files.fs p declarationFile with
  | error fault => exact ⟨rfl, paths, hpaths⟩
  | ok records => exact ⟨rfl, paths, hpaths⟩

theorem cache_readMetadata (build : Build) (p declarationFile : Path)
    (state : State) : ((build.readMetadata p declarationFile).run state).2.cache
      = match state.cache.lookup p,
        ((build.readMetadata p declarationFile).run state).1 with
        | none, .ok records => (p, records) :: state.cache
        | _, _ => state.cache := by
  cases hkept : state.cache.lookup p with
  | some records => rw [run_readMetadata_of_lookup declarationFile hkept]
  | none =>
      rcases build.run_readMetadata declarationFile hkept with
        ⟨after, hafter, hrun⟩
      rw [hrun]
      cases build.heldRecords state.files.fs p declarationFile with
      | error fault => exact hafter.cache_eq
      | ok records => rfl

/-- What is kept of a file after a request: what was kept before, or else what
the request gives. -/
theorem lookup_readMetadata (build : Build) (p q declarationFile : Path)
    (state : State) :
    ((build.readMetadata q declarationFile).run state).2.cache.lookup p
      = (state.cache.lookup p).or
          (if q = p
            then ((build.readMetadata q declarationFile).run state).1.toOption
            else none) := by
  rw [cache_readMetadata]
  cases hkept : state.cache.lookup q with
  | some records =>
      rw [run_readMetadata_of_lookup declarationFile hkept]
      by_cases hname : q = p
      · subst hname
        rw [hkept]
        rfl
      · rw [if_neg hname, Option.or_none]
  | none =>
      cases ((build.readMetadata q declarationFile).run state).1 with
      | error fault => simp [Except.toOption]
      | ok records =>
          dsimp only
          rw [lookup_cons]
          by_cases hname : q = p
          · subst hname
            rw [if_pos rfl, if_pos rfl, hkept]
            rfl
          · rw [if_neg hname, if_neg (Ne.symm hname), Option.or_none]

/-- The records of a metadata file as they are kept, or else as the file system
holds them. -/
def keptRecords (build : Build) (state : State) (p declarationFile : Path) :
    Except HostError (List MetadataRecord) :=
  match state.cache.lookup p with
  | some records => .ok records
  | none => build.heldRecords state.files.fs p declarationFile

theorem keptRecords_of_lookup {records : List MetadataRecord}
    (h : state.cache.lookup p = some records) :
    build.keptRecords state p declarationFile = .ok records := by
  rw [keptRecords, h]

theorem keptRecords_of_lookup_eq_none (h : state.cache.lookup p = none) :
    build.keptRecords state p declarationFile
      = build.heldRecords state.files.fs p declarationFile := by
  rw [keptRecords, h]

theorem answer_readMetadata_eq_keptRecords (build : Build)
    (p declarationFile : Path) (state : State) :
    ((build.readMetadata p declarationFile).run state).1
      = build.keptRecords state p declarationFile := by
  cases hkept : state.cache.lookup p with
  | some records =>
      rw [run_readMetadata_of_lookup declarationFile hkept,
        keptRecords_of_lookup hkept]
  | none =>
      rw [keptRecords_of_lookup_eq_none hkept]
      exact (build.readMetadata_of_lookup_eq_none declarationFile hkept).1

/-! ## Descriptions of files -/

/-- The metadata file that is read to describe a file, if one is. -/
def describedBy? (build : Build) (files : KnownFiles) (p : Path) :
    Option Path :=
  if files.existence? p ≠ some .onDisk ∧ !build.program.contains p then none
  else metadataFileOf? files p

/-- What describes a file that no metadata file describes. -/
def ownDescription (build : Build) (files : KnownFiles) (p : Path) :
    Except HostError (Option (List MetadataRecord)) :=
  if files.existence? p ≠ some .onDisk ∧ !build.program.contains p then .ok none
  else if isDeclarationFile p then
    .ok (some [MetadataRecord.empty MetadataRecord.currentVersion])
  else (build.heldSource files.fs p).map fun file =>
    some (build.collector file).toList

theorem isDeclarationFile_of_replaceDeclarationSuffix? {suffix replaced : Path}
    (h : replaceDeclarationSuffix? p suffix = some replaced) :
    isDeclarationFile p = true := by
  rcases Option.map_eq_some_iff.1 h with ⟨stem, hstem, -⟩
  rw [isDeclarationFile, ← List.isSome_isSuffixOf?_eq_isSuffixOf, hstem]
  rfl

theorem isDeclarationFile_of_metadataFileOf? {files : KnownFiles}
    {metadataFile : Path} (h : metadataFileOf? files p = some metadataFile) :
    replaceDeclarationSuffix? p metadataExtension = some metadataFile ∧
      isDeclarationFile p = true := by
  have hreplaced := (Option.filter_eq_some_iff.1 h).1
  exact ⟨hreplaced, isDeclarationFile_of_replaceDeclarationSuffix? hreplaced⟩

theorem run_metadataOf_of_describedBy? {metadataFile : Path}
    (h : build.describedBy? state.files p = some metadataFile) :
    (build.metadataOf p).run state
      = (((build.readMetadata metadataFile p).run state).1.map some,
        ((build.readMetadata metadataFile p).run state).2) := by
  unfold describedBy? at h
  split at h
  next => cases h
  next hexists =>
    unfold metadataOf
    rw [run_bind]
    show (_ : Action (Option (List MetadataRecord))).run state = _
    rw [if_neg hexists, if_pos (isDeclarationFile_of_metadataFileOf? h).2, h]
    dsimp only
    rw [run_bind]
    rcases (build.readMetadata metadataFile p).run state with ⟨result, after⟩
    cases result with
    | error fault => rfl
    | ok records => rfl

theorem run_metadataOf (build : Build)
    (h : build.describedBy? state.files p = none) :
    ∃ after, state.OnlyReads after ∧
      (build.metadataOf p).run state
        = (build.ownDescription state.files p, after) := by
  unfold describedBy? at h
  unfold metadataOf ownDescription
  rw [run_bind]
  show ∃ after, _ ∧ (_ : Action (Option (List MetadataRecord))).run state = _
  by_cases hexists : state.files.existence? p ≠ some .onDisk ∧
    !build.program.contains p
  · rw [if_pos hexists, if_pos hexists]
    exact ⟨state, .refl state, rfl⟩
  · rw [if_neg hexists] at h
    rw [if_neg hexists, if_neg hexists]
    by_cases hdeclaration : isDeclarationFile p = true
    · rw [if_pos hdeclaration, if_pos hdeclaration, h]
      exact ⟨state, .refl state, rfl⟩
    · rw [if_neg hdeclaration, if_neg hdeclaration]
      rcases build.run_sourceFile p state with ⟨after, hrun, hafter⟩
      refine ⟨after, hafter, ?_⟩
      rw [run_bind, hrun]
      cases build.heldSource state.files.fs p with
      | error fault => rfl
      | ok file => rfl

/-- A metadata file belongs to one declaration file. -/
theorem replaceDeclarationSuffix?_inj {q suffix metadataFile : Path}
    (hp : replaceDeclarationSuffix? p suffix = some metadataFile)
    (hq : replaceDeclarationSuffix? q suffix = some metadataFile) : p = q := by
  rcases Option.map_eq_some_iff.1 hp with ⟨stem, hstem, rfl⟩
  rcases Option.map_eq_some_iff.1 hq with ⟨other, hother, heq⟩
  obtain rfl : other = stem := List.append_cancel_right heq
  rw [List.isSuffixOf?_eq_some_iff_append_eq] at hstem hother
  exact hstem.symm.trans hother

theorem metadataFileOf?_of_describedBy? {files : KnownFiles}
    {metadataFile : Path} (h : build.describedBy? files p = some metadataFile) :
    metadataFileOf? files p = some metadataFile := by
  unfold describedBy? at h
  split at h
  next => cases h
  next => exact h

/-- What describes a file when nothing is kept of metadata files. -/
def heldDescription (build : Build) (files : KnownFiles) (p : Path) :
    Except HostError (Option (List MetadataRecord)) :=
  match build.describedBy? files p with
  | some metadataFile => (build.heldRecords files.fs metadataFile p).map some
  | none => build.ownDescription files p

theorem describedBy?_congr {fs other : FileSystem} (h : fs.SameContents other)
    (planned : List Path) (p : Path) :
    build.describedBy? ⟨other, planned⟩ p
      = build.describedBy? ⟨fs, planned⟩ p := by
  simp only [describedBy?, metadataFileOf?, KnownFiles.existence?_congr h,
    KnownFiles.fileExists_congr h]

theorem ownDescription_congr {fs other : FileSystem} (h : fs.SameContents other)
    (planned : List Path) (p : Path) :
    build.ownDescription ⟨other, planned⟩ p
      = build.ownDescription ⟨fs, planned⟩ p := by
  simp only [ownDescription, KnownFiles.existence?_congr h, heldSource_congr h]

theorem heldDescription_congr {fs other : FileSystem}
    (h : fs.SameContents other) (planned : List Path) (p : Path) :
    build.heldDescription ⟨other, planned⟩ p
      = build.heldDescription ⟨fs, planned⟩ p := by
  simp only [heldDescription, describedBy?_congr h, ownDescription_congr h,
    heldRecords_congr h]

/-- What describes a file, with the records of its metadata file as they are
kept. -/
def keptDescription (build : Build) (state : State) (p : Path) :
    Except HostError (Option (List MetadataRecord)) :=
  match build.describedBy? state.files p with
  | some metadataFile => (build.keptRecords state metadataFile p).map some
  | none => build.ownDescription state.files p

theorem answer_metadataOf (build : Build) (p : Path) (state : State) :
    ((build.metadataOf p).run state).1 = build.keptDescription state p := by
  unfold keptDescription
  cases hfile : build.describedBy? state.files p with
  | none =>
      rcases build.run_metadataOf hfile with ⟨after, -, hrun⟩
      rw [hrun]
  | some metadataFile =>
      rw [run_metadataOf_of_describedBy? hfile]
      dsimp only
      rw [answer_readMetadata_eq_keptRecords]

/-- Nothing tells a state that keeps what the metadata files hold from one that
keeps nothing. -/
theorem keptDescription_eq_heldDescription {build : Build} {p : Path}
    {state : State}
    (h : ∀ metadataFile records,
      build.describedBy? state.files p = some metadataFile →
      state.cache.lookup metadataFile = some records →
      build.heldRecords state.files.fs metadataFile p = .ok records) :
    build.keptDescription state p = build.heldDescription state.files p := by
  unfold keptDescription heldDescription
  cases hfile : build.describedBy? state.files p with
  | none => rfl
  | some metadataFile =>
      dsimp only
      cases hkept : state.cache.lookup metadataFile with
      | none => rw [keptRecords_of_lookup_eq_none hkept]
      | some records =>
          rw [keptRecords_of_lookup hkept, h metadataFile records hfile hkept]

/-! ## Requests leave each other alone -/

/-- Two states that answer every request for a description, and every query
about specifiers, alike. -/
structure AnswersAlike (build : Build) (state other : State) : Prop where
  contents : state.files.fs.SameContents other.files.fs
  planned_eq : other.files.planned = state.files.planned
  description_eq : ∀ p, build.keptDescription other p
    = build.keptDescription state p

namespace AnswersAlike

theorem refl (build : Build) (state : State) : build.AnswersAlike state state :=
  ⟨.refl _, rfl, fun _ => rfl⟩

theorem trans {build : Build} {state middle other : State}
    (first : build.AnswersAlike state middle)
    (last : build.AnswersAlike middle other) : build.AnswersAlike state other :=
  ⟨first.contents.trans last.contents, last.planned_eq.trans first.planned_eq,
    fun p => (last.description_eq p).trans (first.description_eq p)⟩

end AnswersAlike

theorem answersAlike_of_keptRecords_eq {other : State}
    (hcontents : state.files.fs.SameContents other.files.fs)
    (hplanned : other.files.planned = state.files.planned)
    (hrecords : ∀ p metadataFile,
      build.describedBy? state.files p = some metadataFile →
      build.keptRecords other metadataFile p
        = build.keptRecords state metadataFile p) :
    build.AnswersAlike state other := by
  refine ⟨hcontents, hplanned, ?_⟩
  intro p
  rcases state with ⟨⟨fs, planned⟩, cache, log⟩
  rcases other with ⟨⟨otherFs, otherPlanned⟩, otherCache, otherLog⟩
  obtain rfl : otherPlanned = planned := hplanned
  unfold keptDescription
  rw [describedBy?_congr hcontents, ownDescription_congr hcontents]
  cases hfile : build.describedBy? ⟨fs, otherPlanned⟩ p with
  | none => rfl
  | some metadataFile =>
      exact congrArg (·.map some) (hrecords p metadataFile hfile)

theorem answersAlike_of_cache_eq {other : State}
    (hcontents : state.files.fs.SameContents other.files.fs)
    (hplanned : other.files.planned = state.files.planned)
    (hcache : other.cache = state.cache) :
    build.AnswersAlike state other := by
  refine answersAlike_of_keptRecords_eq hcontents hplanned ?_
  intro p metadataFile _
  rw [keptRecords, keptRecords, hcache, heldRecords_congr hcontents]

theorem State.OnlyReads.answersAlike {after : State}
    (h : state.OnlyReads after) :
    build.AnswersAlike state after := by
  rcases h.exists_files_eq with ⟨paths, hpaths⟩
  refine answersAlike_of_cache_eq h.sameContents ?_ h.cache_eq
  rw [hpaths]
  rfl

/-- What is read of the metadata file of one declaration file is kept for no
other. -/
theorem keptRecords_readMetadata {q metadataFile other : Path}
    (hkept : state.cache.lookup metadataFile = none)
    (hq : replaceDeclarationSuffix? q metadataExtension = some metadataFile)
    (hp : replaceDeclarationSuffix? p metadataExtension = some other) :
    build.keptRecords ((build.readMetadata metadataFile q).run state).2 other p
      = build.keptRecords state other p := by
  have hlookup := build.lookup_readMetadata other metadataFile q state
  have hcontents : state.files.fs.SameContents
      ((build.readMetadata metadataFile q).run state).2.files.fs := by
    rcases (build.readMetadata_of_lookup_eq_none q hkept).2 with ⟨paths, hpaths⟩
    rw [hpaths]
    exact FileSystem.sameContents_foldl_countRead _ (metadataFile :: paths)
  by_cases hname : metadataFile = other
  · subst hname
    obtain rfl := replaceDeclarationSuffix?_inj hp hq
    rw [hkept, if_pos rfl, Option.none_or, answer_readMetadata_eq_keptRecords]
      at hlookup
    rw [keptRecords_of_lookup_eq_none hkept] at hlookup ⊢
    cases hheld : build.heldRecords state.files.fs metadataFile p with
    | ok records =>
        rw [hheld] at hlookup
        exact keptRecords_of_lookup hlookup
    | error fault =>
        rw [hheld] at hlookup
        rw [keptRecords_of_lookup_eq_none hlookup,
          heldRecords_congr hcontents, hheld]
  · rw [if_neg hname, Option.or_none] at hlookup
    rw [keptRecords, keptRecords, hlookup, heldRecords_congr hcontents]

/-- A request for the description of a file changes the description of no
file. -/
theorem answersAlike_metadataOf (build : Build) (p : Path) (state : State) :
    build.AnswersAlike state ((build.metadataOf p).run state).2 := by
  cases hfile : build.describedBy? state.files p with
  | none =>
      rcases build.run_metadataOf hfile with ⟨after, hafter, hrun⟩
      rw [hrun]
      exact hafter.answersAlike
  | some metadataFile =>
      rw [run_metadataOf_of_describedBy? hfile]
      cases hkept : state.cache.lookup metadataFile with
      | some records =>
          rw [run_readMetadata_of_lookup p hkept]
          exact .refl build state
      | none =>
          rcases (build.readMetadata_of_lookup_eq_none p hkept).2 with
            ⟨paths, hpaths⟩
          refine answersAlike_of_keptRecords_eq ?_ ?_ ?_
          · rw [hpaths]
            exact FileSystem.sameContents_foldl_countRead _
              (metadataFile :: paths)
          · rw [hpaths]
            rfl
          · intro q other hq
            have hname := (isDeclarationFile_of_metadataFileOf?
              (metadataFileOf?_of_describedBy? hfile)).1
            have hother := (isDeclarationFile_of_metadataFileOf?
              (metadataFileOf?_of_describedBy? hq)).1
            exact keptRecords_readMetadata hkept hname hother

end Build
end BuildHost
