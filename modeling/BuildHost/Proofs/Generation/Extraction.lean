import BuildHost.Build.CodeGeneration
import BuildHost.Proofs.Metadata.Sessions
import BuildHost.Proofs.Results

/-!
# Extraction of symbols, file by file

All files of a program share what is kept of metadata files.  A metadata file
belongs to one declaration file, though, so that to look at one file leaves what
is found in the others (`run_fileSymbols`, `findingOf_congr`).  The symbols of a
program are those of its files, each of which could be the only one
(`programSymbols_eq_flatMap`).
-/

namespace BuildHost
namespace Build

open OrderedMap

variable {build : Build} {state : State}

/-! ## Actions without warnings -/

/-- An action that logs nothing when it succeeds. -/
def IsQuiet {α : Type} (action : Action α) : Prop :=
  ∀ state value after, action.run state = (.ok value, after) →
    after.log = state.log

section Quiet

variable {α β : Type}

theorem isQuiet_pure (value : α) : IsQuiet (pure value : Action α) := by
  intro state result after h
  cases h
  rfl

theorem isQuiet_throw (fault : HostError) :
    IsQuiet (throw fault : Action α) := by
  intro state value after h
  cases h

theorem isQuiet_get : IsQuiet (get : Action State) := by
  intro state value after h
  cases h
  rfl

theorem IsQuiet.bind {action : Action α} {next : α → Action β}
    (h : IsQuiet action) (hnext : ∀ value, IsQuiet (next value)) :
    IsQuiet (action >>= next) := by
  intro state value after hrun
  rw [run_bind] at hrun
  rcases hfirst : action.run state with ⟨result, middle⟩
  rw [hfirst] at hrun
  cases result with
  | error fault => cases hrun
  | ok first =>
      exact (hnext first middle value after hrun).trans
        (h state first middle hfirst)

/-- What is logged before a failure does not count. -/
theorem isQuiet_bind_throw (action : Action α) (fault : α → HostError) :
    IsQuiet (action >>= fun value => (throw (fault value) : Action β)) := by
  intro state value after hrun
  rw [run_bind] at hrun
  rcases hfirst : action.run state with ⟨result, middle⟩
  rw [hfirst] at hrun
  cases result with
  | error cause => cases hrun
  | ok first => cases hrun

theorem isQuiet_fileText (p : Path) : IsQuiet (fileText p) := by
  intro state value after h
  rw [run_fileText] at h
  rw [← (Prod.mk.inj h).2]
  rfl

theorem isQuiet_sourceFile (build : Build) (p : Path) :
    IsQuiet (build.sourceFile p) := by
  unfold sourceFile
  cases build.program.find? p with
  | some file => exact isQuiet_pure file
  | none =>
      apply isQuiet_get.bind
      intro state
      split
      · exact (isQuiet_fileText p).bind fun text => isQuiet_pure _
      · exact isQuiet_throw _

theorem isQuiet_readMetadata (build : Build) (p declarationFile : Path) :
    IsQuiet (build.readMetadata p declarationFile) := by
  have hkeep : ∀ records : List MetadataRecord, IsQuiet (do
      modify fun state : State =>
        { state with cache := (p, records) :: state.cache }
      return records : Action (List MetadataRecord)) := by
    intro records state value after h
    cases h
    rfl
  unfold readMetadata
  apply isQuiet_get.bind
  intro state
  cases state.cache.lookup p with
  | some records => exact isQuiet_pure records
  | none =>
      apply (isQuiet_fileText p).bind
      intro text
      cases MetadataRecord.parseFile text with
      | error fault => exact isQuiet_bind_throw _ _
      | ok records =>
          dsimp only
          cases outdated? records with
          | none => exact hkeep records
          | some old =>
              have hupgrade : IsQuiet (build.upgrade old declarationFile) :=
                (build.isQuiet_sourceFile declarationFile).bind fun file =>
                  isQuiet_pure _
              exact hupgrade.bind fun new => (isQuiet_pure _).bind hkeep

theorem isQuiet_metadataOf (build : Build) (p : Path) :
    IsQuiet (build.metadataOf p) := by
  unfold metadataOf
  apply isQuiet_get.bind
  intro state
  dsimp only
  split
  · exact isQuiet_pure none
  · split
    · cases metadataFileOf? state.files p with
      | none => exact isQuiet_pure _
      | some metadataFile =>
          exact (build.isQuiet_readMetadata metadataFile p).bind fun records =>
            isQuiet_pure _
    · exact (build.isQuiet_sourceFile p).bind fun file => isQuiet_pure _

end Quiet

/-! ## What is found in one file -/

/-- What the extraction of symbols finds in files, and what it has to report. -/
structure Finding where
  symbols : List StaticSymbol
  warnings : Log

def missingMetadata (p : Path) : LogEntry where
  level := .warn
  message := "no metadata found for " ++ String.ofList p

/-- What is found in a file, in a state of the build. -/
def findingOf (build : Build) (state : State) (p : Path) :
    Except HostError Finding :=
  if !build.isInput p then .ok ⟨[], []⟩
  else
    match build.keptDescription state p with
    | .error fault => .error fault
    | .ok records =>
      match records.bind newest? with
      | none => .ok ⟨[], [missingMetadata p]⟩
      | some record =>
        (build.layout.resolve build.resolver state.files p (some p)).map
          fun resolution =>
          ⟨symbolsOf record (resolution.target.getD p), []⟩

theorem resolve_congr {other : State} (h : build.AnswersAlike state other)
    (specifier : Path) (containing : Option Path) :
    build.layout.resolve build.resolver other.files specifier containing
      = build.layout.resolve build.resolver state.files specifier
        containing := by
  have hhost : other.files.resolutionHost = state.files.resolutionHost :=
    calc other.files.resolutionHost
      _ = KnownFiles.resolutionHost ⟨state.files.fs, other.files.planned⟩ :=
        KnownFiles.resolutionHost_congr h.contents other.files.planned
      _ = state.files.resolutionHost := by rw [h.planned_eq]
  rw [Layout.resolve, Layout.resolve, hhost]

theorem findingOf_congr {other : State} (h : build.AnswersAlike state other)
    (p : Path) :
    build.findingOf other p = build.findingOf state p := by
  simp only [findingOf, h.description_eq, resolve_congr h]

/-- What an extraction leaves: a state that answers as before, and the warnings
of what was found. -/
structure IsExtracted (build : Build) (state : State)
    (finding : Except HostError Finding) (after : State) : Prop where
  alike : build.AnswersAlike state after
  log_eq : ∀ found, finding = .ok found →
    after.log = state.log ++ found.warnings

theorem IsExtracted.of_error {fault : HostError} {after : State}
    (h : build.AnswersAlike state after) :
    build.IsExtracted state (.error fault) after := by
  refine ⟨h, ?_⟩
  rintro found ⟨⟩

/-- What is found in a file leaves what is found in the others. -/
theorem run_fileSymbols (build : Build) (p : Path) (state : State) :
    ∃ after,
      (build.fileSymbols p).run state
        = ((build.findingOf state p).map (·.symbols), after) ∧
      build.IsExtracted state (build.findingOf state p) after := by
  unfold fileSymbols findingOf
  by_cases hinput : (!build.isInput p) = true
  · rw [if_pos hinput, if_pos hinput]
    refine ⟨state, rfl, .refl build state, ?_⟩
    rintro found ⟨⟩
    exact (List.append_nil _).symm
  · rw [if_neg hinput, if_neg hinput, run_bind]
    have hanswer := build.answer_metadataOf p state
    have halike := build.answersAlike_metadataOf p state
    have hquiet := build.isQuiet_metadataOf p state
    generalize (build.metadataOf p).run state
      = outcome at hanswer halike hquiet ⊢
    rcases outcome with ⟨result, middle⟩
    dsimp only at hanswer halike
    rw [← hanswer]
    cases result with
    | error fault => exact ⟨middle, rfl, .of_error halike⟩
    | ok records =>
        have hlog := hquiet records middle rfl
        dsimp only
        cases records.bind newest? with
        | none =>
            refine ⟨{ middle with log := middle.log ++ [missingMetadata p] },
              rfl, ?_, ?_⟩
            · exact halike.trans (answersAlike_of_cache_eq (.refl _) rfl rfl)
            · rintro found ⟨⟩
              exact congrArg (· ++ [missingMetadata p]) hlog
        | some record =>
            dsimp only
            rw [run_bind, run_resolve, resolve_congr halike]
            cases build.layout.resolve build.resolver state.files p
              (some p) with
            | error fault => exact ⟨middle, rfl, .of_error halike⟩
            | ok resolution =>
                refine ⟨{ middle with
                  files := middle.files.countReads resolution.manifests },
                  rfl, ?_, ?_⟩
                · have hcontents :=
                    FileSystem.sameContents_foldl_countRead middle.files.fs
                      resolution.manifests
                  exact halike.trans
                    (answersAlike_of_cache_eq hcontents rfl rfl)
                · rintro found ⟨⟩
                  exact hlog.trans (List.append_nil _).symm

/-! ## What is found in several files -/

/-- The findings of several files, when there is no fault in any of them. -/
def findingsOf (build : Build) (state : State) :
    List Path → Except HostError Finding
  | [] => .ok ⟨[], []⟩
  | p :: rest => do
    let first ← build.findingOf state p
    let others ← findingsOf build state rest
    return ⟨first.symbols ++ others.symbols, first.warnings ++ others.warnings⟩

theorem findingsOf_congr {other : State} (h : build.AnswersAlike state other)
    (paths : List Path) :
    build.findingsOf other paths = build.findingsOf state paths := by
  induction paths with
  | nil => rfl
  | cons p rest ih => rw [findingsOf, findingsOf, findingOf_congr h, ih]

theorem run_symbolsOfFiles (build : Build) (paths : List Path) (state : State) :
    ∃ after, (build.symbolsOfFiles paths).run state
        = ((build.findingsOf state paths).map (·.symbols), after) ∧
      build.IsExtracted state (build.findingsOf state paths) after := by
  induction paths generalizing state with
  | nil =>
      refine ⟨state, rfl, .refl build state, ?_⟩
      rintro found ⟨⟩
      exact (List.append_nil _).symm
  | cons p rest ih =>
      rcases build.run_fileSymbols p state with ⟨middle, hfirst, hmiddle⟩
      unfold symbolsOfFiles findingsOf
      rw [run_bind, hfirst]
      cases hfound : build.findingOf state p with
      | error fault => exact ⟨middle, rfl, .of_error hmiddle.alike⟩
      | ok first =>
          rcases ih middle with ⟨after, hrest, hafter⟩
          rw [findingsOf_congr hmiddle.alike] at hrest hafter
          have halike := hmiddle.alike.trans hafter.alike
          show ∃ after, (build.symbolsOfFiles rest >>= fun others =>
            (pure (first.symbols ++ others) : Action (List StaticSymbol))).run
              middle = _ ∧ _
          rw [run_bind, hrest]
          cases hothers : build.findingsOf state rest with
          | error fault => exact ⟨after, rfl, .of_error halike⟩
          | ok others =>
              refine ⟨after, rfl, halike, ?_⟩
              rintro found ⟨⟩
              rw [hafter.log_eq others hothers, hmiddle.log_eq first hfound,
                List.append_assoc]

/-- The findings of several files are there when those of each file are, and
follow each other. -/
theorem findingsOf_eq_ok {paths : List Path} (found : Path → Finding)
    (h : ∀ p ∈ paths, build.findingOf state p = .ok (found p)) :
    build.findingsOf state paths
      = .ok ⟨paths.flatMap fun p => (found p).symbols,
        paths.flatMap fun p => (found p).warnings⟩ := by
  induction paths with
  | nil => rfl
  | cons p rest ih =>
      rw [findingsOf, h p List.mem_cons_self,
        ih fun q hq => h q (List.mem_cons_of_mem p hq)]
      rfl

theorem exists_findingOf_eq_ok {paths : List Path} {all : Finding}
    (h : build.findingsOf state paths = .ok all) {p : Path} (hp : p ∈ paths) :
    ∃ found, build.findingOf state p = .ok found := by
  induction paths generalizing all with
  | nil => cases hp
  | cons q rest ih =>
      rcases exists_of_bind_eq_ok h with ⟨first, hfirst, h⟩
      rcases exists_of_bind_eq_ok h with ⟨others, hothers, -⟩
      rcases List.mem_cons.1 hp with rfl | hp
      · exact ⟨first, hfirst⟩
      · exact ih hothers hp

theorem run_programSymbols (build : Build) {found : Path → Finding}
    (hfound : ∀ file ∈ build.program.sourceFiles,
      build.findingOf state file.path = .ok (found file.path)) :
    ∃ after, build.programSymbols.run state
        = (.ok (build.program.sourceFiles.flatMap fun file =>
            (found file.path).symbols), after) ∧
      build.AnswersAlike state after ∧
      after.log
        = state.log ++ build.program.sourceFiles.flatMap fun file =>
          (found file.path).warnings := by
  have hall : build.findingsOf state (build.program.sourceFiles.map (·.path))
      = .ok
        ⟨build.program.sourceFiles.flatMap fun file =>
            (found file.path).symbols,
          build.program.sourceFiles.flatMap fun file =>
            (found file.path).warnings⟩ := by
    rw [findingsOf_eq_ok found, List.flatMap_map, List.flatMap_map]
    intro p hp
    rcases List.mem_map.1 hp with ⟨file, hfile, rfl⟩
    exact hfound file hfile
  rcases build.run_symbolsOfFiles (build.program.sourceFiles.map (·.path)) state
    with ⟨after, hrun, hafter⟩
  rw [hall] at hrun
  exact ⟨after, hrun, hafter.alike, hafter.log_eq _ hall⟩

/-- An extraction that succeeds has found something in every file. -/
theorem exists_found_of_run {symbols : List StaticSymbol} {after : State}
    (hrun : build.programSymbols.run state = (.ok symbols, after)) :
    ∃ found : Path → Finding, ∀ file ∈ build.program.sourceFiles,
      build.findingOf state file.path = .ok (found file.path) := by
  refine ⟨fun p => (build.findingOf state p).toOption.getD ⟨[], []⟩, ?_⟩
  intro file hfile
  rcases build.run_symbolsOfFiles (build.program.sourceFiles.map (·.path)) state
    with ⟨reached, hall, -⟩
  cases hfindings : build.findingsOf state
    (build.program.sourceFiles.map (·.path)) with
  | error fault =>
      rw [programSymbols, hall, hfindings] at hrun
      cases hrun
  | ok all =>
      rcases exists_findingOf_eq_ok hfindings (List.mem_map_of_mem hfile) with
        ⟨finding, hfinding⟩
      dsimp only
      rw [hfinding]
      rfl

/-! ## Other programs -/

/-- The build with another program. -/
def withProgram (build : Build) (program : Program) : Build :=
  { build with program }

theorem heldSource_withProgram {program : Program} {p : Path}
    (h : program.find? p = build.program.find? p) (fs : FileSystem) :
    (build.withProgram program).heldSource fs p = build.heldSource fs p := by
  simp only [heldSource, withProgram, h]

theorem keptRecords_withProgram {program : Program} {declarationFile : Path}
    (h : program.find? declarationFile = build.program.find? declarationFile)
    (p : Path) : (build.withProgram program).keptRecords state p declarationFile
      = build.keptRecords state p declarationFile := by
  simp only [keptRecords, heldRecords, heldSource_withProgram h]
  rfl

/-- What is found in a file depends on the program only through the file. -/
theorem findingOf_withProgram {program : Program} {p : Path}
    (h : program.find? p = build.program.find? p) :
    (build.withProgram program).findingOf state p
      = build.findingOf state p := by
  have hdescription : (build.withProgram program).keptDescription state p
      = build.keptDescription state p := by
    have hcontains : (build.withProgram program).program.contains p
        = build.program.contains p :=
      congrArg Option.isSome h
    simp only [keptDescription, describedBy?, ownDescription,
      keptRecords_withProgram h, heldSource_withProgram h, hcontains]
    rfl
  rw [findingOf, findingOf, hdescription]
  rfl

theorem answersAlike_fresh (h : build.IsFaithful state state.files.fs) :
    build.AnswersAlike state (.fresh state.files) := by
  refine ⟨.refl _, rfl, ?_⟩
  intro p
  have hfresh := build.isFaithful_of_nil
    (rfl : (State.fresh state.files).cache = [])
  rw [← answer_metadataOf, ← answer_metadataOf,
    build.answer_metadataOf_of_isFaithful _ hfresh,
    build.answer_metadataOf_of_isFaithful _ h]
  rfl

theorem find?_of_mem_sourceFiles {program : Program}
    (h : HasDistinctKeys program.files) {file : SourceFile}
    (hfile : file ∈ program.sourceFiles) :
    program.find? file.path = some file := by
  rcases List.mem_map.1 hfile with ⟨entry, hentry, rfl⟩
  rw [Program.find?, (lookup_eq_some_iff h).2 hentry]
  rfl

theorem find?_of_perm {program other : Program}
    (h : HasDistinctKeys program.files) (hperm : other.files.Perm program.files)
    (p : Path) : other.find? p = program.find? p := by
  rw [Program.find?, Program.find?, lookup_eq_of_perm h hperm]

/-- The program of one file. -/
def onlyFile (file : SourceFile) : Program :=
  Program.empty.add file.path file.text

theorem find?_onlyFile (file : SourceFile) :
    (onlyFile file).find? file.path = some file :=
  @find?_of_mem_sourceFiles (onlyFile file)
    (List.nodup_singleton file.path) file (List.mem_singleton_self file)

theorem run_programSymbols_onlyFile {file : SourceFile} {found : Finding}
    (hfile : build.program.find? file.path = some file)
    (hfound : build.findingOf state file.path = .ok found) :
    ∃ alone, (build.withProgram (onlyFile file)).programSymbols.run state
        = (.ok found.symbols, alone) ∧
          alone.log = state.log ++ found.warnings := by
  have honly : ∀ one ∈ (onlyFile file).sourceFiles,
      (build.withProgram (onlyFile file)).findingOf state one.path
        = .ok found := by
    intro one hone
    obtain rfl : one = file := List.mem_singleton.1 hone
    rw [findingOf_withProgram ((find?_onlyFile one).trans hfile.symm)]
    exact hfound
  rcases @run_programSymbols state (build.withProgram (onlyFile file))
    (fun _ => found) honly with ⟨alone, hrun, -, hlog⟩
  refine ⟨alone, hrun.trans ?_, hlog.trans ?_⟩
  · exact congrArg (fun symbols => (Except.ok symbols, alone))
      (List.append_nil found.symbols)
  · exact congrArg (state.log ++ ·) (List.append_nil found.warnings)

theorem run_programSymbols_perm {other : Program} {found : Path → Finding}
    (hdistinct : HasDistinctKeys build.program.files)
    (hfound : ∀ file ∈ build.program.sourceFiles,
      build.findingOf state file.path = .ok (found file.path))
    (hperm : other.files.Perm build.program.files) :
    ∃ reached, (build.withProgram other).programSymbols.run state
        = (.ok (other.sourceFiles.flatMap fun file =>
            (found file.path).symbols), reached) ∧
      reached.log = state.log ++ other.sourceFiles.flatMap fun file =>
        (found file.path).warnings := by
  have hother : ∀ file ∈ other.sourceFiles,
      (build.withProgram other).findingOf state file.path
        = .ok (found file.path) := by
    intro file hfile
    rw [findingOf_withProgram (find?_of_perm hdistinct hperm file.path)]
    exact hfound file ((hperm.map _).mem_iff.1 hfile)
  rcases (build.withProgram other).run_programSymbols hother with
    ⟨reached, hrun, -, hlog⟩
  exact ⟨reached, hrun, hlog⟩

/-- The symbols and the warnings of a program are those of its files, one after
the other, and each file could as well be the only one, looked at by a build
that has kept nothing yet.  So a program of the same files in another order has
the same symbols in that order, and looking again gives the same. -/
theorem programSymbols_eq_flatMap {symbols : List StaticSymbol} {after : State}
    (hdistinct : HasDistinctKeys build.program.files)
    (hfaithful : build.IsFaithful state state.files.fs)
    (hrun : build.programSymbols.run state = (.ok symbols, after)) :
    ∃ found : SourceFile → Finding,
      (∀ file ∈ build.program.sourceFiles, ∃ alone,
        (build.withProgram (onlyFile file)).programSymbols.run
              (.fresh state.files)
            = (.ok (found file).symbols, alone) ∧
          alone.log = (found file).warnings) ∧
      symbols
        = build.program.sourceFiles.flatMap (fun file =>
          (found file).symbols) ∧
      after.log
        = state.log ++ build.program.sourceFiles.flatMap (fun file =>
          (found file).warnings) ∧
      (∀ other : Program, other.files.Perm build.program.files → ∃ reached,
        (build.withProgram other).programSymbols.run state
            = (.ok (other.sourceFiles.flatMap fun file => (found file).symbols),
              reached) ∧
          reached.log = state.log ++ other.sourceFiles.flatMap fun file =>
            (found file).warnings) ∧
      ∃ again, build.programSymbols.run after = (.ok symbols, again) ∧
        again.log
          = after.log ++ build.program.sourceFiles.flatMap fun file =>
            (found file).warnings := by
  rcases exists_found_of_run hrun with ⟨found, hfound⟩
  rcases build.run_programSymbols hfound with ⟨left, hleft, hwarm, hlog⟩
  rw [hrun] at hleft
  rcases Prod.mk.inj hleft with ⟨hsymbols, rfl⟩
  refine ⟨fun file => found file.path, ?_, Except.ok.inj hsymbols, hlog, ?_, ?_⟩
  · intro file hfile
    have hfresh := findingOf_congr (answersAlike_fresh hfaithful) file.path
    exact run_programSymbols_onlyFile (find?_of_mem_sourceFiles hdistinct hfile)
      (hfresh.trans (hfound file hfile))
  · intro other hperm
    exact run_programSymbols_perm hdistinct hfound hperm
  · have hagain : ∀ file ∈ build.program.sourceFiles,
        build.findingOf after file.path = .ok (found file.path) := by
      intro file hfile
      rw [findingOf_congr hwarm]
      exact hfound file hfile
    rcases build.run_programSymbols hagain with ⟨again, hrun, -, hlog⟩
    exact ⟨again, hrun.trans (by rw [hsymbols]), hlog⟩

/-- A program of a class and of a file that exports nothing. -/
def classAndNothing : Program where
  files := [("/p/a.ts".toList, "export class A \x7b\x7d"),
    ("/p/b.ts".toList, "")]

theorem programSymbols_eq_flatMap_classAndNothing :
    let build := outsideBuild classAndNothing .ofText
    let state := State.start (.inMemory (.empty true))
    let reversed : Program := ⟨classAndNothing.files.reverse⟩
    HasDistinctKeys classAndNothing.files ∧
    ∃ found : SourceFile → Finding,
      [⟨"/p/a.ts".toList, "A"⟩]
        = classAndNothing.sourceFiles.flatMap (fun file =>
          (found file).symbols) ∧
      [missingMetadata "/p/b.ts".toList]
        = classAndNothing.sourceFiles.flatMap (fun file =>
          (found file).warnings) ∧
      ∃ reached, (build.withProgram reversed).programSymbols.run state
        = (.ok (reversed.sourceFiles.flatMap fun file => (found file).symbols),
          reached) := by
  intro build state reversed
  have hdistinct : HasDistinctKeys classAndNothing.files := by
    unfold HasDistinctKeys
    decide
  have hsymbols : (build.programSymbols.run state).1.toOption
      = some [⟨"/p/a.ts".toList, "A"⟩] := by
    decide +kernel
  have hlog : (build.programSymbols.run state).2.log
      = [missingMetadata "/p/b.ts".toList] := by
    decide +kernel
  rcases hrun : build.programSymbols.run state with ⟨result, after⟩
  rw [hrun] at hsymbols hlog
  cases result with
  | error fault => cases hsymbols
  | ok symbols =>
      obtain rfl : symbols = [⟨"/p/a.ts".toList, "A"⟩] :=
        Option.some_inj.1 hsymbols
      rcases programSymbols_eq_flatMap hdistinct
        (build.isFaithful_of_nil rfl) hrun
        with ⟨found, -, hfound, hwarnings, hperm, -⟩
      rcases hperm reversed (List.reverse_perm _) with ⟨reached, hreached, -⟩
      refine ⟨hdistinct, found, hfound, ?_, reached, hreached⟩
      exact hlog.symm.trans hwarnings

end Build
end BuildHost
