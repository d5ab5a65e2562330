import BuildHost.Proofs.Generation.Extraction
import BuildHost.Proofs.Metadata.Names
import BuildHost.Proofs.Resolution.Itself

/-!
# Which files symbols are attributed to

The symbols of a file are the names that its newest record describes
(`mem_namesOf_iff`).  They are attributed to the file that the path of the file,
read as a specifier, leads to, which need not be the file itself: a file whose
module has an earlier one gives its symbols to that one
(`programSymbols_attributed`), so that a symbol can be attributed twice to a
file, or to a file that does not export it (`programSymbols_siblings_ne`).
-/

namespace BuildHost
namespace Build

open OrderedMap NodeResolution

variable {build : Build} {state : State} {p : Path}

/-! ## The symbols of one file -/

/-- The names that a record describes, but for those that could not be
described. -/
def describedNames (record : MetadataRecord) : List String :=
  (record.symbols.filter fun symbol => !isErrorSymbol symbol.2).map (·.1)

/-- The newest of the records that describe a file. -/
def newestOf? (build : Build) (state : State) (p : Path) :
    Option MetadataRecord :=
  ((build.metadataOf p).run state).1.toOption.join.bind newest?

def namesOf (build : Build) (state : State) (p : Path) : List String :=
  ((build.newestOf? state p).map describedNames).getD []

/-- The file that the path of a file leads to as a specifier, or else the file
itself. -/
def declaringFile (build : Build) (files : KnownFiles) (p : Path) : Path :=
  (build.resolver files.resolutionHost p.withoutExtension p).target.getD p

/-- The symbols of a file, as they are attributed. -/
def attributed (build : Build) (state : State) (p : Path) : List StaticSymbol :=
  (build.namesOf state p).map fun name =>
    ⟨build.declaringFile state.files p, name⟩

theorem symbolsOf_eq_map (record : MetadataRecord) (q : Path) :
    symbolsOf record q = (describedNames record).map fun name => ⟨q, name⟩ := by
  rw [symbolsOf, describedNames, List.map_map]
  rfl

theorem symbols_of_findingOf_eq_ok {found : Finding} (hr : p.isRooted = true)
    (h : build.findingOf state p = .ok found) :
    found.symbols = if build.isInput p then build.attributed state p
      else [] := by
  unfold findingOf at h
  by_cases hinput : build.isInput p = true
  · rw [if_neg (by simp [hinput]), ← answer_metadataOf] at h
    rw [if_pos hinput, attributed, namesOf, newestOf?]
    cases hanswer : ((build.metadataOf p).run state).1 with
    | error fault =>
        rw [hanswer] at h
        cases h
    | ok records =>
        rw [hanswer] at h
        show _
          = List.map _ (((records.bind newest?).map describedNames).getD [])
        dsimp only at h
        cases hnewest : records.bind newest? with
        | none =>
            rw [hnewest] at h
            cases h
            rfl
        | some record =>
            rw [hnewest] at h
            rw [Layout.resolve, Layout.containingFile_of_isRooted hr] at h
            cases h
            exact symbolsOf_eq_map record _
  · rw [if_pos (by simpa using hinput)] at h
    cases h
    rw [if_neg hinput]

/-! ## Names -/

theorem mem_of_newest?_eq_some {records : List MetadataRecord}
    {record : MetadataRecord} (h : newest? records = some record) :
    record ∈ records := by
  have hne : records ≠ [] := by
    rintro rfl
    cases h
  rcases exists_newest?_eq hne with ⟨chosen, front, back, hchosen, hsplit, -, -⟩
  rw [h] at hchosen
  cases hchosen
  rw [hsplit]
  simp

theorem hasDistinctNames_newestOf?
    (hcollector : build.collector.HasDistinctNames)
    (hstate : KeepsDistinctNames state) {record : MetadataRecord}
    (h : build.newestOf? state p = some record) : record.HasDistinctNames := by
  rw [newestOf?, answer_metadataOf] at h
  rcases Option.bind_eq_some_iff.1 h with ⟨records, hrecords, hnewest⟩
  have hanswer := eq_ok_of_toOption_eq_some (Option.join_eq_some_iff.1 hrecords)
  exact hasDistinctNames_keptDescription hcollector hstate hanswer record
    (mem_of_newest?_eq_some hnewest)

theorem mem_describedNames_iff {record : MetadataRecord}
    (h : record.HasDistinctNames) {name : String} :
    name ∈ describedNames record ↔
      ∃ value, record.symbols.lookup name = some value ∧
        isErrorSymbol value = false := by
  simp only [describedNames, List.mem_map, List.mem_filter,
    lookup_eq_some_iff h]
  constructor
  · rintro ⟨⟨_, value⟩, ⟨hmem, herror⟩, rfl⟩
    exact ⟨value, hmem, by simpa using herror⟩
  · rintro ⟨value, hmem, herror⟩
    exact ⟨(name, value), ⟨hmem, by simpa using herror⟩, rfl⟩

theorem nodup_describedNames {record : MetadataRecord}
    (h : record.HasDistinctNames) : (describedNames record).Nodup :=
  h.sublist (List.filter_sublist.map _)

theorem mem_namesOf_iff (hcollector : build.collector.HasDistinctNames)
    (hstate : KeepsDistinctNames state) {name : String} :
    name ∈ build.namesOf state p ↔
      ∃ record value, build.newestOf? state p = some record ∧
        record.symbols.lookup name = some value ∧
        isErrorSymbol value = false := by
  rw [namesOf]
  cases hnewest : build.newestOf? state p with
  | none => simp
  | some record =>
      have hdistinct := hasDistinctNames_newestOf? hcollector hstate hnewest
      simp [mem_describedNames_iff hdistinct]

theorem nodup_namesOf (hcollector : build.collector.HasDistinctNames)
    (hstate : KeepsDistinctNames state) : (build.namesOf state p).Nodup := by
  rw [namesOf]
  cases hnewest : build.newestOf? state p with
  | none => exact List.nodup_nil
  | some record =>
      exact nodup_describedNames
        (hasDistinctNames_newestOf? hcollector hstate hnewest)

/-! ## The symbols of a program -/

/-- The files of the program that symbols are extracted from. -/
def inputs (build : Build) : List Path :=
  (build.program.sourceFiles.map (·.path)).filter build.isInput

theorem programSymbols_eq_attributed {symbols : List StaticSymbol}
    {after : State} (hrooted : ∀ file ∈ build.program.sourceFiles,
      file.path.isRooted = true)
    (hrun : build.programSymbols.run state = (.ok symbols, after)) :
    symbols = build.inputs.flatMap (build.attributed state) := by
  rcases exists_found_of_run hrun with ⟨found, hfound⟩
  rcases build.run_programSymbols hfound with ⟨left, hleft, -, -⟩
  rw [hrun] at hleft
  rw [Except.ok.inj (Prod.mk.inj hleft).1, inputs]
  have hblock : ∀ file ∈ build.program.sourceFiles, (found file.path).symbols
      = if build.isInput file.path then build.attributed state file.path
        else [] :=
    fun file hfile =>
      symbols_of_findingOf_eq_ok (hrooted file hfile) (hfound file hfile)
  generalize build.program.sourceFiles = files at hblock
  induction files with
  | nil => rfl
  | cons file rest ih =>
      have hrest := ih fun other hother =>
        hblock other (List.mem_cons_of_mem file hother)
      rw [List.flatMap_cons, hblock file List.mem_cons_self, hrest,
        List.map_cons]
      by_cases hinput : build.isInput file.path = true
      · rw [if_pos hinput, List.filter_cons_of_pos hinput, List.flatMap_cons]
      · rw [if_neg hinput, List.filter_cons_of_neg hinput, List.nil_append]

theorem disjoint_attributed_iff {q : Path} :
    (build.attributed state p).Disjoint (build.attributed state q) ↔
      (build.declaringFile state.files p = build.declaringFile state.files q →
        (build.namesOf state p).Disjoint (build.namesOf state q)) := by
  constructor
  · intro h hsame name hp hq
    apply h (List.mem_map.2 ⟨name, hp, rfl⟩)
    rw [hsame]
    exact List.mem_map.2 ⟨name, hq, rfl⟩
  · intro h symbol hp hq
    rcases List.mem_map.1 hp with ⟨name, hname, rfl⟩
    rcases List.mem_map.1 hq with ⟨other, hother, heq⟩
    rcases StaticSymbol.mk.inj heq with ⟨hsame, rfl⟩
    exact h hsame.symm hname hother

/-- No symbol comes twice exactly when files that are attributed to one file
have no name in common. -/
theorem nodup_flatMap_attributed_iff
    (hcollector : build.collector.HasDistinctNames)
    (hstate : KeepsDistinctNames state) (paths : List Path) :
    (paths.flatMap (build.attributed state)).Nodup ↔
      paths.Pairwise fun p q =>
        build.declaringFile state.files p = build.declaringFile state.files q →
          (build.namesOf state p).Disjoint (build.namesOf state q) := by
  have hblocks : ∀ p ∈ paths, (build.attributed state p).Nodup := by
    intro p _
    exact (nodup_namesOf hcollector hstate).map fun _ _ heq =>
      (StaticSymbol.mk.inj heq).2
  rw [List.nodup_flatMap, and_iff_right hblocks]
  exact List.Pairwise.iff fun {p q} => disjoint_attributed_iff

/-- A state that a session can reach which starts with nothing kept. -/
def Reaches (build : Build) (state : State) : Prop :=
  ∃ files events, build.afterEvents (.fresh files) events = state

theorem Reaches.keepsDistinctNames
    (hcollector : build.collector.HasDistinctNames) (h : build.Reaches state) :
    KeepsDistinctNames state := by
  rcases h with ⟨files, events, rfl⟩
  exact keepsDistinctNames_afterEvents hcollector
    (keepsDistinctNames_of_nil rfl) events

theorem nodup_inputs (h : HasDistinctKeys build.program.files) :
    build.inputs.Nodup := by
  have hpaths : build.program.sourceFiles.map (·.path)
      = build.program.files.map (·.1) := by
    rw [Program.sourceFiles, List.map_map]
    rfl
  rw [inputs, hpaths]
  exact List.Nodup.filter _ h

/-- The symbols of a program are the names that the newest records of its inputs
describe, and each is attributed to the file that the path of the input leads
to: the first file of the module that exists.  When no input has an earlier file
of its module beside it, every symbol is one of the file that it is attributed
to, and comes once. -/
theorem programSymbols_attributed {roots : List Path}
    {symbols : List StaticSymbol} {after : State}
    (hresolver : build.resolver = NodeResolution.resolver roots)
    (hdistinct : HasDistinctKeys build.program.files)
    (hcollector : build.collector.HasDistinctNames)
    (hreached : build.Reaches state)
    (hprogram : ∀ file ∈ build.program.sourceFiles,
      Path.IsNormal file.path ∧ file.path.isRooted = true ∧
        (∃ ending ∈ extensions, ending <:+ file.path) ∧
          state.files.fs.isFile file.path = true)
    (hrun : build.programSymbols.run state = (.ok symbols, after)) :
    symbols = build.inputs.flatMap (build.attributed state) ∧
    (∀ p name, name ∈ build.namesOf state p ↔
      ∃ record value, build.newestOf? state p = some record ∧
        record.symbols.lookup name = some value ∧ isErrorSymbol value = false) ∧
    (∀ p ∈ build.inputs,
      p.withoutExtension.lastSegment ∉ [[], Path.here, Path.up] →
      build.declaringFile state.files p
          = ((earlierFiles p).find?
            state.files.resolutionHost.fileExists).getD p ∧
        (build.declaringFile state.files p = p ↔
          ∀ q ∈ earlierFiles p, state.files.resolutionHost.fileExists q
            = false)) ∧
    (symbols.Nodup ↔ build.inputs.Pairwise fun p q =>
      build.declaringFile state.files p = build.declaringFile state.files q →
        (build.namesOf state p).Disjoint (build.namesOf state q)) ∧
    ((∀ p ∈ build.inputs, build.declaringFile state.files p = p) →
      (∀ symbol ∈ symbols, symbol.path ∈ build.inputs ∧
        ∃ record value, build.newestOf? state symbol.path = some record ∧
          record.symbols.lookup symbol.name = some value ∧
          isErrorSymbol value = false) ∧
      symbols.Nodup) := by
  have hstate := hreached.keepsDistinctNames hcollector
  have hsymbols := programSymbols_eq_attributed
    (fun file hfile => (hprogram file hfile).2.1) hrun
  have hnodup := nodup_flatMap_attributed_iff hcollector hstate build.inputs
  rw [← hsymbols] at hnodup
  refine ⟨hsymbols, fun p name => mem_namesOf_iff hcollector hstate, ?_,
    hnodup, ?_⟩
  · intro p hp hlast
    rcases List.mem_map.1 (List.mem_filter.1 hp).1 with ⟨file, hfile, rfl⟩
    rcases hprogram file hfile with ⟨hnormal, hrooted, hends, hdisk⟩
    have hexists := KnownFiles.fileExists_resolutionHost hrooted
      (KnownFiles.fileExists_iff.2 (.inl hdisk))
    have hdeclaring : build.declaringFile state.files file.path
        = ((earlierFiles file.path).find?
          state.files.resolutionHost.fileExists).getD file.path := by
      rw [declaringFile, hresolver,
        target_resolve_self hnormal hrooted hends hexists hlast]
      rfl
    refine ⟨hdeclaring, ?_⟩
    rw [hdeclaring]
    exact getD_find?_earlierFiles_eq_self_iff hends
  · intro hself
    constructor
    · intro symbol hsymbol
      rw [hsymbols] at hsymbol
      rcases List.mem_flatMap.1 hsymbol with ⟨p, hp, hsymbol⟩
      rcases List.mem_map.1 hsymbol with ⟨name, hname, rfl⟩
      dsimp only
      rw [hself p hp]
      exact ⟨hp, (mem_namesOf_iff hcollector hstate).1 hname⟩
    · rw [hnodup]
      refine (nodup_inputs hdistinct).imp_of_mem ?_
      intro p q hp hq hne hsame
      rw [hself p hp, hself q hq] at hsame
      exact absurd hsame hne

/-- Two files of one module: the second exports a class of the same name as the
first, and another one. -/
def siblings : Program where
  files :=
    [("/p/a.ts".toList, "export class A \x7b\x7d"),
      ("/p/a.tsx".toList, "export class A \x7b\x7d export class B \x7b\x7d")]

/-- Two modules that export a class of the same name. -/
def neighbours : Program where
  files :=
    [("/p/a.ts".toList, "export class A \x7b\x7d"),
      ("/p/b.tsx".toList, "export class A \x7b\x7d")]

/-- The files of a program, in memory. -/
def treeOf (program : Program) : FileSystem :=
  .inMemory
    (program.files.foldl (fun tree file => tree.addFile file.1 file.2.toUTF8)
      (.empty true))

theorem programSymbols_attributed_neighbours :
    let build := outsideBuild neighbours .ofText
    let state := State.start (treeOf neighbours)
    ∃ symbols after, build.programSymbols.run state = (.ok symbols, after) ∧
      symbols = [⟨"/p/a.ts".toList, "A"⟩, ⟨"/p/b.tsx".toList, "A"⟩] ∧
      symbols.Nodup ∧
      ∀ symbol ∈ symbols, symbol.path ∈ build.inputs := by
  intro build state
  have hsymbols : (build.programSymbols.run state).1.toOption
      = some [⟨"/p/a.ts".toList, "A"⟩, ⟨"/p/b.tsx".toList, "A"⟩] := by
    decide +kernel
  have hprogram : ∀ file ∈ build.program.sourceFiles,
      Path.IsNormal file.path ∧ file.path.isRooted = true ∧
        (∃ ending ∈ extensions, ending <:+ file.path) ∧
          state.files.fs.isFile file.path = true := by
    decide +kernel
  have hself : ∀ p ∈ build.inputs, build.declaringFile state.files p = p := by
    decide +kernel
  have hdistinct : HasDistinctKeys build.program.files := by
    unfold HasDistinctKeys
    decide
  rcases hrun : build.programSymbols.run state with ⟨result, after⟩
  rw [hrun] at hsymbols
  cases result with
  | error fault => cases hsymbols
  | ok symbols =>
      have hattributed :=
        @programSymbols_attributed build state [] symbols after rfl hdistinct
          MetadataCollector.hasDistinctNames_ofText ⟨_, [], rfl⟩ hprogram hrun
      have hdone := hattributed.2.2.2.2 hself
      exact ⟨symbols, after, rfl, Option.some_inj.1 hsymbols, hdone.2,
        fun symbol hsymbol => (hdone.1 symbol hsymbol).1⟩

/-- A file gives its symbols to the file of its module that comes first: one
symbol comes twice, and another is attributed to a file that does not describe
it. -/
theorem programSymbols_siblings_ne :
    let build := outsideBuild siblings .ofText
    let state := State.start (treeOf siblings)
    build.resolver = NodeResolution.resolver [] ∧
      HasDistinctKeys siblings.files ∧
    (∀ file ∈ siblings.sourceFiles,
      Path.IsNormal file.path ∧ file.path.isRooted = true ∧
        (∃ ending ∈ extensions, ending <:+ file.path) ∧
        state.files.fs.isFile file.path = true) ∧
    ∃ symbols after, build.programSymbols.run state = (.ok symbols, after) ∧
      ¬ symbols.Nodup ∧
      ∃ symbol ∈ symbols, ∀ record,
        build.newestOf? state symbol.path = some record →
        record.symbols.lookup symbol.name = none := by
  intro build state
  have hsymbols : (build.programSymbols.run state).1.toOption
      = some [⟨"/p/a.ts".toList, "A"⟩, ⟨"/p/a.ts".toList, "A"⟩,
        ⟨"/p/a.ts".toList, "B"⟩] := by
    decide +kernel
  have hdistinct : HasDistinctKeys siblings.files := by
    unfold HasDistinctKeys
    decide
  have hmissing : (build.newestOf? state "/p/a.ts".toList).all
      (fun record => (record.symbols.lookup "B").isNone) = true := by
    decide +kernel
  refine ⟨rfl, hdistinct, by decide +kernel, ?_⟩
  rcases hrun : build.programSymbols.run state with ⟨result, after⟩
  rw [hrun] at hsymbols
  cases result with
  | error fault => cases hsymbols
  | ok symbols =>
      obtain rfl := Option.some_inj.1 hsymbols
      refine ⟨_, after, rfl, by decide, ⟨"/p/a.ts".toList, "B"⟩, by simp, ?_⟩
      intro record hrecord
      rw [hrecord] at hmissing
      exact Option.isNone_iff_eq_none.1 hmissing

end Build
end BuildHost
