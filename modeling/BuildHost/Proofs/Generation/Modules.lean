import BuildHost.Proofs.FileSystem.Writing
import BuildHost.Proofs.Generation.Symbols

/-!
# Where generated modules are written

Modules are written one after the other, each at the counterpart of its place
(`run_emitModules`).  All counterparts lie in the directory of generated files,
so that no file elsewhere changes, whatever paths the compiler gives its modules
and wherever the writing stops (`generate_writes_into_genDir`).
-/

namespace BuildHost
namespace Build

open BuildHost.Path OrderedMap

variable (build : Build)

/-! ## Writing one module -/

theorem run_forIn_traceMessage (p : Path) (dirs : List Directory)
    (state : State) :
    ∃ log,
      (forIn dirs PUnit.unit fun dir _ => (do
        Build.log .debug (traceMessage p dir)
        pure (ForInStep.yield PUnit.unit) : Action (ForInStep PUnit))).run state
        = (.ok PUnit.unit, { state with log := log }) := by
  induction dirs generalizing state with
  | nil => exact ⟨state.log, rfl⟩
  | cons dir rest ih =>
      rw [List.forIn_cons]
      rcases ih
        { state with log := state.log ++ [⟨.debug, traceMessage p dir⟩] } with
        ⟨log, hrest⟩
      exact ⟨log, hrest⟩

theorem run_emitPath (p : Path) (state : State) :
    ∃ log, (build.emitPath p).run state
      = (.ok (build.layout.emitPath p), { state with log := log }) := by
  unfold emitPath
  split
  · rcases run_forIn_traceMessage p build.layout.rootDirs state with ⟨log, hlog⟩
    rw [run_bind, hlog]
    exact ⟨log, rfl⟩
  · exact ⟨state.log, rfl⟩

/-- The path at which a module is written. -/
def placeOf (module : GeneratedModule) : Path :=
  build.layout.emitPath module.moduleUrl

/-- The attempt at a module, by how it ended. -/
def attempted (module : GeneratedModule) (result : Except IoError Unit) :
    WriteAttempt where
  path := build.placeOf module
  content := preamble ++ module.source
  dependencies := ((build.program.find? module.fileUrl).map (·.path)).toList
  fault? := match result with
    | .ok _ => none
    | .error fault => some fault

/-- The files of a tree with a module among them. -/
def storeModule (files : List (Path × ByteArray)) (module : GeneratedModule) :
    List (Path × ByteArray) :=
  insert (build.placeOf module) (preamble ++ module.source).toUTF8 files

theorem run_emitModule (module : GeneratedModule) (state : State) :
    let outcome :=
      writeGenerated state.files.fs (build.placeOf module)
        (preamble ++ module.source)
    ∃ log, (build.emitModule module).run state
      = (.ok (build.attempted module outcome.1),
        { state with
          files := { state.files with fs := outcome.2 }, log := log }) := by
  rcases build.run_emitPath module.moduleUrl state with ⟨log, hpath⟩
  refine ⟨log, ?_⟩
  unfold emitModule
  rw [run_bind, hpath]
  rfl

variable {state : State} {tree : MemoryTree}

theorem emitModule_inMemory (module : GeneratedModule)
    (hfs : state.files.fs = .inMemory tree)
    (hcase : tree.caseSensitive = true) :
    ∃ after folders,
      ((build.emitModule module).run state
        = (.ok (build.attempted module (.ok ())), after) ∧
        after.files.fs = .inMemory { tree with
          files := build.storeModule tree.files module, folders := folders }) ∨
      ∃ cause,
        (writeGenerated (.inMemory tree) (build.placeOf module)
          (preamble ++ module.source)).1
          = .error cause ∧
        (build.emitModule module).run state
          = (.ok (build.attempted module (.error cause)), after) ∧
        after.files.fs = .inMemory { tree with folders := folders } := by
  rcases build.run_emitModule module state with ⟨log, hrun⟩
  have hplace : IsNormal (build.placeOf module) :=
    build.layout.isNormal_emitPath module.moduleUrl
  rcases writeGenerated_inMemory hcase hplace (preamble ++ module.source) with
    ⟨folders, hwrite⟩
  rw [hfs] at hrun
  cases hwrite with
  | inl hstored =>
      rw [hstored] at hrun
      exact ⟨_, folders, .inl ⟨hrun, rfl⟩⟩
  | inr hfailed =>
      rcases hfailed with ⟨cause, hcause⟩
      rw [hcause] at hrun
      exact ⟨_, folders, .inr ⟨cause, congrArg Prod.fst hcause, hrun, rfl⟩⟩

/-! ## Writing modules -/

/-- Modules are written up to the first that cannot be written, and that one is
reported. -/
theorem run_emitModules (modules : List GeneratedModule)
    (hfs : state.files.fs = .inMemory tree)
    (hcase : tree.caseSensitive = true) :
    ∃ writes after before folders,
      (build.emitModules modules).run state = (.ok writes, after) ∧
      after.files.fs = .inMemory { tree with
        files := before.foldl build.storeModule tree.files,
        folders := folders } ∧
      (writes.filter (·.fault?.isNone)).map (·.path)
        = before.map build.placeOf ∧
      ((modules = before ∧ Generation.writeFault? writes = none) ∨
        ∃ module later made cause,
          modules = before ++ module :: later ∧
          (writeGenerated (.inMemory { tree with
              files := before.foldl build.storeModule tree.files,
              folders := made })
            (build.placeOf module) (preamble ++ module.source)).1
              = .error cause ∧
          Generation.writeFault? writes
            = some (.emit (build.placeOf module) cause)) := by
  induction modules generalizing state tree with
  | nil => exact ⟨[], state, [], tree.folders, rfl, hfs, rfl, .inl ⟨rfl, rfl⟩⟩
  | cons module rest ih =>
      rcases build.emitModule_inMemory module hfs hcase with
        ⟨next, folders, hnext⟩
      cases hnext with
      | inr hfailed =>
          rcases hfailed with ⟨cause, hcause, hrun, hafter⟩
          refine ⟨[build.attempted module (.error cause)], next, [], folders,
            ?_, hafter, rfl,
            .inr ⟨module, rest, tree.folders, cause, rfl, hcause, rfl⟩⟩
          rw [emitModules, run_bind, hrun]
          rfl
      | inl hstored =>
          rcases hstored with ⟨hrun, hnext⟩
          rcases ih hnext hcase with
            ⟨writes, after, before, folders, hwrites, hafter, hreported, hend⟩
          refine ⟨build.attempted module (.ok ()) :: writes, after,
            module :: before, folders, ?_, hafter,
            congrArg (build.placeOf module :: ·) hreported, ?_⟩
          · rw [emitModules, run_bind, hrun]
            show (build.emitModules rest >>= fun writes =>
              (pure (build.attempted module (.ok ()) :: writes) : Action
                (List WriteAttempt))).run next = _
            rw [run_bind, hwrites]
            rfl
          · rcases hend with
              ⟨rfl, hnone⟩ | ⟨failed, later, made, cause, rfl, hcause, hsome⟩
            · exact .inl ⟨rfl, hnone⟩
            · exact .inr ⟨failed, later, made, cause, rfl, hcause, hsome⟩

/-! ## Files that are stored -/

theorem lookup_foldl_storeModule {p : Path} {modules : List GeneratedModule}
    (files : List (Path × ByteArray))
    (h : ∀ module ∈ modules, build.placeOf module ≠ p) :
    (modules.foldl build.storeModule files).lookup p = files.lookup p := by
  induction modules generalizing files with
  | nil => rfl
  | cons module rest ih =>
      rw [List.foldl_cons,
        ih _ fun other hother => h other (List.mem_cons_of_mem _ hother),
        storeModule, lookup_insert,
        if_neg (Ne.symm (h module List.mem_cons_self))]

theorem lookup_foldl_storeModule_placeOf (files : List (Path × ByteArray))
    (before later : List GeneratedModule) (module : GeneratedModule)
    (h : ∀ other ∈ later, build.placeOf other ≠ build.placeOf module) :
    ((before ++ module :: later).foldl build.storeModule files).lookup
    (build.placeOf module)
      = some (preamble ++ module.source).toUTF8 := by
  rw [List.foldl_append, List.foldl_cons, build.lookup_foldl_storeModule _ h,
    storeModule, lookup_insert, if_pos rfl]

theorem read_placeOf {files : List (Path × ByteArray)}
    {before later : List GeneratedModule} {module : GeneratedModule}
    {after : MemoryTree} (hcase : after.caseSensitive = true)
    (hfiles : after.files
      = (before ++ module :: later).foldl build.storeModule files)
    (h : ∀ other ∈ later, build.placeOf other ≠ build.placeOf module) :
    after.read (build.placeOf module) = .ok (preamble ++ module.source) := by
  have hnormal : IsNormal (build.placeOf module) :=
    build.layout.isNormal_emitPath module.moduleUrl
  apply MemoryTree.read_of_stored?
  rw [MemoryTree.stored?, MemoryTree.key_of_isNormal hcase hnormal, hfiles]
  exact build.lookup_foldl_storeModule_placeOf files before later module h

theorem exists_last_placeOf {p : Path} {modules : List GeneratedModule}
    (h : p ∈ modules.map build.placeOf) :
    ∃ before module later, modules = before ++ module :: later ∧
      build.placeOf module = p ∧
      ∀ other ∈ later, build.placeOf other ≠ p := by
  induction modules with
  | nil => cases h
  | cons first rest ih =>
      by_cases hrest : p ∈ rest.map build.placeOf
      · rcases ih hrest with ⟨before, module, later, rfl, hplace, hlater⟩
        exact ⟨first :: before, module, later, rfl, hplace, hlater⟩
      · have hfirst : p = build.placeOf first :=
          (List.mem_cons.1 h).resolve_right hrest
        refine ⟨[], first, rest, rfl, hfirst.symm, ?_⟩
        intro other hother heq
        exact hrest (List.mem_map.2 ⟨other, hother, heq⟩)

theorem stored?_of_not_contains_genDir {modules : List GeneratedModule}
    {after : MemoryTree} {p : Path} (hcase : tree.caseSensitive = true)
    (hafter : after.caseSensitive = true)
    (hfiles : after.files = modules.foldl build.storeModule tree.files)
    (hp : ¬ Contains build.layout.genDir.path p) :
    after.stored? p = tree.stored? p := by
  have hplace : ∀ module ∈ modules, build.placeOf module ≠ p.normalize := by
    intro module _ heq
    have hcontains : Contains build.layout.genDir.path (build.placeOf module) :=
      build.layout.contains_genDir_emitPath module.moduleUrl
    rw [heq, Contains, view_normalize] at hcontains
    exact hp hcontains
  rw [MemoryTree.stored?, MemoryTree.stored?,
    MemoryTree.key_of_caseSensitive hcase,
    MemoryTree.key_of_caseSensitive hafter, hfiles]
  exact build.lookup_foldl_storeModule tree.files hplace

/-! ## Generating code -/

/-- The modules that the compiler makes of the symbols of the program. -/
def compiledModules (compiler : TemplateCompiler) (catalog : Option String) :
    Action (List GeneratedModule) := do
  compiler (← build.programSymbols) catalog

variable {build} {compiler : TemplateCompiler} {catalog : Option String}

theorem keepsFiles_compiledModules (build : Build)
    (h : ∀ symbols, KeepsFiles (compiler symbols catalog)) :
    KeepsFiles (build.compiledModules compiler catalog) :=
  build.keepsFiles_programSymbols.bind h

theorem run_bind_outcome {α β : Type} (action : Action α)
    (next : Except HostError α → StateM State β) (state : State) :
    (action.run >>= next).run state
      = (next (action.run state).1).run (action.run state).2 :=
  rfl

theorem run_generate (build : Build) (compiler : TemplateCompiler)
    (catalog : Option String) (state : State) :
    ∃ compiled, (build.generate compiler catalog).run state
      = match (build.compiledModules compiler catalog).run state with
        | (.error fault, after) => (⟨compiled, [], some fault⟩, after)
        | (.ok modules, after) =>
          match (build.emitModules modules).run after with
          | (.error fault, after) => (⟨compiled, [], some fault⟩, after)
          | (.ok writes, after) =>
              (⟨compiled, writes, Generation.writeFault? writes⟩, after) := by
  unfold generate compiledModules
  rw [run_bind_outcome, run_bind]
  rcases build.programSymbols.run state with ⟨found, middle⟩
  cases found with
  | error fault => exact ⟨none, rfl⟩
  | ok symbols =>
      refine ⟨some (symbols, catalog), ?_⟩
      dsimp only
      rw [run_bind_outcome]
      rcases (compiler symbols catalog).run middle with ⟨made, after⟩
      cases made with
      | error fault => rfl
      | ok modules =>
          dsimp only
          rw [run_bind_outcome]
          rcases (build.emitModules modules).run after with ⟨outcome, last⟩
          cases outcome with
          | error fault => rfl
          | ok writes => rfl

/-- What a generation leaves: the files of the tree with the modules up to the
first that could not be written. -/
theorem run_generate_inMemory (build : Build) (compiler : TemplateCompiler)
    (catalog : Option String) {state : State} {tree : MemoryTree}
    (hcompiler : ∀ symbols, KeepsFiles (compiler symbols catalog))
    (hfs : state.files.fs = .inMemory tree)
    (hcase : tree.caseSensitive = true) :
    let generation := ((build.generate compiler catalog).run state).1
    ∃ before folders reads,
      ((build.generate compiler catalog).run state).2.files.fs
        = .inMemory { tree with
        files := before.foldl build.storeModule tree.files, folders := folders,
        reads := reads } ∧
      generation.emitted = before.map build.placeOf ∧
      match ((build.compiledModules compiler catalog).run state).1 with
      | .error cause => before = [] ∧ generation.fault? = some cause
      | .ok modules =>
        (modules = before ∧ generation.fault? = none) ∨
          ∃ module later made cause,
            modules = before ++ module :: later ∧
            (writeGenerated (.inMemory { tree with
                files := before.foldl build.storeModule tree.files, folders :=
                  made, reads := reads })
              (build.placeOf module) (preamble ++ module.source)).1
                = .error cause ∧
            generation.fault? = some (.emit (build.placeOf module) cause) := by
  have hkept := build.keepsFiles_compiledModules hcompiler state
  rcases hcompiled : (build.compiledModules compiler catalog).run state with
    ⟨result, middle⟩
  rw [hcompiled, hfs] at hkept
  rcases FileSystem.exists_reads_of_withoutCounts_eq hkept with ⟨reads, hmiddle⟩
  rcases build.run_generate compiler catalog state with ⟨compiled, hgenerate⟩
  rw [hcompiled] at hgenerate
  cases result with
  | error cause =>
      rw [hgenerate]
      exact ⟨[], tree.folders, reads, hmiddle, rfl, rfl, rfl⟩
  | ok modules =>
      rcases build.run_emitModules modules hmiddle hcase with
        ⟨writes, last, before, folders, hrun, hlast, hemitted, hend⟩
      dsimp only at hgenerate
      rw [hrun] at hgenerate
      rw [hgenerate]
      exact ⟨before, folders, reads, hlast, hemitted, hend⟩

/-- Whatever paths the compiler gives its modules, only files in the directory
of generated files change.  When the generation succeeds, the places of all
modules are reported, and each of them holds the last module that was written
there; when it fails, a module that cannot be written is named, and exactly the
modules before it are stored. -/
theorem generate_writes_into_genDir (build : Build)
    (compiler : TemplateCompiler) (catalog : Option String) {state : State}
    {tree : MemoryTree}
    (hcompiler : ∀ symbols, KeepsFiles (compiler symbols catalog))
    (hfs : state.files.fs = .inMemory tree)
    (hcase : tree.caseSensitive = true) :
    let compiled := ((build.compiledModules compiler catalog).run state).1
    let generation := ((build.generate compiler catalog).run state).1
    ∃ after : MemoryTree,
      ((build.generate compiler catalog).run state).2.files.fs
        = .inMemory after ∧
      (∀ p, ¬ Contains build.layout.genDir.path p →
        after.stored? p = tree.stored? p) ∧
      (∀ cause, compiled = .error cause →
        generation.fault? = some cause ∧ generation.emitted = [] ∧
          after.files = tree.files) ∧
      ∀ modules, compiled = .ok modules →
        (generation.fault? = none →
          generation.emitted = modules.map build.placeOf ∧
            ∀ p ∈ generation.emitted, ∃ before module later,
              modules = before ++ module :: later ∧ build.placeOf module = p ∧
              (∀ other ∈ later, build.placeOf other ≠ p) ∧
              after.read p = .ok (preamble ++ module.source)) ∧
        ∀ fault, generation.fault? = some fault →
          ∃ before module later made cause,
            modules = before ++ module :: later ∧
            fault = .emit (build.placeOf module) cause ∧
            (writeGenerated (.inMemory { after with folders := made })
                (build.placeOf module) (preamble ++ module.source)).1
              = .error cause ∧
            generation.emitted = before.map build.placeOf ∧
            after.files = before.foldl build.storeModule tree.files := by
  intro compiled generation
  rcases build.run_generate_inMemory compiler catalog hcompiler hfs hcase with
    ⟨before, folders, reads, hafter, hemitted, hend⟩
  let after : MemoryTree := { tree with
    files := before.foldl build.storeModule tree.files,
    folders := folders, reads := reads }
  have hafterCase : after.caseSensitive = true := hcase
  refine ⟨after, hafter, ?_, ?_, ?_⟩
  · intro p hp
    exact build.stored?_of_not_contains_genDir hcase hafterCase rfl hp
  · intro cause hcause
    rw [show ((build.compiledModules compiler catalog).run state).1
      = _ from hcause] at hend
    rcases hend with ⟨rfl, hfault⟩
    exact ⟨hfault, hemitted, rfl⟩
  · intro modules hmodules
    rw [show ((build.compiledModules compiler catalog).run state).1
      = _ from hmodules] at hend
    rcases hend with
      ⟨rfl, hnone⟩ | ⟨module, later, made, cause, hsplit, hcause, hsome⟩
    · refine ⟨fun _ => ⟨hemitted, ?_⟩, fun fault hfault => ?_⟩
      · intro p hp
        have hplace : p ∈ modules.map build.placeOf := hemitted ▸ hp
        rcases build.exists_last_placeOf hplace with
          ⟨before, module, later, rfl, rfl, hlater⟩
        exact ⟨before, module, later, rfl, rfl, hlater,
          build.read_placeOf hafterCase rfl hlater⟩
      · rw [hnone] at hfault
        cases hfault
    · refine ⟨fun hnone => ?_, fun fault hfault => ?_⟩
      · rw [hsome] at hnone
        cases hnone
      · rw [hsome] at hfault
        cases hfault
        exact ⟨before, module, later, made, cause, hsplit, rfl, hcause,
          hemitted, rfl⟩

/-- Modules whose paths climb out of the sources. -/
def strayModules : List GeneratedModule :=
  [⟨"/p/a.ts".toList, "../x.ts".toList, "first"⟩,
    ⟨"/p/a.ts".toList, "/p/../../x.ts".toList, "second"⟩]

/-- A tree that holds a file where those paths lead. -/
def strayTree : MemoryTree :=
  (MemoryTree.empty true).addFile "/x.ts".toList "kept".toUTF8

/-- The build of no source files. -/
def emptyBuild : Build :=
  outsideBuild .empty fun _ => none

theorem generate_writes_into_genDir_strayModules :
    ∃ after : MemoryTree,
      ((emptyBuild.generate (TemplateCompiler.fixed strayModules) none).run
        (.start (.inMemory strayTree))).2.files.fs = .inMemory after ∧
      after.stored? "/x.ts".toList = strayTree.stored? "/x.ts".toList ∧
      ((emptyBuild.generate (TemplateCompiler.fixed strayModules) none).run
        (.start (.inMemory strayTree))).1.emitted
          = ["/g/x.ts".toList, "/g/x.ts".toList] := by
  have hcompiler : ∀ symbols,
      KeepsFiles (TemplateCompiler.fixed strayModules symbols none) :=
    fun symbols => TemplateCompiler.keepsFiles_fixed strayModules symbols none
  have hfs : (State.start (.inMemory strayTree)).files.fs
      = .inMemory strayTree := rfl
  have hfault :
      ((emptyBuild.generate (TemplateCompiler.fixed strayModules) none).run
        (.start (.inMemory strayTree))).1.fault?.isNone = true := by
    decide
  have hplaces : strayModules.map emptyBuild.placeOf
      = ["/g/x.ts".toList, "/g/x.ts".toList] := by
    decide
  rcases generate_writes_into_genDir emptyBuild
    (TemplateCompiler.fixed strayModules) none hcompiler hfs rfl with
    ⟨after, hafter, houtside, -, hend⟩
  have hsuccess :=
    (hend strayModules rfl).1 (Option.isNone_iff_eq_none.1 hfault)
  exact ⟨after, hafter, houtside _ (by decide), hsuccess.1.trans hplaces⟩

/-- A module whose folder cannot be made ends the writing; the module before it
stays. -/
example :
    let tree := strayTree.addFile "/g/d".toList "".toUTF8
    let modules : List GeneratedModule :=
      [⟨"/p/a.ts".toList, "/p/a.ts".toList, ""⟩,
        ⟨"/p/d/x.ts".toList, "/p/d/x.ts".toList, ""⟩]
    let generation :=
      ((emptyBuild.generate (TemplateCompiler.fixed modules) none).run
        (.start (.inMemory tree))).1
    generation.emitted = ["/g/a.ts".toList] ∧
      generation.fault?.map (·.message)
        = some (HostError.emit "/g/d/x.ts".toList .folderIsFile).message := by
  decide

end Build
end BuildHost
