import BuildHost.Build.Metadata
import BuildHost.Proofs.FileSystem.Contents
import BuildHost.Proofs.Layout.Emission

/-!
# Running actions

An action that is followed by another one is run first, and a fault of it is the
fault of both (`run_bind`).  A source file is what the program or else the file
system holds, and a request for it leaves nothing behind but a count
(`run_sourceFile`).
-/

namespace BuildHost
namespace Build

theorem run_bind {α β : Type} (action : Action α) (next : α → Action β)
    (state : State) : (action >>= next).run state
      = match action.run state with
        | (.ok value, after) => (next value).run after
        | (.error fault, after) => (.error fault, after) := by
  show (match action.run state with
    | (result, after) => ExceptT.bindCont next result after) = _
  rcases action.run state with ⟨result, after⟩
  cases result with
  | error fault => rfl
  | ok value => rfl

/-- The answer of an action that ends with a pure step. -/
theorem answer_map {α β : Type} (action : Action α) (f : α → β)
    (state : State) :
    ((action >>= fun value => pure (f value)).run state).1
      = (action.run state).1.map f := by
  rw [run_bind]
  rcases action.run state with ⟨result, after⟩
  cases result with
  | error fault => rfl
  | ok value => rfl

/-! ## Reading -/

/-- The state after a reading of the file under the path. -/
def State.afterReading (state : State) (p : Path) : State :=
  { state with files := state.files.countReads [p] }

/-- A state that differs from an earlier one at most in what was read and logged
since. -/
structure State.OnlyReads (before after : State) : Prop where
  cache_eq : after.cache = before.cache
  exists_files_eq : ∃ paths, after.files = before.files.countReads paths

namespace State.OnlyReads

theorem refl (state : State) : state.OnlyReads state :=
  ⟨rfl, [], rfl⟩

theorem withoutCounts_eq {before after : State} (h : before.OnlyReads after) :
    after.files.fs.withoutCounts = before.files.fs.withoutCounts := by
  rcases h.exists_files_eq with ⟨paths, hpaths⟩
  rw [hpaths]
  exact FileSystem.withoutCounts_foldl_countRead _ paths

theorem sameContents {before after : State} (h : before.OnlyReads after) :
    before.files.fs.SameContents after.files.fs :=
  FileSystem.sameContents_of_withoutCounts_eq h.withoutCounts_eq

end State.OnlyReads

theorem State.onlyReads_afterReading (state : State) (p : Path) :
    state.OnlyReads (state.afterReading p) :=
  ⟨rfl, [p], rfl⟩

theorem run_fileText (p : Path) (state : State) :
    (fileText p).run state
      = ((state.files.fs.read p).mapError (HostError.io p),
        state.afterReading p) := by
  unfold fileText
  rw [run_bind]
  show (modifyFiles (·.countReads [p]) >>= _ : Action String).run state = _
  rw [run_bind]
  show (_ : Action String).run (state.afterReading p) = _
  cases state.files.fs.read p with
  | error fault => rfl
  | ok text => rfl

/-! ## Source files -/

/-- A source file, from the program or else from the file system. -/
def heldSource (build : Build) (fs : FileSystem) (p : Path) :
    Except HostError SourceFile :=
  match build.program.find? p with
  | some file => .ok file
  | none =>
    if fs.isFile p then ((fs.read p).mapError (HostError.io p)).map fun text =>
      ⟨p, text⟩
    else .error (.sourceFileNotFound p)

theorem heldSource_congr {build : Build} {fs other : FileSystem}
    (h : fs.SameContents other) (p : Path) :
    build.heldSource other p = build.heldSource fs p := by
  rw [heldSource, heldSource, h.isFile_eq, h.read_eq]

theorem run_sourceFile (build : Build) (p : Path) (state : State) :
    ∃ after,
      (build.sourceFile p).run state = (build.heldSource state.files.fs p,
        after) ∧
      state.OnlyReads after := by
  unfold sourceFile heldSource
  cases build.program.find? p with
  | some file => exact ⟨state, rfl, .refl state⟩
  | none =>
      rw [run_bind]
      show ∃ after, (if state.files.fs.isFile p then
        (fileText p >>= fun text => (pure ⟨p, text⟩ : Action SourceFile))
        else throw (.sourceFileNotFound p)).run state = _ ∧ _
      by_cases hfile : state.files.fs.isFile p = true
      · simp only [if_pos hfile]
        refine ⟨state.afterReading p, ?_, state.onlyReads_afterReading p⟩
        rw [run_bind, run_fileText]
        cases state.files.fs.read p with
        | error fault => rfl
        | ok text => rfl
      · simp only [if_neg hfile]
        exact ⟨state, rfl, .refl state⟩

/-- A build that puts generated files beside the sources. -/
def outsideBuild (program : Program) (collector : MetadataCollector) :
    Build where
  options :=
    { basePath := Layout.projectDir.path
      genDir := Layout.outsideDir.path
      generateForLibraries := false }
  layout := Layout.outsideLayout []
  program := program
  resolver := NodeResolution.resolver []
  collector := collector

end Build
end BuildHost
