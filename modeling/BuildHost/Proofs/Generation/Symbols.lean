import BuildHost.Build.Factories
import BuildHost.Proofs.Metadata.Cache

/-!
# What comes before generated files

The symbols of a program are found without a change to any file: descriptions
are read and files are resolved, and readings are all that the file system sees
of it (`keepsFiles_programSymbols`).
-/

namespace BuildHost
namespace Build

/-- An action that leaves the file system as it was, but for the counts of
readings. -/
def KeepsFiles {α : Type} (action : Action α) : Prop :=
  ∀ state, (action.run state).2.files.fs.withoutCounts
    = state.files.fs.withoutCounts

variable {α β : Type} (build : Build)

theorem keepsFiles_pure (value : α) : KeepsFiles (pure value : Action α) :=
  fun _ => rfl

theorem keepsFiles_log (level : LogLevel) (message : String) :
    KeepsFiles (log level message) :=
  fun _ => rfl

theorem KeepsFiles.bind {action : Action α} {next : α → Action β}
    (h : KeepsFiles action) (hnext : ∀ value, KeepsFiles (next value)) :
    KeepsFiles (action >>= next) := by
  intro state
  have hkept := h state
  rw [run_bind]
  generalize action.run state = outcome at hkept ⊢
  rcases outcome with ⟨result, after⟩
  cases result with
  | error fault => exact hkept
  | ok value => exact (hnext value after).trans hkept

theorem keepsFiles_resolve (specifier : Path) (containing : Option Path) :
    KeepsFiles (build.resolve specifier containing) := by
  intro state
  rw [run_resolve]
  cases build.layout.resolve build.resolver state.files specifier
    containing with
  | error fault => rfl
  | ok resolution =>
      exact FileSystem.withoutCounts_foldl_countRead _ resolution.manifests

theorem keepsFiles_readMetadata (p declarationFile : Path) :
    KeepsFiles (build.readMetadata p declarationFile) := by
  intro state
  cases hkept : state.cache.lookup p with
  | some records => rw [run_readMetadata_of_lookup declarationFile hkept]
  | none =>
      rcases (build.readMetadata_of_lookup_eq_none declarationFile hkept).2 with
        ⟨paths, hpaths⟩
      rw [hpaths]
      exact FileSystem.withoutCounts_foldl_countRead _ (p :: paths)

theorem keepsFiles_metadataOf (p : Path) : KeepsFiles (build.metadataOf p) := by
  intro state
  cases hfile : build.describedBy? state.files p with
  | some metadataFile =>
      rw [run_metadataOf_of_describedBy? hfile]
      exact build.keepsFiles_readMetadata metadataFile p state
  | none =>
      rcases build.run_metadataOf hfile with ⟨after, hafter, hrun⟩
      rw [hrun]
      exact hafter.withoutCounts_eq

theorem keepsFiles_fileSymbols (p : Path) :
    KeepsFiles (build.fileSymbols p) := by
  unfold fileSymbols
  split
  · exact keepsFiles_pure []
  · apply (build.keepsFiles_metadataOf p).bind
    intro records
    cases records.bind newest? with
    | none => exact (keepsFiles_log _ _).bind fun _ => keepsFiles_pure []
    | some record =>
        exact (build.keepsFiles_resolve p (some p)).bind fun _ =>
          keepsFiles_pure _

theorem keepsFiles_symbolsOfFiles (paths : List Path) :
    KeepsFiles (build.symbolsOfFiles paths) := by
  induction paths with
  | nil => exact keepsFiles_pure []
  | cons p rest ih =>
      exact (build.keepsFiles_fileSymbols p).bind fun _ => ih.bind fun _ =>
        keepsFiles_pure _

theorem keepsFiles_programSymbols : KeepsFiles build.programSymbols :=
  build.keepsFiles_symbolsOfFiles _

/-! ## Template compilers -/

theorem keepsFiles_specifierOf (imported containing : Path) :
    KeepsFiles (build.specifierOf imported containing) := by
  intro state
  rw [run_specifierOf]
  show (state.files.importing imported).fs.withoutCounts = _
  unfold KnownFiles.importing KnownFiles.plan
  split
  · rfl
  · split
    · rfl
    · rfl

namespace TemplateCompiler

theorem keepsFiles_fixed (modules : List GeneratedModule)
    (symbols : List StaticSymbol) (catalog : Option String) :
    KeepsFiles (fixed modules symbols catalog) :=
  keepsFiles_pure modules

theorem keepsFiles_addFactory (modules : List GeneratedModule)
    (symbol : StaticSymbol) :
    KeepsFiles (addFactory build modules symbol) := by
  unfold addFactory
  dsimp only
  split
  · exact keepsFiles_pure _
  · exact (build.keepsFiles_specifierOf _ _).bind fun _ => keepsFiles_pure _

/-- A compiler that asks the build for specifiers changes no file. -/
theorem keepsFiles_factories (symbols : List StaticSymbol)
    (catalog : Option String) :
    KeepsFiles (factories build symbols catalog) := by
  have hfold : ∀ modules,
      KeepsFiles (symbols.foldlM (addFactory build) modules) := by
    induction symbols with
    | nil => exact fun modules => keepsFiles_pure modules
    | cons symbol rest ih =>
        intro modules
        rw [List.foldlM_cons]
        exact (keepsFiles_addFactory build modules symbol).bind ih
  exact hfold []

end TemplateCompiler
end Build
end BuildHost
