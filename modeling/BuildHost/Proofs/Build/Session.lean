import BuildHost.Build.Basic
import BuildHost.Proofs.FileSystem.Contents

/-!
# Sessions of specifier queries

A build is asked for specifiers and for the files that specifiers name, in any
order.  A query may plan an output and count readings; no query takes a planned
output back, and none changes what the file system holds (`grows_afterQuery`).
So whatever existed before a session of queries exists after it
(`grows_afterQueries`), and the planned outputs after it are those before it and
those that a query asked for where no file is (`isPlanned_afterQueries_iff`).
-/

namespace BuildHost
namespace KnownFiles

/-- What later files of one build have kept of earlier ones. -/
structure Grows (before after : KnownFiles) : Prop where
  contents : before.fs.SameContents after.fs
  planned_subset : before.planned ⊆ after.planned

theorem Grows.refl (files : KnownFiles) : Grows files files :=
  ⟨.refl _, List.Subset.refl _⟩

theorem Grows.trans {before middle after : KnownFiles}
    (first : Grows before middle) (last : Grows middle after) :
    Grows before after :=
  ⟨first.contents.trans last.contents,
    List.Subset.trans first.planned_subset last.planned_subset⟩

theorem isPlanned_iff {files : KnownFiles} {p : Path} :
    files.isPlanned p = true ↔ p.normalize ∈ files.planned := by
  rw [isPlanned, List.contains_iff_mem]

theorem fileExists_iff {files : KnownFiles} {p : Path} :
    files.fileExists p = true ↔
      files.fs.isFile p = true ∨ files.isPlanned p = true := by
  unfold fileExists existence?
  cases files.fs.isFile p with
  | true => simp
  | false => simp

theorem importing_eq_self {files : KnownFiles} {p : Path}
    (h : files.fs.isFile p = true) :
    files.importing p = files := by
  rw [importing, if_pos (fileExists_iff.2 (.inl h))]

theorem fileExists_resolutionHost {files : KnownFiles} {p : Path}
    (hr : p.isRooted = true) (h : files.fileExists p = true) :
    files.resolutionHost.fileExists p = true := by
  show (p.isRooted && (files.fileExists p || files.hasSummary p)) = true
  rw [hr, h]
  rfl

/-! Which files exist is a matter of what the file system holds, not of what was
counted. -/

theorem existence?_congr {fs other : FileSystem} (h : fs.SameContents other)
    (planned : List Path) (p : Path) :
    existence? ⟨other, planned⟩ p = existence? ⟨fs, planned⟩ p := by
  unfold existence? isPlanned
  dsimp only
  rw [h.isFile_eq]

theorem fileExists_congr {fs other : FileSystem} (h : fs.SameContents other)
    (planned : List Path) :
    fileExists ⟨other, planned⟩ = fileExists ⟨fs, planned⟩ := by
  funext p
  rw [fileExists, fileExists, existence?_congr h]

theorem resolutionHost_congr {fs other : FileSystem} (h : fs.SameContents other)
    (planned : List Path) :
    resolutionHost ⟨other, planned⟩ = resolutionHost ⟨fs, planned⟩ := by
  have hsummary : ∀ p, hasSummary ⟨other, planned⟩ p
      = hasSummary ⟨fs, planned⟩ p := by
    intro p
    unfold hasSummary
    cases replaceDeclarationSuffix? p summaryExtension with
    | none => rfl
    | some summary => exact h.isFile_eq summary
  simp only [resolutionHost, fileExists_congr h, hsummary, h.isDirectory_eq,
    h.read_eq]

theorem Grows.fileExists {before after : KnownFiles} (h : Grows before after)
    {p : Path} (hp : before.fileExists p = true) :
    after.fileExists p = true := by
  rw [fileExists_iff] at hp ⊢
  cases hp with
  | inl hdisk =>
      left
      rw [h.contents.isFile_eq]
      exact hdisk
  | inr hplanned =>
      right
      rw [isPlanned_iff] at hplanned ⊢
      exact h.planned_subset hplanned

theorem grows_plan (files : KnownFiles) (p : Path) :
    Grows files (files.plan p) := by
  unfold plan
  split
  · exact .refl files
  · exact ⟨.refl _, List.subset_append_left _ _⟩

theorem isPlanned_plan_iff {files : KnownFiles} {p q : Path} :
    (files.plan p).isPlanned q = true ↔
      files.isPlanned q = true ∨ p.normalize = q.normalize := by
  unfold plan
  by_cases hplanned : files.isPlanned p = true
  · rw [if_pos hplanned]
    rw [isPlanned_iff] at hplanned ⊢
    constructor
    · exact .inl
    · rintro (hq | hname)
      · exact hq
      · rw [← hname]
        exact hplanned
  · rw [if_neg hplanned, isPlanned_iff, isPlanned_iff, List.mem_append,
      List.mem_singleton, eq_comm (a := p.normalize)]

theorem grows_importing (files : KnownFiles) (imported : Path) :
    Grows files (files.importing imported) := by
  unfold importing
  split
  · exact .refl files
  · exact grows_plan files imported

/-- A file that was imported exists, and be it only planned. -/
theorem fileExists_importing (files : KnownFiles) (imported : Path) :
    (files.importing imported).fileExists imported = true := by
  unfold importing
  split
  next hexists => exact hexists
  next =>
    rw [fileExists_iff]
    exact .inr (isPlanned_plan_iff.2 (.inr rfl))

theorem isPlanned_importing_iff {files : KnownFiles} {imported p : Path} :
    (files.importing imported).isPlanned p = true ↔
      files.isPlanned p = true ∨
        files.fs.isFile imported = false ∧
          imported.normalize = p.normalize := by
  unfold importing
  by_cases hexists : files.fileExists imported = true
  · rw [if_pos hexists]
    rw [fileExists_iff] at hexists
    constructor
    · exact .inl
    · rintro (hp | ⟨hfile, hname⟩)
      · exact hp
      · rw [isPlanned_iff] at hexists ⊢
        rw [← hname]
        exact hexists.resolve_left (by rw [hfile]; exact Bool.false_ne_true)
  · rw [if_neg hexists, isPlanned_plan_iff]
    rw [fileExists_iff, not_or, Bool.not_eq_true] at hexists
    rw [and_iff_right hexists.1]

theorem grows_countReads (files : KnownFiles) (paths : List Path) :
    Grows files (files.countReads paths) :=
  ⟨FileSystem.sameContents_foldl_countRead files.fs paths, List.Subset.refl _⟩

end KnownFiles

namespace Build

inductive SpecifierQuery where
  /-- By which specifier a generated file imports another file. -/
  | specifier (imported containing : Path)
  /-- Which file a specifier names. -/
  | target (specifier : Path) (containing : Option Path)

variable (build : Build) (state : State)

theorem run_specifierOf (imported containing : Path) :
    (build.specifierOf imported containing).run state
      = (.ok (build.layout.specifierOf imported containing),
        { state with files := state.files.importing imported }) :=
  rfl

theorem run_resolve (specifier : Path) (containing : Option Path) :
    (build.resolve specifier containing).run state
      = match build.layout.resolve build.resolver state.files specifier
        containing with
        | .error fault => (.error fault, state)
        | .ok resolution =>
          (.ok resolution.target,
            { state with files := state.files.countReads resolution.manifests
              }) := by
  show (match build.layout.resolve build.resolver state.files specifier
    containing with
    | .error fault => (throw fault : Action (Option Path))
    | .ok resolution => do
      modifyFiles (·.countReads resolution.manifests)
      return resolution.target) state = _
  cases build.layout.resolve build.resolver state.files specifier
    containing with
  | error fault => rfl
  | ok resolution => rfl

theorem answer_resolve (specifier : Path) (containing : Option Path) :
    ((build.resolve specifier containing).run state).1
      = (build.layout.resolve build.resolver state.files specifier
        containing).map (·.target) := by
  rw [run_resolve]
  cases build.layout.resolve build.resolver state.files specifier
    containing with
  | error fault => rfl
  | ok resolution => rfl

/-- The state that a query leaves, whether it is answered or fails. -/
def afterQuery : SpecifierQuery → State
  | .specifier imported containing =>
    ((build.specifierOf imported containing).run state).2
  | .target specifier containing =>
    ((build.resolve specifier containing).run state).2

def afterQueries (queries : List SpecifierQuery) : State :=
  queries.foldl build.afterQuery state

theorem grows_afterQuery (query : SpecifierQuery) :
    state.files.Grows (build.afterQuery state query).files := by
  cases query with
  | specifier imported containing => exact state.files.grows_importing imported
  | target specifier containing =>
      show state.files.Grows
        ((build.resolve specifier containing).run state).2.files
      rw [run_resolve]
      cases build.layout.resolve build.resolver state.files specifier
        containing with
      | error fault => exact .refl _
      | ok resolution => exact state.files.grows_countReads resolution.manifests

theorem grows_afterQueries (queries : List SpecifierQuery) :
    state.files.Grows (build.afterQueries state queries).files := by
  induction queries generalizing state with
  | nil => exact .refl _
  | cons query rest ih =>
      exact (build.grows_afterQuery state query).trans
        (ih (build.afterQuery state query))

/-- Whether the query asks to import a path where no file is, so that an output
is planned there. -/
def SpecifierQuery.Plans (fs : FileSystem) (p : Path) : SpecifierQuery → Prop
  | .specifier imported _ => fs.isFile imported = false ∧
    imported.normalize = p.normalize
  | .target _ _ => False

theorem planned_afterQuery_target (specifier : Path)
    (containing : Option Path) :
    (build.afterQuery state (.target specifier containing)).files.planned
      = state.files.planned := by
  show ((build.resolve specifier containing).run state).2.files.planned = _
  rw [run_resolve]
  cases build.layout.resolve build.resolver state.files specifier
    containing with
  | error fault => rfl
  | ok resolution => rfl

theorem isPlanned_afterQuery_iff {query : SpecifierQuery} {p : Path} :
    (build.afterQuery state query).files.isPlanned p = true ↔
      state.files.isPlanned p = true ∨ query.Plans state.files.fs p := by
  cases query with
  | specifier imported containing => exact KnownFiles.isPlanned_importing_iff
  | target specifier containing =>
      rw [KnownFiles.isPlanned_iff, planned_afterQuery_target,
        ← KnownFiles.isPlanned_iff]
      exact (or_iff_left (fun h => h)).symm

theorem SpecifierQuery.plans_congr {fs other : FileSystem}
    (h : fs.SameContents other) {p : Path} {query : SpecifierQuery} :
    query.Plans other p ↔ query.Plans fs p := by
  cases query with
  | specifier imported containing => rw [Plans, Plans, h.isFile_eq]
  | target specifier containing => exact Iff.rfl

theorem isPlanned_afterQueries_iff {queries : List SpecifierQuery} {p : Path} :
    (build.afterQueries state queries).files.isPlanned p = true ↔
      state.files.isPlanned p = true ∨ ∃ query ∈ queries,
        query.Plans state.files.fs p := by
  induction queries generalizing state with
  | nil => exact (or_iff_left (by simp)).symm
  | cons query rest ih =>
      show (build.afterQueries (build.afterQuery state query)
        rest).files.isPlanned p = true ↔ _
      have hplans : ∀ other : SpecifierQuery,
          other.Plans (build.afterQuery state query).files.fs p ↔
            other.Plans state.files.fs p :=
        fun other =>
          SpecifierQuery.plans_congr
            (build.grows_afterQuery state query).contents
      rw [ih]
      simp only [hplans, isPlanned_afterQuery_iff, List.mem_cons, or_and_right,
        exists_or, exists_eq_left, or_assoc]

end Build
end BuildHost
