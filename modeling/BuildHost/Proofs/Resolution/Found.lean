import BuildHost.Proofs.Build.Action
import BuildHost.Proofs.Build.Session
import BuildHost.Proofs.Path.Name
import BuildHost.Proofs.Resolution.Node
import BuildHost.Proofs.Results

/-!
# Files that are found

However a specifier, a containing file or a manifest is spelled, the places that
are tried are paths in normal form (`isNormal_of_mem_places`), and a file is
found at such a place, by a name that the host was asked for
(`exists_place_of_resolver`).  So what a build finds is a source file in normal
form that is on disk, planned, or stood in for by a summary (`resolve_found`).
-/

namespace BuildHost
namespace NodeResolution

open BuildHost.Path

variable {host : ResolutionHost} {roots : List Path}
  {candidate place file : Path}

/-! ## Places -/

theorem isNormal_of_mem_mergedPlaces (hcandidate : IsNormal candidate)
    (h : place ∈ mergedPlaces roots candidate) : IsNormal place := by
  rw [mergedPlaces] at h
  cases List.mem_cons.1 h with
  | inl heq =>
      rw [heq]
      exact hcandidate
  | inr hothers =>
      cases howner : ownerOf roots candidate with
      | none =>
          rw [howner] at hothers
          cases hothers
      | some owner =>
          rw [howner] at hothers
          rcases List.mem_map.1 hothers with ⟨root, -, heq⟩
          rw [← heq]
          exact isNormal_join _ _

theorem isNormal_of_mem_places {specifier containing : Path}
    (h : place ∈ places roots host specifier containing) : IsNormal place := by
  unfold places at h
  split at h
  · exact isNormal_of_mem_mergedPlaces (normalize_normalize specifier) h
  · split at h
    · exact isNormal_of_mem_mergedPlaces (isNormal_join _ _) h
    · rcases List.mem_map.1 h with ⟨folder, -, heq⟩
      rw [← heq]
      exact isNormal_join _ _

/-! ## Names that a host is asked for -/

theorem isPlain_of_mem_extensions {ending : Path} (hmem : ending ∈ extensions) :
    IsPlain ending ∧ 2 < ending.length := by
  have hplain : ∀ ending ∈ extensions, IsPlain ending ∧ 2 < ending.length := by
    decide
  exact hplain ending hmem

/-- The names by which files are looked for at a place. -/
inductive IsAsked (place : Path) : Path → Prop where
  /-- The place itself, when it ends like a source file. -/
  | itself {ending : Path} (hmem : ending ∈ extensions)
      (hending : ending <:+ place) :
      IsAsked place place
  | ended {ending : Path} (hmem : ending ∈ extensions) :
      IsAsked place (place ++ ending)

theorem IsAsked.isNormal (h : IsAsked place file) (hplace : IsNormal place)
    (hr : isRooted file = true) : IsNormal file := by
  cases h with
  | itself => exact hplace
  | ended hmem =>
      have hending := isPlain_of_mem_extensions hmem
      have hspelled : ∀ ending ∈ extensions,
          separator ∉ normalizeSeparators ending := by
        decide
      have hrooted := isRooted_of_isRooted_append (hspelled _ hmem) hr
      exact isNormal_append_ending hplace hrooted hending.1 hending.2

theorem IsAsked.ends (h : IsAsked place file) :
    ".ts".toList <:+ file ∨ ".tsx".toList <:+ file := by
  have hends : ∀ ending ∈ extensions, ".ts".toList <:+ ending ∨
      ".tsx".toList <:+ ending := by
    decide
  cases h with
  | itself hmem hending =>
      exact (hends _ hmem).imp (fun hts => hts.trans hending) fun htsx =>
        htsx.trans hending
  | ended hmem =>
      have hending := List.suffix_append place
      exact (hends _ hmem).imp (fun hts => hts.trans (hending _)) fun htsx =>
        htsx.trans (hending _)

/-! ## From an answer to a place -/

theorem isAsked_of_loadAsFile (h : loadAsFile host place = some file) :
    IsAsked place file ∧ host.fileExists file = true := by
  unfold loadAsFile at h
  split at h
  next hself =>
    rw [Bool.and_eq_true, List.any_eq_true] at hself
    rcases hself with ⟨⟨ending, hmem, hending⟩, hexists⟩
    rw [Option.some.injEq] at h
    subst h
    exact ⟨.itself hmem (List.isSuffixOf_iff_suffix.1 hending), hexists⟩
  next =>
    have hexists := List.find?_some h
    rcases List.mem_map.1 (List.mem_of_find?_eq_some h) with ⟨ending, hmem, heq⟩
    rw [← heq] at hexists ⊢
    exact ⟨.ended hmem, hexists⟩

/-- What is loaded for a place is found there, or at a place in the folder that
it names. -/
theorem exists_place_of_load (hcandidate : IsNormal candidate)
    (h : load host candidate = some file) :
    ∃ place, IsNormal place ∧ loadAsFile host place = some file := by
  rw [load, Option.orElse_eq_orElse, Option.orElse_eq_or,
    Option.or_eq_some_iff] at h
  cases h with
  | inl hfile => exact ⟨candidate, hcandidate, hfile⟩
  | inr hfolder =>
      have hload := hfolder.2
      unfold loadAsDirectory at hload
      split at hload
      next =>
        rw [Option.orElse_eq_orElse, Option.orElse_eq_or, Option.or_eq_some_iff]
          at hload
        cases hload with
        | inl hmanifest =>
            rcases Option.bind_eq_some_iff.1 hmanifest with ⟨text, -, hentry⟩
            rcases Option.bind_eq_some_iff.1 hentry with ⟨entry, -, hfile⟩
            exact ⟨candidate.join [entry.toList], isNormal_join _ _, hfile⟩
        | inr hindex =>
            exact ⟨candidate.join ["index".toList], isNormal_join _ _, hindex.2⟩
      next => cases hload

theorem exists_place_of_resolver {specifier containing : Path}
    (h : (resolver roots host specifier containing).target = some file) :
    ∃ place, IsNormal place ∧ loadAsFile host place = some file := by
  unfold resolver at h
  rw [target_resolveAmong] at h
  rcases List.exists_of_findSome?_eq_some h with ⟨candidate, hmem, hload⟩
  exact exists_place_of_load (isNormal_of_mem_places hmem) hload

end NodeResolution

namespace KnownFiles

variable {files : KnownFiles} {p : Path}

/-- A file exists for a resolver when it exists for the build or a summary
stands in for it. -/
theorem fileExists_resolutionHost_iff :
    files.resolutionHost.fileExists p = true ↔
      p.isRooted = true ∧ (files.fs.isFile p = true ∨ files.isPlanned p = true ∨
        ∃ stem, p = stem ++ declarationExtension ∧
          files.fs.isFile (stem ++ summaryExtension) = true) := by
  have hsummary : files.hasSummary p = true ↔
      ∃ stem, p = stem ++ declarationExtension ∧
      files.fs.isFile (stem ++ summaryExtension) = true := by
    unfold hasSummary replaceDeclarationSuffix?
    cases hstem : declarationExtension.isSuffixOf? p with
    | none =>
        constructor
        · intro h
          cases h
        · rintro ⟨stem, heq, -⟩
          rw [List.isSuffixOf?_eq_some_iff_append_eq.2 heq.symm] at hstem
          cases hstem
    | some stem =>
        rw [List.isSuffixOf?_eq_some_iff_append_eq] at hstem
        constructor
        · intro h
          exact ⟨stem, hstem.symm, h⟩
        · rintro ⟨other, heq, h⟩
          rw [← hstem] at heq
          rw [← List.append_cancel_right heq] at h
          exact h
  show (p.isRooted && (files.fileExists p || files.hasSummary p)) = true ↔ _
  rw [Bool.and_eq_true, Bool.or_eq_true, fileExists_iff, hsummary, or_assoc]

end KnownFiles

namespace Build

open BuildHost.Path NodeResolution

/-- The file that a specifier is resolved to is a source file in normal form,
and it is on disk, planned, or stood in for by a summary. -/
theorem resolve_found {build : Build} {roots : List Path}
    (hresolver : build.resolver = NodeResolution.resolver roots) {state : State}
    {specifier : Path} {containing : Option Path} {file : Path}
    (h : ((build.resolve specifier containing).run state).1 = .ok (some file)) :
    file.isRooted = true ∧ IsNormal file ∧
      (".ts".toList <:+ file ∨ ".tsx".toList <:+ file) ∧
      (state.files.fs.isFile file = true ∨ state.files.isPlanned file = true ∨
        ∃ stem, file = stem ++ declarationExtension ∧
          state.files.fs.isFile (stem ++ summaryExtension) = true) := by
  rw [answer_resolve, hresolver, Layout.resolve] at h
  cases hcontaining : build.layout.containingFile specifier containing with
  | error fault =>
      rw [hcontaining] at h
      cases h
  | ok containing =>
      rw [hcontaining] at h
      have htarget : (NodeResolution.resolver roots state.files.resolutionHost
          specifier.withoutExtension containing).target = some file :=
        Except.ok.inj h
      rcases exists_place_of_resolver htarget with ⟨place, hplace, hload⟩
      have hasked := isAsked_of_loadAsFile hload
      have hexists := KnownFiles.fileExists_resolutionHost_iff.1 hasked.2
      exact ⟨hexists.1, hasked.1.isNormal hplace hexists.1, hasked.1.ends,
        hexists.2⟩

/-- The index of a folder in which there is only its summary. -/
theorem resolve_found_summary :
    let build := outsideBuild .empty fun _ => none
    let summary : Path := "/p/lib/index.ngsummary.json".toList
    let state := State.start
      (.inMemory ((MemoryTree.empty true).addFile summary ByteArray.empty))
    let file : Path := "/p/lib/index.d.ts".toList
    ((build.resolve "./lib".toList (some "/p/a.ts".toList)).run state).1
      = .ok (some file) ∧
      file.isRooted = true ∧ IsNormal file ∧
      (".ts".toList <:+ file ∨ ".tsx".toList <:+ file) ∧
      (state.files.fs.isFile file = true ∨ state.files.isPlanned file = true ∨
        ∃ stem, file = stem ++ declarationExtension ∧
          state.files.fs.isFile (stem ++ summaryExtension) = true) := by
  intro build summary state file
  have hresolved : ((build.resolve "./lib".toList (some "/p/a.ts".toList)).run
      state).1 = .ok (some file) :=
    eq_ok_of_toOption_eq_some (by decide)
  exact ⟨hresolved, resolve_found rfl hresolved⟩

end Build
end BuildHost
