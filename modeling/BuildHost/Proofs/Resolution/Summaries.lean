import BuildHost.Proofs.FileSystem.Writing
import BuildHost.Proofs.Resolution.Found
import Mathlib.Data.List.Find
import Mathlib.Data.Set.Defs

/-!
# Summaries in place of declaration files

Resolution depends on the files only through what it asks: which folders there
are, what manifests say, and which names that end like source files exist
(`resolver_congr`).  A declaration file and its summary give the same answer
there, so that replacing the one by the other changes nothing that a specifier
leads to (`resolve_of_summarized`).
-/

namespace BuildHost
namespace NodeResolution

open BuildHost.Path

/-! ## What resolution depends on -/

/-- Two hosts that answer alike whatever resolution asks. -/
structure AnswersAlike (host other : ResolutionHost) : Prop where
  fileExists_eq : ∀ place file, IsNormal place → IsAsked place file →
    other.fileExists file = host.fileExists file
  directoryExists_eq : ∀ folder, other.directoryExists folder
    = host.directoryExists folder
  fileText_eq : ∀ folder, other.fileText (manifestOf folder)
    = host.fileText (manifestOf folder)

section Alike

variable {host other : ResolutionHost} {roots : List Path}
  {candidate place : Path} (h : AnswersAlike host other)

include h in
theorem loadAsFile_congr (hplace : IsNormal place) :
    loadAsFile other place = loadAsFile host place := by
  have hself : ((extensions.any fun ending => ending.isSuffixOf place) &&
      other.fileExists place)
      = ((extensions.any fun ending => ending.isSuffixOf place) &&
        host.fileExists place) := by
    cases hends : extensions.any fun ending => ending.isSuffixOf place with
    | false => rfl
    | true =>
        rcases List.any_eq_true.1 hends with ⟨ending, hmem, hending⟩
        rw [h.fileExists_eq place place hplace
          (.itself hmem (List.isSuffixOf_iff_suffix.1 hending))]
  have hadded : (extensions.map (place ++ ·)).find? other.fileExists
      = (extensions.map (place ++ ·)).find? host.fileExists := by
    apply List.find?_congr
    intro file hfile
    rcases List.mem_map.1 hfile with ⟨ending, hmem, heq⟩
    rw [← heq]
    exact h.fileExists_eq place _ hplace (.ended hmem)
  unfold loadAsFile
  rw [hself, hadded]

include h in
theorem loadAsDirectory_congr :
    loadAsDirectory other candidate = loadAsDirectory host candidate := by
  have hmanifest : loadByManifest other candidate
      = loadByManifest host candidate := by
    unfold loadByManifest
    rw [h.fileText_eq candidate]
    simp only [loadAsFile_congr h (isNormal_join candidate _)]
  unfold loadAsDirectory
  rw [h.directoryExists_eq candidate, hmanifest,
    loadAsFile_congr h (isNormal_join candidate _)]

include h in
theorem load_congr (hcandidate : IsNormal candidate) :
    load other candidate = load host candidate := by
  unfold load
  rw [loadAsFile_congr h hcandidate, loadAsDirectory_congr h]

include h in
theorem manifestsRead_congr (hcandidate : IsNormal candidate) :
    manifestsRead other candidate = manifestsRead host candidate := by
  unfold manifestsRead
  rw [loadAsFile_congr h hcandidate, h.directoryExists_eq candidate]

include h in
theorem resolveAmong_congr {candidates : List Path}
    (hcandidates : ∀ p ∈ candidates, IsNormal p) :
    resolveAmong other candidates = resolveAmong host candidates := by
  induction candidates with
  | nil => rfl
  | cons candidate rest ih =>
      have hcandidate := hcandidates candidate List.mem_cons_self
      rw [resolveAmong, resolveAmong, load_congr h hcandidate,
        manifestsRead_congr h hcandidate,
        ih fun p hp => hcandidates p (List.mem_cons_of_mem candidate hp)]

include h in
theorem places_congr (specifier containing : Path) :
    places roots other specifier containing
      = places roots host specifier containing := by
  have hfolders : other.directoryExists = host.directoryExists :=
    funext h.directoryExists_eq
  unfold places dependencyPlaces
  rw [hfolders]

include h in
theorem resolver_congr : resolver roots other = resolver roots host := by
  funext specifier containing
  unfold resolver
  rw [places_congr h, resolveAmong_congr h]
  intro p hp
  exact isNormal_of_mem_places hp

end Alike

end NodeResolution

/-! ## Declaration files and their summaries -/

/-- The other tree has a summary for each of the modules, where this one has a
declaration file; apart from these files the two hold the same, and the same
paths are folders. -/
structure MemoryTree.Summarized (tree other : MemoryTree) (modules : Set Path) :
    Prop where
  caseSensitive : tree.caseSensitive = true
  caseSensitive_other : other.caseSensitive = true
  declared : ∀ stem ∈ modules,
    (tree.files.lookup (stem ++ declarationExtension)).isSome = true
  removed : ∀ stem ∈ modules,
    other.files.lookup (stem ++ declarationExtension) = none
  summarized : ∀ stem ∈ modules,
    (other.files.lookup (stem ++ summaryExtension)).isSome = true
  kept : ∀ p,
    (∀ stem ∈ modules, p ≠ stem ++ declarationExtension ∧
      p ≠ stem ++ summaryExtension) →
    other.files.lookup p = tree.files.lookup p
  isDirectory_eq : ∀ p, other.isDirectory p = tree.isDirectory p

namespace MemoryTree

open BuildHost.Path NodeResolution

theorem isFile_of_isNormal {tree : MemoryTree}
    (hcase : tree.caseSensitive = true) {p : Path} (hp : IsNormal p) :
    tree.isFile p = (tree.files.lookup p).isSome := by
  rw [isFile, key_of_isNormal hcase hp]

/-- Trees that store the same folders have the same ones, where no file is
stored under their paths. -/
theorem isDirectory_eq_of_folders_eq {tree other : MemoryTree}
    (hcase : other.caseSensitive = tree.caseSensitive)
    (hfolders : other.folders = tree.folders) (hfiles : ∀ folder ∈ tree.folders,
      other.files.lookup folder = none ∧ tree.files.lookup folder = none)
    (p : Path) :
    other.isDirectory p = tree.isDirectory p := by
  have hkey : other.key p = tree.key p := by
    rw [key, key, hcase]
  unfold isDirectory isFile
  rw [hkey, hfolders]
  cases hmem : tree.folders.contains (tree.key p) with
  | false => rw [Bool.and_false, Bool.and_false]
  | true =>
      have hnone := hfiles (tree.key p) (List.contains_iff_mem.1 hmem)
      rw [hnone.1, hnone.2]

theorem toOption_read_congr {tree other : MemoryTree} {p : Path}
    (h : other.stored? p = tree.stored? p) :
    (other.read p).toOption = (tree.read p).toOption := by
  have hread : ∀ tree : MemoryTree, (tree.read p).toOption
      = (tree.stored? p).bind fun bytes => (Utf8.decode bytes).toOption := by
    intro tree
    show (tree.bytes p
      >>= fun bytes => (Utf8.decode bytes).mapError IoError.notText).toOption
      = _
    rw [bytes]
    show _ = (tree.files.lookup (tree.key p)).bind _
    cases tree.files.lookup (tree.key p) with
    | none => rfl
    | some bytes =>
        show ((Utf8.decode bytes).mapError IoError.notText).toOption
          = (Utf8.decode bytes).toOption
        cases Utf8.decode bytes with
        | error fault => rfl
        | ok text => rfl
  rw [hread, hread, h]

variable {tree other : MemoryTree} {modules : Set Path} {p : Path}

theorem Summarized.lookup_eq (h : Summarized tree other modules)
    (hdeclaration : ¬ ∃ stem ∈ modules, p = stem ++ declarationExtension)
    (hsummary : ¬ summaryExtension <:+ p) :
    other.files.lookup p = tree.files.lookup p := by
  apply h.kept
  intro stem hstem
  constructor
  · intro heq
    exact hdeclaration ⟨stem, hstem, heq⟩
  · intro heq
    rw [heq] at hsummary
    exact hsummary (List.suffix_append stem summaryExtension)

/-- No name that ends like a source file, and no manifest, is a summary. -/
theorem not_summaryExtension_suffix {ending : Path}
    (hmem : ending ∈ ["package.json".toList, ".ts".toList, ".tsx".toList])
    (h : ending <:+ p) :
    ¬ summaryExtension <:+ p := by
  have happart :
      ∀ ending ∈ ["package.json".toList, ".ts".toList, ".tsx".toList],
      ¬ (summaryExtension <:+ ending ∨ ending <:+ summaryExtension) := by
    decide
  intro hsummary
  exact happart ending hmem (List.suffix_or_suffix_of_suffix hsummary h)

/-- A file that is not one of the modules' is there, or not, as before. -/
theorem Summarized.lookup_append_eq (h : Summarized tree other modules)
    {stem ending : Path} (hstem : stem ∉ modules)
    (hending : ending = declarationExtension ∨ ending = summaryExtension) :
    other.files.lookup (stem ++ ending)
      = tree.files.lookup (stem ++ ending) := by
  have hdeclaration : ∀ stem : Path,
      ¬ summaryExtension <:+ stem ++ declarationExtension := by
    intro stem
    have hts : ".ts".toList <:+ declarationExtension := by decide
    exact not_summaryExtension_suffix (by decide)
      (hts.trans (List.suffix_append stem declarationExtension))
  apply h.kept
  intro module hmodule
  cases hending with
  | inl heq =>
      subst heq
      constructor
      · intro hsame
        rw [List.append_cancel_right hsame] at hstem
        exact hstem hmodule
      · intro hsame
        apply hdeclaration stem
        rw [hsame]
        exact List.suffix_append module summaryExtension
  | inr heq =>
      subst heq
      constructor
      · intro hsame
        apply hdeclaration module
        rw [← hsame]
        exact List.suffix_append stem summaryExtension
      · intro hsame
        rw [List.append_cancel_right hsame] at hstem
        exact hstem hmodule

/-- A declaration file or its summary is there in the one tree exactly when one
of them is in the other. -/
theorem Summarized.isFile_or_isFile_iff (h : Summarized tree other modules)
    {stem : Path} (hnormal : IsNormal (stem ++ declarationExtension))
    (hr : isRooted (stem ++ declarationExtension) = true) :
    (other.isFile (stem ++ declarationExtension) = true ∨
        other.isFile (stem ++ summaryExtension) = true) ↔
      (tree.isFile (stem ++ declarationExtension) = true ∨
        tree.isFile (stem ++ summaryExtension) = true) := by
  have hplain : IsPlain summaryExtension := by
    decide
  have hsummary : IsNormal (stem ++ summaryExtension) :=
    isNormal_replace_ending hnormal hr (by decide) (by decide) hplain
      (by decide)
  rw [isFile_of_isNormal h.caseSensitive_other hnormal,
    isFile_of_isNormal h.caseSensitive_other hsummary,
    isFile_of_isNormal h.caseSensitive hnormal,
    isFile_of_isNormal h.caseSensitive hsummary]
  by_cases hstem : stem ∈ modules
  · constructor
    · intro _
      exact .inl (h.declared stem hstem)
    · intro _
      exact .inr (h.summarized stem hstem)
  · rw [h.lookup_append_eq hstem (.inl rfl),
      h.lookup_append_eq hstem (.inr rfl)]

/-- A file under another name than a declaration file's is asked for by that
name alone. -/
theorem Summarized.isFile_eq_of_isAsked (h : Summarized tree other modules)
    {place file : Path} (hplace : IsNormal place) (hasked : IsAsked place file)
    (hr : isRooted file = true)
    (hdeclaration : ¬ ∃ stem, file = stem ++ declarationExtension) :
    other.isFile file = tree.isFile file := by
  have hnormal := hasked.isNormal hplace hr
  have hsummary : ¬ summaryExtension <:+ file := by
    cases hasked.ends with
    | inl hts => exact not_summaryExtension_suffix (by decide) hts
    | inr htsx => exact not_summaryExtension_suffix (by decide) htsx
  rw [isFile_of_isNormal h.caseSensitive_other hnormal,
    isFile_of_isNormal h.caseSensitive hnormal]
  congr 1
  apply h.lookup_eq _ hsummary
  rintro ⟨stem, -, hstem⟩
  exact hdeclaration ⟨stem, hstem⟩

theorem exists_summary_iff (fs : FileSystem) (stem : Path) :
    (∃ module, stem ++ declarationExtension = module ++ declarationExtension ∧
      fs.isFile (module ++ summaryExtension) = true) ↔
        fs.isFile (stem ++ summaryExtension) = true := by
  constructor
  · rintro ⟨module, hsame, hfile⟩
    rw [List.append_cancel_right hsame]
    exact hfile
  · intro hfile
    exact ⟨stem, rfl, hfile⟩

theorem Summarized.fileExists_eq (h : Summarized tree other modules)
    (planned : List Path) {place file : Path} (hplace : IsNormal place)
    (hasked : IsAsked place file) :
    (KnownFiles.resolutionHost ⟨.inMemory other, planned⟩).fileExists file
      = (KnownFiles.resolutionHost ⟨.inMemory tree, planned⟩).fileExists
        file := by
  rw [Bool.eq_iff_iff, KnownFiles.fileExists_resolutionHost_iff,
    KnownFiles.fileExists_resolutionHost_iff]
  apply and_congr_right
  intro hr
  show (other.isFile file = true ∨ _ ∨ _) ↔ (tree.isFile file = true ∨ _ ∨ _)
  rw [or_left_comm, @or_left_comm (tree.isFile file = true)]
  apply or_congr_right
  by_cases hdeclaration : ∃ stem, file = stem ++ declarationExtension
  · rcases hdeclaration with ⟨stem, rfl⟩
    rw [exists_summary_iff, exists_summary_iff]
    exact h.isFile_or_isFile_iff (hasked.isNormal hplace hr) hr
  · have hnone : ∀ fs : FileSystem, ¬ ∃ stem,
        file = stem ++ declarationExtension ∧
        fs.isFile (stem ++ summaryExtension) = true := by
      rintro fs ⟨stem, hstem, -⟩
      exact hdeclaration ⟨stem, hstem⟩
    rw [h.isFile_eq_of_isAsked hplace hasked hr hdeclaration]
    simp only [hnone]

theorem Summarized.fileText_eq (h : Summarized tree other modules)
    (planned : List Path) (folder : Path) :
    (KnownFiles.resolutionHost ⟨.inMemory other, planned⟩).fileText
    (manifestOf folder)
      = (KnownFiles.resolutionHost ⟨.inMemory tree, planned⟩).fileText
        (manifestOf folder) := by
  have hname : IsPlain "package.json".toList := by
    decide
  have hends : "package.json".toList <:+ manifestOf folder :=
    isSuffix_join folder hname
  have hnormal : IsNormal (manifestOf folder) := isNormal_join folder _
  apply toOption_read_congr
  rw [stored?, stored?, key_of_isNormal h.caseSensitive_other hnormal,
    key_of_isNormal h.caseSensitive hnormal]
  apply h.lookup_eq
  · rintro ⟨stem, -, hstem⟩
    have hapart : ¬ (declarationExtension <:+ "package.json".toList ∨
        "package.json".toList <:+ declarationExtension) := by
      decide
    rw [hstem] at hends
    exact hapart
      (List.suffix_or_suffix_of_suffix (List.suffix_append stem _) hends)
  · exact not_summaryExtension_suffix (by decide) hends

theorem Summarized.answersAlike (h : Summarized tree other modules)
    (planned : List Path) :
    AnswersAlike (KnownFiles.resolutionHost ⟨.inMemory tree, planned⟩)
      (KnownFiles.resolutionHost ⟨.inMemory other, planned⟩) where
  fileExists_eq _ _ hplace hasked := h.fileExists_eq planned hplace hasked
  directoryExists_eq := h.isDirectory_eq
  fileText_eq := h.fileText_eq planned

end MemoryTree

namespace Layout

open BuildHost.Path

/-- Summaries in place of declaration files change no answer, and no error,
whatever is planned. -/
theorem resolve_of_summarized {tree other : MemoryTree} {modules : Set Path}
    (h : MemoryTree.Summarized tree other modules) (layout : Layout)
    (roots planned : List Path) (specifier : Path) (containing : Option Path) :
    layout.resolve (NodeResolution.resolver roots) ⟨.inMemory other, planned⟩
        specifier containing
      = layout.resolve (NodeResolution.resolver roots) ⟨.inMemory tree, planned⟩
        specifier containing := by
  unfold resolve
  rw [NodeResolution.resolver_congr (h.answersAlike planned)]

/-- The index of a folder is left to its summary. -/
theorem resolve_of_summarized_index :
    let tree := (MemoryTree.empty true).addFile "/p/lib/index.d.ts".toList
      ByteArray.empty
    let other := (MemoryTree.empty true).addFile
      "/p/lib/index.ngsummary.json".toList ByteArray.empty
    let layout := outsideLayout []
    MemoryTree.Summarized tree other {"/p/lib/index".toList} ∧
      (layout.resolve (NodeResolution.resolver []) ⟨.inMemory tree, []⟩
          "./lib".toList (some "/p/a.ts".toList)).map (·.target)
        = .ok (some "/p/lib/index.d.ts".toList) ∧
      layout.resolve (NodeResolution.resolver []) ⟨.inMemory other, []⟩
          "./lib".toList (some "/p/a.ts".toList)
        = layout.resolve (NodeResolution.resolver []) ⟨.inMemory tree, []⟩
          "./lib".toList (some "/p/a.ts".toList) := by
  intro tree other layout
  have hsummarized : MemoryTree.Summarized tree other
      {"/p/lib/index".toList} := by
    constructor
    · rfl
    · rfl
    · rintro stem rfl
      decide
    · rintro stem rfl
      decide
    · rintro stem rfl
      decide
    · intro p hp
      rcases hp _ rfl with ⟨hdeclaration, hsummary⟩
      have htree : tree.files.lookup p = none :=
        (OrderedMap.lookup_insert _ _ _ p).trans (if_neg hdeclaration)
      have hother : other.files.lookup p = none :=
        (OrderedMap.lookup_insert _ _ _ p).trans (if_neg hsummary)
      rw [htree, hother]
    · have hcase : other.caseSensitive = tree.caseSensitive := rfl
      exact MemoryTree.isDirectory_eq_of_folders_eq hcase (by decide)
        (by decide)
  refine ⟨hsummarized, ?_, resolve_of_summarized hsummarized layout [] [] _ _⟩
  exact eq_ok_of_toOption_eq_some (by decide)

end Layout
end BuildHost
