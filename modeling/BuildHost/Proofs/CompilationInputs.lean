import BuildHost.Proofs.FileRole

/-!
# Inputs of a compilation and generated files

Whether a file is an input is told by its whole name, and whether it is imported
as a generated file by its name without the extension.  The two agree but for
the modules of generated files whose extension is another than the one that
generated files have (`isGenerated_withoutExtension_of_input_iff`).
-/

namespace BuildHost

open BuildHost.Path

/-! ## Names that end alike -/

theorem isSuffixOf_append_of_length_le {ending q : Path}
    (h : ending.length ≤ q.length) (front : Path) :
    ending.isSuffixOf (front ++ q) = ending.isSuffixOf q := by
  rw [Bool.eq_iff_iff, List.isSuffixOf_iff_suffix, List.isSuffixOf_iff_suffix]
  constructor
  · intro hending
    exact List.suffix_of_suffix_length_le hending (List.suffix_append front q) h
  · intro hending
    exact hending.trans (List.suffix_append front q)

theorem isGeneratedFile_of_isSuffix {p ending : Path} (h : ending <:+ p)
    (hending : isGeneratedFile ending = true) : isGeneratedFile p = true := by
  rw [isGeneratedFile, List.any_eq_true] at hending ⊢
  rcases hending with ⟨module, hmem, hmodule⟩
  rw [List.isSuffixOf_iff_suffix] at hmodule
  exact ⟨module, hmem, List.isSuffixOf_iff_suffix.2 (hmodule.trans h)⟩

theorem isGeneratedFile_eq_false {p ending : Path} (h : ending <:+ p)
    (hending : ∀ module ∈ generatedExtensions, ¬ module <:+ ending ∧
      ¬ ending <:+ module) :
    isGeneratedFile p = false := by
  rw [isGeneratedFile, List.any_eq_false]
  intro module hmem
  rw [List.isSuffixOf_iff_suffix]
  intro hmodule
  rcases List.suffix_or_suffix_of_suffix hmodule h with hsuffix | hsuffix
  · exact (hending module hmem).1 hsuffix
  · exact (hending module hmem).2 hsuffix

theorem FileRole.isCompilationInput_classify (p : Path)
    (generateForLibraries : Bool) :
    (FileRole.classify p).isCompilationInput generateForLibraries
      = (!isGeneratedFile p &&
        (!isDeclarationFile p || generateForLibraries)) := by
  rw [FileRole.classify]
  cases isGeneratedFile p with
  | true => rfl
  | false =>
      cases isDeclarationFile p with
      | true => rfl
      | false => cases dependencyModule? p <;> rfl

/-! ## Generated files that are taken for inputs -/

/-- What may follow the name of a generated module in a file that counts as an
input: extensions that the files of generated modules do not have. -/
def foreignExtensions (generateForLibraries : Bool) : List Path :=
  [".tsx".toList, ".jsx".toList, ".js".toList, ".ts.ts".toList,
    ".ts.tsx".toList, ".ts.jsx".toList, ".ts.js".toList]
    ++ if generateForLibraries then [".d.ts".toList, ".ts.d.ts".toList] else []

/-- The endings of files that count as inputs and are imported as generated
files. -/
def disguises (generateForLibraries : Bool) : List Path :=
  [".ngfactory".toList, ".ngstyle".toList].flatMap fun module =>
    (foreignExtensions generateForLibraries).map (module ++ ·)

/-- What an ending of a generated module followed by one of a source file is: an
ending of a generated file, one of a declaration file that no code is generated
for, or a disguise. -/
theorem append_mem_disguises (generateForLibraries : Bool) :
    ∀ module ∈ generatedExtensions, ∀ ending ∈ sourceExtensions,
      isGeneratedFile (module ++ ending) = true ∨
        isDeclarationFile (module ++ ending) = true ∧
          generateForLibraries = false ∨
        module ++ ending ∈ disguises generateForLibraries := by
  cases generateForLibraries <;> decide

theorem of_mem_disguises (generateForLibraries : Bool) :
    ∀ ending ∈ disguises generateForLibraries,
      (∀ module ∈ generatedExtensions, ¬ module <:+ ending ∧
        ¬ ending <:+ module) ∧
        (isDeclarationFile ending = true → generateForLibraries = true) ∧
        isGeneratedFile ending.withoutExtension = true ∧
        ∀ extension ∈ declarationExtension :: sourceExtensions,
          extension.length ≤ ending.length := by
  cases generateForLibraries <;> decide

/-- A file that counts as an input is not imported as a generated file, whether
code is generated for libraries or not, unless its name ends with that of a
generated module and an extension that the files of generated modules do not
have. -/
theorem isGenerated_withoutExtension_of_input_iff (p : Path)
    (generateForLibraries : Bool) :
    ((FileRole.classify p).isCompilationInput generateForLibraries = true →
        (FileRole.classify p.withoutExtension).isGenerated = false) ↔
      ∀ ending ∈ disguises generateForLibraries, ¬ ending <:+ p := by
  rw [FileRole.isGenerated_classify, FileRole.isCompilationInput_classify]
  constructor
  · intro hagree ending hmem hending
    rcases of_mem_disguises generateForLibraries ending hmem
      with ⟨hforeign, hdeclaration, hgenerated, hlength⟩
    rcases hending with ⟨front, rfl⟩
    have hstem : withoutExtension (front ++ ending)
        = front ++ withoutExtension ending :=
      withoutExtension_append fun extension hextension =>
        isSuffixOf?_append_of_length_le
          (hlength extension (List.mem_cons_of_mem _ hextension)) front
    have hinput : isGeneratedFile (front ++ ending) = false :=
      isGeneratedFile_eq_false (List.suffix_append front ending) hforeign
    have hrole : isDeclarationFile (front ++ ending)
        = isDeclarationFile ending :=
      isSuffixOf_append_of_length_le
        (hlength declarationExtension List.mem_cons_self) front
    rw [hstem, isGeneratedFile_of_isSuffix (List.suffix_append front _)
      hgenerated, hinput, hrole] at hagree
    cases hlibrary : isDeclarationFile ending with
    | false =>
        rw [hlibrary] at hagree
        exact absurd (hagree rfl) (by decide)
    | true =>
        rw [hdeclaration hlibrary, Bool.or_true] at hagree
        exact absurd (hagree rfl) (by decide)
  · intro hnone hinput
    rw [Bool.and_eq_true, Bool.not_eq_true'] at hinput
    rw [Bool.eq_false_iff]
    intro hgenerated
    rcases exists_withoutExtension_append p with hsame | ⟨ending, hending, hp⟩
    · rw [hsame, hinput.1] at hgenerated
      cases hgenerated
    · rw [isGeneratedFile, List.any_eq_true] at hgenerated
      rcases hgenerated with ⟨module, hmodule, hsuffix⟩
      rcases List.isSuffixOf_iff_suffix.1 hsuffix with ⟨front, hfront⟩
      have hend : module ++ ending <:+ p :=
        ⟨front, by rw [← hp, ← hfront, List.append_assoc]⟩
      rcases append_mem_disguises generateForLibraries module hmodule
        ending hending with hown | ⟨hdeclaration, hlibraries⟩ | hmem
      · rw [isGeneratedFile_of_isSuffix hend hown] at hinput
        exact absurd hinput.1 (by decide)
      · have hrole : isDeclarationFile p = true :=
          List.isSuffixOf_iff_suffix.2
            ((List.isSuffixOf_iff_suffix.1 hdeclaration).trans hend)
        rw [hrole, hlibraries] at hinput
        exact absurd hinput.2 (by decide)
      · exact hnone _ hmem hend

/-- The declarations of a generated module are an input when code is generated
for libraries. -/
theorem isCompilationInput_generatedDeclarations :
    let p : Path := "/p/a.ngfactory.d.ts".toList
    (FileRole.classify p).isCompilationInput true = true ∧
      (FileRole.classify p.withoutExtension).isGenerated = true := by
  decide

end BuildHost
