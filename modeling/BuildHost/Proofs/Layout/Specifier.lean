import BuildHost.Proofs.Layout.Emission
import BuildHost.Proofs.FileRole
import BuildHost.Proofs.Path.Dirname
import BuildHost.Resolution.Specifier

/-!
# Specifiers and the places of generated files

A specifier is the way from where the containing file is moved to, to where the
imported module is moved to or lies (`specifierOf_of_generated`,
`specifierOf_of_mirrored`, `specifierOf_of_source`).  It is followed from where
the containing file is emitted, which is the same place for files below the base
path that no root directory contains (`emitPath_eq_moveToGenDir`).
-/

namespace BuildHost
namespace Layout

open BuildHost.Path

variable {layout : Layout} {imported containing : Path}

/-! ## Moving files of the project -/

theorem moveToGenDir_below {rest : Path}
    (h : dependencyModule? (withSeparator layout.basePath.path ++ rest)
      = none) :
    layout.moveToGenDir (withSeparator layout.basePath.path ++ rest)
      = layout.genDir.path.join [rest] := by
  rw [moveToGenDir, h]
  simp only [replaceBasePath]
  rw [replaceRoot_withSeparator _ layout.genDir.isNormal_path]
  rfl

theorem moveToGenDir_of_not_contains {p : Path} (hp : IsNormal p)
    (h : dependencyModule? p = none)
    (hbase : ¬ Contains layout.basePath.path p) :
    layout.moveToGenDir p = p := by
  rw [moveToGenDir, h]
  simp only [replaceBasePath]
  rw [replaceRoot_eq_none _ hp layout.basePath.isNormal_path
    layout.basePath.isRooted_path hbase]
  rfl

theorem isNormal_moveToGenDir (layout : Layout) {p : Path} (hp : IsNormal p)
    (hr : Path.isRooted p = true) (h : dependencyModule? p = none) :
    IsNormal (layout.moveToGenDir p) ∧
      Path.isRooted (layout.moveToGenDir p) = true := by
  rw [moveToGenDir, h]
  simp only [replaceBasePath, replaceRoot]
  split
  · exact ⟨layout.genDir.isNormal_path, layout.genDir.isRooted_path⟩
  · generalize (List.isPrefixOf? _ p) = rest
    cases rest with
    | none => exact ⟨hp, hr⟩
    | some rest =>
        exact ⟨isNormal_join _ _, isRooted_join layout.genDir.isRooted_path _⟩

/-! ## The specifier of a file of the project -/

theorem classify_of_dependencyModule?_eq_none {p : Path}
    (h : dependencyModule? p = none) :
    FileRole.classify p = .generated none ∨
      FileRole.classify p = .declaration none ∨
      FileRole.classify p = .source := by
  rw [FileRole.classify, h]
  split
  · exact .inl rfl
  · split
    · exact .inr (.inl rfl)
    · exact .inr (.inr rfl)

theorem specifierOf_of_generated
    (h : dependencyModule? imported.withoutExtension = none)
    (hgenerated : (FileRole.classify imported.withoutExtension).isGenerated
      = true) :
    layout.specifierOf imported containing
      = (layout.moveToGenDir containing).dirname.dotRelative
          (layout.moveToGenDir imported.withoutExtension) := by
  rcases classify_of_dependencyModule?_eq_none h with hrole | hrole | hrole
  · simp only [specifierOf, hrole]
  · rw [hrole] at hgenerated
    cases hgenerated
  · rw [hrole] at hgenerated
    cases hgenerated

theorem specifierOf_of_mirrored
    (h : dependencyModule? imported.withoutExtension = none)
    (hinside : layout.genDirInsideBasePath = false)
    (hrooted : Path.isRooted (layout.moveToGenDir imported.withoutExtension)
      = true) :
    layout.specifierOf imported containing
      = (layout.moveToGenDir containing).dirname.dotRelative
          (layout.moveToGenDir imported.withoutExtension) := by
  have hmove : layout.moveToGenDir imported.withoutExtension
      = layout.replaceBasePath imported.withoutExtension := by
    rw [moveToGenDir, h]
  have hshallow := isShallowImport_of_isRooted hrooted
  rw [hmove] at hshallow ⊢
  rcases classify_of_dependencyModule?_eq_none h with hrole | hrole | hrole
  · simp only [specifierOf, hrole, hmove]
  · simp [specifierOf, hrole, hinside, hshallow]
  · simp [specifierOf, hrole, hinside, hshallow]

theorem specifierOf_of_source
    (h : dependencyModule? imported.withoutExtension = none)
    (hgenerated : (FileRole.classify imported.withoutExtension).isGenerated
      = false)
    (hinside : layout.genDirInsideBasePath = true)
    (hrooted : Path.isRooted imported.withoutExtension = true) :
    layout.specifierOf imported containing
      = (layout.moveToGenDir containing).dirname.dotRelative
        imported.withoutExtension := by
  have hshallow := isShallowImport_of_isRooted hrooted
  rcases classify_of_dependencyModule?_eq_none h with hrole | hrole | hrole
  · rw [hrole] at hgenerated
    cases hgenerated
  · simp [specifierOf, hrole, hinside, hshallow]
  · simp [specifierOf, hrole, hinside, hshallow]

/-! ## Files below the base path that no root directory contains -/

theorem emitPath_below {p : Path} {rest : List Path} (hp : IsNormal p)
    (hr : Path.isRooted p = true) (hne : rest ≠ [])
    (hrest : view p = ((view layout.basePath.path).1,
      (view layout.basePath.path).2 ++ rest))
    (hroots : ∀ dir ∈ layout.rootDirs, dir.path.isWithin p = false) :
    layout.emitPath p
      = withSeparator layout.genDir.path ++ [separator].intercalate rest := by
  have hmirrored : layout.mirrored p = rest :=
    mirrored_of_sourceRoot_eq hp hr (sourceRoot_eq_basePath layout hroots) hrest
  apply eq_withSeparator_append (layout.isNormal_emitPath p)
    (layout.isRooted_emitPath p) layout.genDir.isNormal_path
      layout.genDir.isRooted_path hne
  rw [view_emitPath, hmirrored]

theorem view_moveToGenDir_below {p : Path} {rest : List Path} (hp : IsNormal p)
    (hr : Path.isRooted p = true) (hne : rest ≠ [])
    (hrest : view p = ((view layout.basePath.path).1,
      (view layout.basePath.path).2 ++ rest))
    (h : dependencyModule? p = none) :
    view (layout.moveToGenDir p)
      = ((view layout.genDir.path).1, (view layout.genDir.path).2 ++ rest) := by
  have htext := eq_withSeparator_append hp hr layout.basePath.isNormal_path
    layout.basePath.isRooted_path hne hrest
  rw [htext] at h
  rw [htext, moveToGenDir_below h,
    view_join_intercalate layout.genDir.isRooted_path
      (isPlain_of_view hr hrest)]

theorem view_dirname_moveToGenDir {p : Path} {front : List Path} {last : Path}
    (hp : IsNormal p) (hr : Path.isRooted p = true)
    (h : dependencyModule? p = none)
    (hview : view p = ((view layout.basePath.path).1,
      (view layout.basePath.path).2 ++ (front ++ [last]))) :
    Path.isRooted (layout.moveToGenDir p).dirname = true ∧
      view (layout.moveToGenDir p).dirname
        = ((view layout.genDir.path).1,
          (view layout.genDir.path).2 ++ front) := by
  have hmoved := layout.isNormal_moveToGenDir hp hr h
  have hplace := view_moveToGenDir_below hp hr (by simp) hview h
  have hdir := view_dirname hmoved.1 hmoved.2 (by rw [hplace]; simp)
  refine ⟨hdir.1, ?_⟩
  rw [hdir.2, hplace, ← List.append_assoc, List.dropLast_concat]

/-- Files that only the base path contains are moved to where they are
emitted. -/
theorem emitPath_eq_moveToGenDir {p : Path} (hp : IsNormal p)
    (hbelow : IsBelow p layout.basePath.path) (h : dependencyModule? p = none)
    (hroots : ∀ dir ∈ layout.rootDirs, dir.path.isWithin p = false) :
    layout.emitPath p = layout.moveToGenDir p := by
  have hr := hbelow.isRooted hp layout.basePath.isRooted_path
  rcases hbelow with ⟨rest, hne, hrest⟩
  have hmoved := layout.isNormal_moveToGenDir hp hr h
  apply eq_of_view_eq (layout.isNormal_emitPath p) hmoved.1
    (layout.isRooted_emitPath p) hmoved.2
  have hmirrored : layout.mirrored p = rest :=
    mirrored_of_sourceRoot_eq hp hr (sourceRoot_eq_basePath layout hroots) hrest
  rw [view_emitPath, hmirrored, view_moveToGenDir_below hp hr hne hrest h]

/-- The directory of an emitted file that has segments below the directory of
generated files. -/
theorem view_dirname_emitPath {p : Path} {rest : List Path}
    (hmirrored : layout.mirrored p = rest) (hne : rest ≠ []) :
    Path.isRooted (layout.emitPath p).dirname = true ∧
      view (layout.emitPath p).dirname = ((view layout.genDir.path).1,
        (view layout.genDir.path).2 ++ rest.dropLast) := by
  have hview := layout.view_emitPath p
  rw [hmirrored] at hview
  have hdir := view_dirname (layout.isNormal_emitPath p)
    (layout.isRooted_emitPath p) (by rw [hview]; simp [hne])
  rw [hview] at hdir
  refine ⟨hdir.1, ?_⟩
  rw [hdir.2, List.dropLast_append_of_ne_nil hne]

/-! ## Modules and their places -/

/-- A module is moved to where its file is emitted, when only the base path
contains the file. -/
theorem moveToGenDir_withoutExtension {p : Path} (hp : IsNormal p)
    (hbelow : IsBelow p layout.basePath.path) (h : ¬ dependencyMarker <:+: p)
    (hroots : ∀ dir ∈ layout.rootDirs, dir.path.isWithin p = false) :
    layout.moveToGenDir p.withoutExtension
      = normalize (layout.emitPath p).withoutExtension := by
  have hr := hbelow.isRooted hp layout.basePath.isRooted_path
  have hmodule := dependencyModule?_withoutExtension h
  rcases hbelow with ⟨rest, hne, hrest⟩
  have htext := withoutExtension_below hp hr layout.basePath.isNormal_path
    layout.basePath.isRooted_path hne hrest
  rw [htext] at hmodule ⊢
  rw [moveToGenDir_below hmodule, emitPath_below hp hr hne hrest hroots,
    withoutExtension_withSeparator,
    normalize_withSeparator_append layout.genDir.isRooted_path]

/-! ## Specifiers below the base path -/

section BelowBasePath

variable (himported : IsNormal imported) (hcontaining : IsNormal containing)
  (hibelow : IsBelow imported layout.basePath.path)
  (hcbelow : IsBelow containing layout.basePath.path)
  (himarker : ¬ dependencyMarker <:+: imported)
  (hcmarker : ¬ dependencyMarker <:+: containing)
  (hiroots : ∀ dir ∈ layout.rootDirs, dir.path.isWithin imported = false)
  (hcroots : ∀ dir ∈ layout.rootDirs, dir.path.isWithin containing = false)

include hcontaining hcbelow hcmarker hcroots in
/-- A specifier is followed from the directory that it was made for. -/
theorem dirname_moveToGenDir_eq :
    (layout.moveToGenDir containing).dirname
      = (layout.emitPath containing).dirname := by
  rw [emitPath_eq_moveToGenDir hcontaining hcbelow
    (dependencyModule?_eq_none hcmarker) hcroots]

include hcontaining hcbelow hcroots in
theorem view_dirname_emitPath_below :
    Path.isRooted (layout.emitPath containing).dirname = true ∧
      (view (layout.emitPath containing).dirname).1
        = (view layout.genDir.path).1 := by
  have hr := hcbelow.isRooted hcontaining layout.basePath.isRooted_path
  rcases hcbelow with ⟨rest, hne, hrest⟩
  have hmirrored : layout.mirrored containing = rest :=
    mirrored_of_sourceRoot_eq hcontaining hr
      (sourceRoot_eq_basePath layout hcroots) hrest
  have hdir := view_dirname_emitPath hmirrored hne
  exact ⟨hdir.1, by rw [hdir.2]⟩

include himported hibelow himarker hiroots in
theorem view_moveToGenDir_withoutExtension :
    Path.isRooted (layout.moveToGenDir imported.withoutExtension) = true ∧
      (view (layout.moveToGenDir imported.withoutExtension)).1
        = (view layout.genDir.path).1 := by
  have hr := hibelow.isRooted himported layout.basePath.isRooted_path
  have hplace := moveToGenDir_withoutExtension himported hibelow
    himarker hiroots
  rcases hibelow with ⟨rest, hne, hrest⟩
  rw [hplace, emitPath_below himported hr hne hrest hiroots,
    withoutExtension_withSeparator,
    normalize_withSeparator_append layout.genDir.isRooted_path]
  refine ⟨isRooted_join layout.genDir.isRooted_path _, ?_⟩
  rw [view_join layout.genDir.isRooted_path]

include himported hcontaining hibelow hcbelow himarker hcmarker hiroots
  hcroots in
theorem join_dotRelative_moveToGenDir :
    join (layout.emitPath containing).dirname
        [(layout.moveToGenDir containing).dirname.dotRelative
          (layout.moveToGenDir imported.withoutExtension)]
      = normalize (layout.emitPath imported).withoutExtension := by
  have hdir := view_dirname_emitPath_below hcontaining hcbelow hcroots
  have hmodule := view_moveToGenDir_withoutExtension himported hibelow
    himarker hiroots
  rw [dirname_moveToGenDir_eq hcontaining hcbelow hcmarker hcroots,
    join_dotRelative hdir.1 hmodule.1 (by rw [hdir.2, hmodule.2]),
    moveToGenDir_withoutExtension himported hibelow himarker hiroots,
    normalize_normalize]

include himported hibelow in
theorem isRooted_withoutExtension_below :
    Path.isRooted imported.withoutExtension = true ∧
      (view imported.withoutExtension).1 = (view layout.basePath.path).1 := by
  have hr := hibelow.isRooted himported layout.basePath.isRooted_path
  rcases hibelow with ⟨rest, hne, hrest⟩
  have hbase := layout.basePath.isRooted_path
  rw [withoutExtension_below himported hr layout.basePath.isNormal_path hbase
    hne hrest]
  refine ⟨isRooted_withSeparator_append hbase _, ?_⟩
  rw [view_withSeparator_append hbase, view_append_separator hbase]

include himported hibelow in
/-- Among the sources a module is not where the directory of generated files
would have it, when that directory lies at least two segments below the
sources. -/
theorem normalize_withoutExtension_emitPath_ne {more : List Path}
    (hmore : view layout.genDir.path
      = ((view layout.basePath.path).1, (view layout.basePath.path).2 ++ more))
    (hlength : 2 ≤ more.length)
    (hiroots : ∀ dir ∈ layout.rootDirs, dir.path.isWithin imported = false) :
    normalize (layout.emitPath imported).withoutExtension
      ≠ normalize imported.withoutExtension := by
  have hr := hibelow.isRooted himported layout.basePath.isRooted_path
  rcases hibelow with ⟨rest, hne, hrest⟩
  have hbase := layout.basePath.isRooted_path
  have hgen := layout.genDir.isRooted_path
  rw [withoutExtension_below himported hr layout.basePath.isNormal_path hbase
    hne hrest, emitPath_below himported hr hne hrest hiroots,
    withoutExtension_withSeparator, normalize_withSeparator_append hbase,
    normalize_withSeparator_append hgen]
  exact join_withoutExtension_ne hbase hgen hmore hlength hne
    (isPlain_of_view hr hrest)

include himported hcontaining hibelow hcbelow himarker hcmarker hiroots
  hcroots in
theorem join_specifierOf_mirrored
    (h : (FileRole.classify imported.withoutExtension).isGenerated = true ∨
      layout.genDirInsideBasePath = false) :
    join (layout.emitPath containing).dirname
      [layout.specifierOf imported containing]
      = normalize (layout.emitPath imported).withoutExtension := by
  have hmodule := dependencyModule?_withoutExtension himarker
  have hplace := join_dotRelative_moveToGenDir himported hcontaining hibelow
    hcbelow himarker hcmarker hiroots hcroots
  rcases h with hgenerated | hflag
  · rw [specifierOf_of_generated hmodule hgenerated, hplace]
  · have hmoved := view_moveToGenDir_withoutExtension himported hibelow
      himarker hiroots
    rw [specifierOf_of_mirrored hmodule hflag hmoved.1, hplace]

include himported hcontaining hibelow hcbelow himarker hcmarker hcroots in
theorem join_specifierOf_source
    (hgenerated : (FileRole.classify imported.withoutExtension).isGenerated
      = false)
    (hflag : layout.genDirInsideBasePath = true) :
    join (layout.emitPath containing).dirname
      [layout.specifierOf imported containing]
      = normalize imported.withoutExtension := by
  have hmodule := dependencyModule?_withoutExtension himarker
  have hsource := isRooted_withoutExtension_below himported hibelow
  have hdir := view_dirname_emitPath_below hcontaining hcbelow hcroots
  have hinside := contains_of_isWithin layout.genDir.isRooted_path hflag
  have hroot : (view (layout.emitPath containing).dirname).1
      = (view imported.withoutExtension).1 := by
    rw [hdir.2, hsource.2, hinside.1]
  rw [specifierOf_of_source hmodule hgenerated hflag hsource.1,
    dirname_moveToGenDir_eq hcontaining hcbelow hcmarker hcroots,
    join_dotRelative hdir.1 hsource.1 hroot]

include himported hibelow himarker hiroots in
theorem isDotted_specifierOf :
    IsDotted (layout.specifierOf imported containing) := by
  have hmodule := dependencyModule?_withoutExtension himarker
  have hmoved := view_moveToGenDir_withoutExtension himported hibelow
    himarker hiroots
  have hsource := isRooted_withoutExtension_below himported hibelow
  cases hgenerated :
    (FileRole.classify imported.withoutExtension).isGenerated with
  | true =>
      rw [specifierOf_of_generated hmodule hgenerated]
      exact isDotted_dotRelative _ hmoved.1
  | false =>
      cases hflag : layout.genDirInsideBasePath with
      | true =>
          rw [specifierOf_of_source hmodule hgenerated hflag hsource.1]
          exact isDotted_dotRelative _ hsource.1
      | false =>
          rw [specifierOf_of_mirrored hmodule hflag hmoved.1]
          exact isDotted_dotRelative _ hmoved.1

end BelowBasePath

/-- Generated files count as among the sources when the base path contains their
directory, unless that directory is spelled below the base path like a path
below a drive. -/
theorem genDirInsideBasePath_iff
    (h : Contains layout.basePath.path layout.genDir.path) :
    layout.genDirInsideBasePath = true ↔
      spellsDrive
        ((view layout.genDir.path).2.drop (view layout.basePath.path).2.length)
        = false := by
  rw [genDirInsideBasePath, isWithin_iff_contains layout.genDir.isRooted_path,
    and_iff_right h]

theorem genDirInsideBasePath_eq_false
    (h : ¬ Contains layout.basePath.path layout.genDir.path) :
    layout.genDirInsideBasePath = false := by
  rw [Bool.eq_false_iff]
  exact fun hinside =>
    h (contains_of_isWithin layout.genDir.isRooted_path hinside)

theorem genDirInsideBasePath_of_spellsDrive
    (h : spellsDrive
      ((view layout.genDir.path).2.drop (view layout.basePath.path).2.length)
      = true) :
    layout.genDirInsideBasePath = false := by
  by_cases hinside : Contains layout.basePath.path layout.genDir.path
  · rw [Bool.eq_false_iff, ne_eq, genDirInsideBasePath_iff hinside, h]
    decide
  · exact genDirInsideBasePath_eq_false hinside

/-- A specifier leads from where the containing file is emitted to where the
imported module is: to the place of its counterpart for generated modules and
when nothing generated goes among the sources, and otherwise to the module
itself.  The exception is a directory of generated files that is spelled below
the base path like a path below a drive: it counts as outside, and modules are
not found among the sources. -/
theorem join_specifierOf_below_basePath
    (himported : IsNormal imported) (hcontaining : IsNormal containing)
    (hibelow : IsBelow imported layout.basePath.path)
    (hcbelow : IsBelow containing layout.basePath.path)
    (himarker : ¬ dependencyMarker <:+: imported)
    (hcmarker : ¬ dependencyMarker <:+: containing)
    (hiroots : ∀ dir ∈ layout.rootDirs, dir.path.isWithin imported = false)
    (hcroots : ∀ dir ∈ layout.rootDirs, dir.path.isWithin containing = false) :
    ((FileRole.classify imported.withoutExtension).isGenerated = true ∨
          ¬ Contains layout.basePath.path layout.genDir.path ∨
          spellsDrive
            ((view layout.genDir.path).2.drop
              (view layout.basePath.path).2.length)
            = true →
        join (layout.emitPath containing).dirname
          [layout.specifierOf imported containing]
          = normalize (layout.emitPath imported).withoutExtension) ∧
      ((FileRole.classify imported.withoutExtension).isGenerated = false →
        Contains layout.basePath.path layout.genDir.path →
        (join (layout.emitPath containing).dirname
          [layout.specifierOf imported containing]
            = normalize imported.withoutExtension ↔
          spellsDrive
            ((view layout.genDir.path).2.drop
              (view layout.basePath.path).2.length)
            = false)) ∧
      IsDotted (layout.specifierOf imported containing) := by
  have hmirror : (FileRole.classify imported.withoutExtension).isGenerated
      = true ∨
      layout.genDirInsideBasePath = false →
      join (layout.emitPath containing).dirname
        [layout.specifierOf imported containing]
        = normalize (layout.emitPath imported).withoutExtension :=
    join_specifierOf_mirrored himported hcontaining hibelow hcbelow himarker
      hcmarker hiroots hcroots
  constructor
  · intro h
    rcases h with hgenerated | houtside | hspells
    · exact hmirror (.inl hgenerated)
    · exact hmirror (.inr (genDirInsideBasePath_eq_false houtside))
    · exact hmirror (.inr (genDirInsideBasePath_of_spellsDrive hspells))
  constructor
  · intro hgenerated hinside
    constructor
    · intro hsource
      rcases contains_iff.1 hinside with ⟨more, hmore⟩
      rw [hmore, List.drop_left, Bool.eq_false_iff]
      intro hspells
      have hflag : layout.genDirInsideBasePath = false := by
        apply genDirInsideBasePath_of_spellsDrive
        rw [hmore, List.drop_left]
        exact hspells
      have heq := (hmirror (.inr hflag)).symm.trans hsource
      exact normalize_withoutExtension_emitPath_ne himported hibelow hmore
        (two_le_length_of_spellsDrive hspells) hiroots heq
    · intro hspells
      exact join_specifierOf_source himported hcontaining hibelow hcbelow
        himarker hcmarker hcroots hgenerated
          ((genDirInsideBasePath_iff hinside).2 hspells)
  · exact isDotted_specifierOf himported hibelow himarker hiroots

/-- A module that is the directory of the file that it is imported from. -/
theorem join_specifierOf_below_projectDir :
    let layout := outsideLayout [innerDir]
    let imported : Path := "/p/b.ts".toList
    let containing : Path := "/p/b/c.ts".toList
    IsNormal imported ∧ IsNormal containing ∧
      IsBelow imported layout.basePath.path ∧
      IsBelow containing layout.basePath.path ∧
      ¬ Contains layout.basePath.path layout.genDir.path ∧
      layout.specifierOf imported containing = "./".toList ∧
      join (layout.emitPath containing).dirname
        [layout.specifierOf imported containing]
        = normalize (layout.emitPath imported).withoutExtension := by
  have himported : IsNormal "/p/b.ts".toList := by decide +kernel
  have hcontaining : IsNormal "/p/b/c.ts".toList := by decide +kernel
  have hibelow : IsBelow "/p/b.ts".toList projectDir.path := by decide +kernel
  have hcbelow : IsBelow "/p/b/c.ts".toList projectDir.path := by decide +kernel
  have houtside : ¬ Contains projectDir.path outsideDir.path := by
    decide +kernel
  refine ⟨himported, hcontaining, hibelow, hcbelow,
    houtside, by decide +kernel, ?_⟩
  exact (join_specifierOf_below_basePath himported hcontaining hibelow hcbelow
    (by decide +kernel) (by decide +kernel) (by decide +kernel)
    (by decide +kernel)).1 (.inr (.inl houtside))

/-- A layout that puts generated files among the sources, into a directory that
is spelled like one below a drive. -/
def driveNameLayout : Layout where
  basePath := projectDir
  genDir := ⟨"/p/C:/g".toList, by decide, by decide⟩
  rootDirs := []
  generateForLibraries := false

theorem join_specifierOf_driveName_ne :
    let layout := driveNameLayout
    let imported : Path := "/p/a.ts".toList
    let containing : Path := "/p/c.ts".toList
    IsNormal imported ∧ IsNormal containing ∧
      IsBelow imported layout.basePath.path ∧
      IsBelow containing layout.basePath.path ∧
      ¬ dependencyMarker <:+: imported ∧
      ¬ dependencyMarker <:+: containing ∧
      (FileRole.classify imported.withoutExtension).isGenerated = false ∧
      Contains layout.basePath.path layout.genDir.path ∧
      join (layout.emitPath containing).dirname
        [layout.specifierOf imported containing]
        ≠ normalize imported.withoutExtension := by
  decide +kernel

end Layout
end BuildHost
