import BuildHost.Proofs.Layout.Apart

/-!
# Where the spelling of a path matters

A spelling of which the same is read as of the normal form has the same
specifiers.  For every other spelling there is a directory of generated files,
and a file, for which the specifiers differ (`specifierOf_normalize`).
-/

namespace BuildHost
namespace Layout

open BuildHost.Path

variable {layout : Layout} {p q : Path}

/-! ## Files on drives of their own -/

/-- A file at the root of a drive. -/
def driveFile (letter : Char) : Path :=
  render (.drive letter) ["f.ts".toList]

theorem isNormal_driveFile : ∀ letter ∈ driveLetters,
    IsNormal (driveFile letter) ∧ isRooted (driveFile letter) = true ∧
      view (driveFile letter) = (.drive letter, ["f.ts".toList]) ∧
      dependencyModule? (driveFile letter) = none := by
  simp only [driveLetters, List.forall_mem_cons, List.not_mem_nil,
    false_imp_iff, implies_true, and_true]
  decide

theorem isNormal_module_driveFile : ∀ letter ∈ driveLetters,
    IsNormal (driveFile letter).withoutExtension ∧
      view (driveFile letter).withoutExtension = (.drive letter, ["f".toList]) ∧
      FileRole.classify (driveFile letter).withoutExtension = .source ∧
      dependencyModule? (driveFile letter).withoutExtension = none := by
  simp only [driveLetters, List.forall_mem_cons, List.not_mem_nil,
    false_imp_iff, implies_true, and_true]
  decide

theorem readContaining_of_root_ne (hp : IsNormal p)
    (hmodule : dependencyModule? p = none)
    (hroot : (view p).1 ≠ (view layout.basePath.path).1) :
    layout.readContaining p = .inPlace := by
  have hcontains : ¬ Contains layout.basePath.path p := by
    intro hcontains
    rcases contains_iff.1 hcontains with ⟨rest, hrest⟩
    exact hroot (by rw [hrest])
  have hreplaced :=
    replaceRoot_eq_none layout.genDir.path hp layout.basePath.isNormal_path
      layout.basePath.isRooted_path hcontains
  rw [replaceRoot_eq_map layout.genDir.isNormal_path, Option.map_eq_none_iff]
    at hreplaced
  rw [readContaining, keptText?, hmodule, hreplaced]

theorem exists_destination_driveFile (layout : Layout) {letter : Char}
    (hletter : letter ∈ driveLetters)
    (hroot : .drive letter ≠ (view layout.basePath.path).1) :
    ∃ target, layout.destination (driveFile letter) = .place target ∧
      isRooted target = true ∧
      (view target).1 = .drive letter := by
  rcases isNormal_driveFile letter hletter with ⟨-, hr, -, -⟩
  rcases isNormal_module_driveFile letter hletter with
    ⟨hnormal, hview, hrole, hmodule⟩
  have hstays : layout.readContaining (driveFile letter).withoutExtension
      = .inPlace :=
    readContaining_of_root_ne hnormal hmodule (by rw [hview]; exact hroot)
  have hread : layout.readImported (driveFile letter) = .inPlace := by
    simp only [readImported, hrole, hstays, ite_self]
  rcases exists_destination_eq_place hr
    (fun module => by rw [hread]; exact Reading.noConfusion) with
    ⟨target, hdestination, htarget, hplace⟩
  refine ⟨target, hdestination, htarget, ?_⟩
  rw [hplace, hread, hview]
  rfl

/-- From a file on a drive where nothing else is, everything else is imported by
its whole path. -/
theorem exists_origin_apart (layout : Layout) (roots : List Root)
    (h : roots.length < 3) :
    ∃ containing, IsNormal containing ∧ isRooted containing = true ∧
      ∀ target, isRooted target = true → (view target).1 ∈ roots →
        (layout.origin containing).dotRelative target
          = here ++ separator :: normalize target := by
  rcases exists_driveLetter ((view layout.basePath.path).1 :: roots)
    (by rw [List.length_cons]; omega) with ⟨letter, hletter, hapart⟩
  rw [List.mem_cons, not_or] at hapart
  rcases isNormal_driveFile letter hletter with ⟨hnormal, hr, hview, hmodule⟩
  have hstays : layout.readContaining (driveFile letter) = .inPlace :=
    readContaining_of_root_ne hnormal hmodule (by rw [hview]; exact hapart.1)
  have hdir := view_dirname hnormal hr
    (by rw [hview]; exact List.cons_ne_nil _ _)
  refine ⟨driveFile letter, hnormal, hr, fun target htarget hmem => ?_⟩
  apply dotRelative_eq_here_append htarget
  rw [origin, moveToGenDir_of_inPlace hstays, hdir.2, hview]
  intro hroot
  rw [← hroot] at hmem
  exact hapart.2 hmem

/-! ## Spellings that matter -/

theorem view_origin_of_namesFile (layout : Layout) (hr : isRooted p = true)
    (hfile : NamesFile p) (hne : (view (layout.moveToGenDir p)).2 ≠ []) :
    isRooted (layout.origin p) = true ∧ view (layout.origin p)
      = ((view (layout.moveToGenDir p)).1,
        (view (layout.moveToGenDir p)).2.dropLast) := by
  unfold origin
  cases hread : layout.readContaining p with
  | named module => exact absurd hread readContaining_ne_named
  | moved way =>
      have hmoved := view_moveToGenDir_of_moved hread
      exact Path.view_dirname hmoved.1 hmoved.2.1 hne
  | inPlace =>
      rw [moveToGenDir_of_inPlace hread]
      exact view_dirname_of_namesFile hr hfile

/-- A containing file of which something else is read than of its normal form
imports some file by another specifier, for some directory of generated
files. -/
theorem exists_specifierOf_ne_of_readContaining (layout : Layout)
    (hr : isRooted p = true) (hfile : NamesFile p)
    (hbase : view p ≠ view layout.basePath.path)
    (h : layout.readContaining p ≠ layout.readContaining (normalize p)) :
    ∃ dir imported, IsNormal imported ∧ isRooted imported = true ∧
      (layout.withGenDir dir).specifierOf imported p
        ≠ (layout.withGenDir dir).specifierOf imported (normalize p) := by
  have hspelled := isRespelling_normalize hr hfile
  have hbasen : view (normalize p) ≠ view layout.basePath.path := by
    rw [view_normalize]
    exact hbase
  rcases exists_driveLetter [(view p).1, (view layout.basePath.path).1]
    (by simp only [List.length_cons, List.length_nil]; omega) with
    ⟨letter, hletter, hnotMem⟩
  rw [List.mem_cons, List.mem_singleton, not_or] at hnotMem
  rcases isNormal_driveFile letter hletter with ⟨hnormal, hfiler, -, -⟩
  rcases exists_apart hletter hr hfile hbase hnotMem.1 h with ⟨dir, -, hapart⟩
  -- the two directories that specifiers start in are apart as well
  have hmoved := (layout.withGenDir dir).view_moveToGenDir_ne_nil hr hfile hbase
  have hmovedn := (layout.withGenDir dir).view_moveToGenDir_ne_nil
    hspelled.isRooted_right hspelled.namesFile_right hbasen
  have horigin := (layout.withGenDir dir).view_origin_of_namesFile hr
    hfile hmoved
  have horiginn :=
    (layout.withGenDir dir).view_origin_of_namesFile hspelled.isRooted_right
      hspelled.namesFile_right hmovedn
  have hdirs := hapart.dropLast hmoved hmovedn
  rw [← horigin.2, ← horiginn.2] at hdirs
  rcases exists_destination_driveFile (layout.withGenDir dir) hletter
    hnotMem.2 with
    ⟨target, hdestination, htarget, hroot⟩
  refine ⟨dir, driveFile letter, hnormal, hfiler, ?_⟩
  rw [specifierOf_eq_spelledFrom, specifierOf_eq_spelledFrom, hdestination]
  exact hdirs.dotRelative_ne horigin.1 horiginn.1 htarget hroot

/-! ## Imported files -/

theorem readImported_of_generated {imported : Path}
    (h : isGeneratedFile imported.withoutExtension = true) :
    layout.readImported imported
      = layout.readContaining imported.withoutExtension := by
  simp only [readImported, FileRole.classify, h, if_true]

theorem readImported_of_not_generated (layout : Layout) {imported : Path}
    (h : isGeneratedFile imported.withoutExtension = false) :
    layout.readImported imported
      = match dependencyModule? imported.withoutExtension with
        | some module => .named module
        | none =>
          if layout.genDirInsideBasePath then .inPlace
          else layout.readContaining imported.withoutExtension := by
  simp only [readImported, FileRole.classify, h, Bool.false_eq_true, if_false]
  cases dependencyModule? imported.withoutExtension with
  | none => cases isDeclarationFile imported.withoutExtension <;> rfl
  | some module => cases isDeclarationFile imported.withoutExtension <;> rfl

theorem withoutExtension_normalize {imported : Path}
    (hr : isRooted imported = true) (hfile : NamesFile imported)
    (hmodule : NamesFile imported.withoutExtension) :
    (normalize imported).withoutExtension
      = normalize imported.withoutExtension := by
  have hspelled := isRespelling_normalize hr hfile
  rcases hfile with ⟨front, name, hp, hname⟩
  have hlast : IsPlain (Path.withoutExtension name) := by
    rcases hmodule with ⟨other, last, hstem, hlast⟩
    have hsep : separator ∉ Path.withoutExtension name :=
      fun hmem =>
        hname.separator_notMem ((isPrefix_withoutExtension name).subset hmem)
    rw [← withoutExtension_normalizeSeparators, hp,
      withoutExtension_append_separator] at hstem
    have hsame := congrArg lastSegment hstem
    rw [lastSegment_append_separator _ hsep,
      lastSegment_append_separator _ hlast.separator_notMem] at hsame
    rw [hsame]
    exact hlast
  have hnormal : IsNormal (normalize imported) := normalize_normalize imported
  have hview := (view_normalize imported).trans
    (view_of_eq_front_append hr hp hname)
  have hstem := view_withoutExtension hnormal hspelled.isRooted_right
    hview hlast
  apply eq_of_view_eq hstem.1 (normalize_normalize _)
    (isRooted_withoutExtension hspelled.isRooted_right)
    (isRooted_normalize (isRooted_withoutExtension hr))
  rw [view_normalize, hspelled.view_withoutExtension_eq]

theorem exists_specifierOf_ne_of_places {imported other target goal : Path}
    (himported : layout.destination imported = .place target)
    (hother : layout.destination other = .place goal)
    (htarget : isRooted target = true) (hgoal : isRooted goal = true)
    (hne : view target ≠ view goal) :
    ∃ containing, IsNormal containing ∧ isRooted containing = true ∧
      layout.specifierOf imported containing
        ≠ layout.specifierOf other containing := by
  rcases layout.exists_origin_apart [(view target).1, (view goal).1]
    (by simp only [List.length_cons, List.length_nil]; omega) with
    ⟨containing, hnormal, hr, hspelled⟩
  refine ⟨containing, hnormal, hr, ?_⟩
  rw [specifierOf_eq_spelledFrom, specifierOf_eq_spelledFrom, himported, hother]
  simp only [Destination.spelledFrom]
  rw [hspelled target htarget (by simp), hspelled goal hgoal (by simp)]
  intro heq
  have hsame := congrArg view (List.cons.inj (List.append_cancel_left heq)).2
  rw [view_normalize, view_normalize] at hsame
  exact hne hsame

theorem exists_specifierOf_ne_of_name {imported other module goal : Path}
    (himported : layout.destination imported = .name module)
    (hother : layout.destination other = .place goal)
    (hgoal : isRooted goal = true)
    (hne : module ≠ here ++ separator :: normalize goal) :
    ∃ containing, IsNormal containing ∧ isRooted containing = true ∧
      layout.specifierOf imported containing
        ≠ layout.specifierOf other containing := by
  rcases layout.exists_origin_apart [(view goal).1]
    (by rw [List.length_singleton]; omega) with
    ⟨containing, hnormal, hr, hspelled⟩
  refine ⟨containing, hnormal, hr, ?_⟩
  rw [specifierOf_eq_spelledFrom, specifierOf_eq_spelledFrom, himported, hother]
  simp only [Destination.spelledFrom]
  rw [hspelled goal hgoal (by simp)]
  exact hne

theorem exists_specifierOf_ne_of_names {imported other module goal : Path}
    (himported : layout.destination imported = .name module)
    (hother : layout.destination other = .name goal) (hne : module ≠ goal) :
    ∃ containing, IsNormal containing ∧ isRooted containing = true ∧
      layout.specifierOf imported containing
        ≠ layout.specifierOf other containing := by
  rcases layout.exists_origin_apart [] (by decide) with
    ⟨containing, hnormal, hr, -⟩
  refine ⟨containing, hnormal, hr, ?_⟩
  rw [specifierOf_eq_spelledFrom, specifierOf_eq_spelledFrom, himported, hother]
  exact hne

/-- A name that starts with a dot and the whole path of a file leads through the
dependency folder. -/
theorem dependencyMarker_infix_of_module {target : Path} {module : Path}
    (hr : isRooted p = true) (hmodule : dependencyModule? p = some module)
    (htarget : isRooted target = true) (hne : (view target).2 ≠ [])
    (h : module = here ++ separator :: normalize target) :
    dependencyMarker <:+: normalize p := by
  rcases exists_eq_of_dependencyModule? hmodule with ⟨before, hp⟩
  have hdir : isRooted (before ++ [separator]) = true :=
    isRooted_append_separator_of_cons (hp ▸ hr)
  have hfolder : isRooted (before ++ separator :: dependencyFolder) = true := by
    simpa using isRooted_append hdir dependencyFolder
  have hview : (view (normalize p)).2 = (view (before ++ [separator])).2
      ++ dependencyFolder :: ((view target).1.segments ++ (view target).2) := by
    have hsplit : p
        = (before ++ separator :: dependencyFolder) ++ separator :: module := by
      rw [hp]
      simp
    rw [view_normalize, hsplit, view_append_separator hfolder,
      ← view_join hfolder, h, view_join_here hfolder,
      view_join_normalize hfolder htarget,
      view_front_append_of_isPlain hdir (by decide)]
    simp
  apply dependencyMarker_infix_of_view (normalize_normalize p)
    (isRooted_normalize hr) hview
  simp [hne]

theorem ne_here_append_of_normalize_eq_none {target : Path} {module : Path}
    (hr : isRooted p = true) (hmodule : dependencyModule? p = some module)
    (hnone : dependencyModule? (normalize p) = none)
    (htarget : isRooted target = true) (hne : (view target).2 ≠ []) :
    module ≠ here ++ separator :: normalize target := by
  intro heq
  have hmarker := dependencyMarker_infix_of_module hr hmodule htarget hne heq
  rcases exists_dependencyModule?_of_infix hmarker with ⟨other, hsome⟩
  rw [hnone] at hsome
  cases hsome

theorem ne_here_append_of_isNormal {module : Path} (hp : IsNormal p)
    (hr : isRooted p = true) (hmodule : dependencyModule? p = some module)
    (target : Path) : module ≠ here ++ separator :: target := by
  rintro rfl
  have hplain := isPlain_of_dependencyModule? hp hr hmodule
  have hhere : here.splitOn separator = [here] :=
    List.splitOn_eq_singleton (by decide)
  rw [List.splitOn_append_cons_self, hhere] at hplain
  exact (hplain here List.mem_cons_self).ne_here rfl

theorem exists_destination_of_not_named (layout : Layout) {imported : Path}
    (hr : isRooted imported = true)
    (hrole : isGeneratedFile imported.withoutExtension = false)
    (hmodule : dependencyModule? imported.withoutExtension = none) :
    ∃ target, layout.destination imported = .place target ∧
      isRooted target = true ∧
      view target = (if layout.genDirInsideBasePath then Reading.inPlace
        else layout.readContaining imported.withoutExtension).placeIn layout
          (view imported.withoutExtension) := by
  have hread := readImported_of_not_generated layout hrole
  simp only [hmodule] at hread
  rw [← hread]
  apply exists_destination_eq_place hr
  intro module
  rw [hread]
  split
  · exact Reading.noConfusion
  · exact readContaining_ne_named

theorem placeIn_ne_nil (layout : Layout) (hr : isRooted p = true)
    (hfile : NamesFile p) (hbase : view p ≠ view layout.basePath.path) :
    ((if layout.genDirInsideBasePath then Reading.inPlace
      else layout.readContaining p).placeIn layout (view p)).2 ≠ [] := by
  split
  · exact hfile.view_ne_nil hr
  · rw [← view_moveToGenDir_eq_placeIn]
    exact layout.view_moveToGenDir_ne_nil hr hfile hbase

theorem IsRespelling.isGeneratedFile_eq (h : IsRespelling p q) :
    isGeneratedFile p = isGeneratedFile q := by
  have hplain : ∀ ending ∈ generatedExtensions, separator ∉ ending ∧
      '\\' ∉ ending := by
    decide
  rw [Bool.eq_iff_iff, isGeneratedFile, isGeneratedFile, List.any_eq_true,
    List.any_eq_true]
  refine exists_congr fun ending => and_congr_right fun hmem => ?_
  rw [h.isSuffixOf_eq (hplain ending hmem).1 (hplain ending hmem).2]

theorem genDirInsideBasePath_of_root_ne
    (h : (view layout.genDir.path).1 ≠ (view layout.basePath.path).1) :
    layout.genDirInsideBasePath = false := by
  rw [genDirInsideBasePath, Bool.eq_false_iff]
  intro hwithin
  rcases contains_iff.1
    (contains_of_isWithin layout.genDir.isRooted_path hwithin) with
    ⟨rest, hrest⟩
  exact h (by rw [hrest])

section Imported

variable {imported : Path} (hr : isRooted imported = true)
  (hfile : NamesFile imported) (hmodule : NamesFile imported.withoutExtension)

include hr hfile hmodule

theorem exists_specifierOf_ne_of_moved (layout : Layout)
    (hbase : view imported.withoutExtension ≠ view layout.basePath.path)
    (hread : ∀ dir : Directory,
      (view dir.path).1 ≠ (view layout.basePath.path).1 →
      (layout.withGenDir dir).readImported imported
          = layout.readContaining imported.withoutExtension ∧
        (layout.withGenDir dir).readImported (normalize imported)
          = layout.readContaining (normalize imported).withoutExtension)
    (h : layout.readContaining imported.withoutExtension
      ≠ layout.readContaining (normalize imported).withoutExtension) :
    ∃ dir containing, IsNormal containing ∧ isRooted containing = true ∧
      (layout.withGenDir dir).specifierOf imported containing
        ≠ (layout.withGenDir dir).specifierOf (normalize imported)
          containing := by
  have hstem := isRooted_withoutExtension hr
  have hnormal := withoutExtension_normalize hr hfile hmodule
  rcases exists_driveLetter
    [(view imported.withoutExtension).1, (view layout.basePath.path).1]
    (by simp only [List.length_cons, List.length_nil]; omega) with
    ⟨letter, hletter, hnotMem⟩
  rw [List.mem_cons, List.mem_singleton, not_or] at hnotMem
  rw [hnormal] at h
  rcases exists_apart hletter hstem hmodule hbase hnotMem.1 h with
    ⟨dir, hdir, hapart⟩
  rcases hread dir (by rw [hdir]; exact hnotMem.2) with ⟨hi, hn⟩
  rcases exists_destination_eq_place hr
    (fun module => by rw [hi]; exact readContaining_ne_named) with
    ⟨target, hdestination, htarget, hplace⟩
  rcases exists_destination_eq_place (isRooted_normalize hr)
    (fun module => by rw [hn]; exact readContaining_ne_named) with
    ⟨goal, hgoal, hgoalr, hgoalplace⟩
  have hne : view target ≠ view goal := by
    rw [hplace, hgoalplace, hi, hn, hnormal]
    rw [view_moveToGenDir_eq_placeIn, view_moveToGenDir_eq_placeIn] at hapart
    exact hapart.ne
  rcases exists_specifierOf_ne_of_places hdestination hgoal htarget hgoalr
    hne with
    ⟨containing, hcontaining⟩
  exact ⟨dir, containing, hcontaining⟩

theorem exists_specifierOf_ne_of_dependencyModule (layout : Layout)
    (hrole : isGeneratedFile imported.withoutExtension = false)
    (hbase : view imported.withoutExtension ≠ view layout.basePath.path)
    (h : dependencyModule? imported.withoutExtension
      ≠ dependencyModule? (normalize imported).withoutExtension) :
    ∃ containing, IsNormal containing ∧ isRooted containing = true ∧
      layout.specifierOf imported containing
        ≠ layout.specifierOf (normalize imported) containing := by
  have hstem := isRooted_withoutExtension hr
  have hspelled := isRespelling_normalize hstem hmodule
  have hnormal := withoutExtension_normalize hr hfile hmodule
  have hrolen : isGeneratedFile (normalize imported).withoutExtension
      = false := by
    rw [hnormal, ← IsRespelling.isGeneratedFile_eq hspelled, hrole]
  have hi := readImported_of_not_generated layout hrole
  have hn := readImported_of_not_generated layout hrolen
  cases hdependency : dependencyModule? imported.withoutExtension with
  | some module =>
      rw [hdependency] at hi
      cases hother : dependencyModule?
        (normalize imported).withoutExtension with
      | some other =>
          rw [hother] at hn
          apply exists_specifierOf_ne_of_names (destination_of_named hi)
            (destination_of_named hn)
          rintro rfl
          exact h (hdependency.trans hother.symm)
      | none =>
          rcases exists_destination_of_not_named layout
            (isRooted_normalize hr) hrolen hother with
            ⟨goal, hdestination, hgoal, hplace⟩
          have hne : (view goal).2 ≠ [] := by
            rw [hplace, hnormal]
            apply placeIn_ne_nil layout hspelled.isRooted_right
              hspelled.namesFile_right
            rw [view_normalize]
            exact hbase
          rw [hnormal] at hother
          have hapart := ne_here_append_of_normalize_eq_none hstem hdependency
            hother hgoal hne
          exact exists_specifierOf_ne_of_name (destination_of_named hi)
            hdestination hgoal hapart
  | none =>
      cases hother : dependencyModule?
        (normalize imported).withoutExtension with
      | none => exact absurd (hdependency.trans hother.symm) h
      | some other =>
          rw [hother] at hn
          rcases exists_destination_of_not_named layout hr hrole
            hdependency with
            ⟨target, hdestination, htarget, -⟩
          have hapart :=
            ne_here_append_of_isNormal (hnormal ▸ normalize_normalize _)
              (hnormal ▸ hspelled.isRooted_right) hother (normalize target)
          rcases exists_specifierOf_ne_of_name (destination_of_named hn)
            hdestination htarget hapart with
            ⟨containing, hcontaining, hcr, hspecifier⟩
          exact ⟨containing, hcontaining, hcr, hspecifier.symm⟩

/-- An imported file of which something else is read than of its normal form is
imported by another specifier from some file, for some directory of generated
files. -/
theorem exists_specifierOf_ne_of_readImported (layout : Layout)
    (hbase : view imported.withoutExtension ≠ view layout.basePath.path)
    (h : layout.readImported imported
      ≠ layout.readImported (normalize imported)) :
    ∃ dir containing, IsNormal containing ∧ isRooted containing = true ∧
      (layout.withGenDir dir).specifierOf imported containing
        ≠ (layout.withGenDir dir).specifierOf (normalize imported)
          containing := by
  have hstem := isRooted_withoutExtension hr
  have hspelled := isRespelling_normalize hstem hmodule
  have hnormal := withoutExtension_normalize hr hfile hmodule
  have hgenerated := IsRespelling.isGeneratedFile_eq hspelled
  rw [← hnormal] at hgenerated
  cases hrole : isGeneratedFile imported.withoutExtension with
  | true =>
      rw [hrole] at hgenerated
      rw [readImported_of_generated hrole,
        readImported_of_generated hgenerated.symm] at h
      refine exists_specifierOf_ne_of_moved hr hfile hmodule layout hbase
        (fun dir _ => ?_) h
      exact ⟨readImported_of_generated hrole,
        readImported_of_generated hgenerated.symm⟩
  | false =>
      rw [hrole] at hgenerated
      have hi := fun layout => readImported_of_not_generated layout hrole
      have hn := fun layout =>
        readImported_of_not_generated layout hgenerated.symm
      by_cases hdependency : dependencyModule? imported.withoutExtension
          = dependencyModule? (normalize imported).withoutExtension
      · rw [hi, hn, ← hdependency] at h
        cases hsome : dependencyModule? imported.withoutExtension with
        | some module => simp [hsome] at h
        | none =>
            cases hinside : layout.genDirInsideBasePath with
            | true => simp [hsome, hinside] at h
            | false =>
                simp only [hsome, hinside, Bool.false_eq_true, if_false] at h
                refine exists_specifierOf_ne_of_moved hr hfile hmodule
                  layout hbase (fun dir hdir => ?_) h
                have houtside : (layout.withGenDir dir).genDirInsideBasePath
                    = false :=
                  genDirInsideBasePath_of_root_ne hdir
                rw [hi, hn, ← hdependency, hsome]
                simp only [houtside, Bool.false_eq_true, if_false]
                exact ⟨rfl, rfl⟩
      · exact ⟨layout.genDir,
          exists_specifierOf_ne_of_dependencyModule hr hfile hmodule
            layout hrole
          hbase hdependency⟩

end Imported

/-! ## Paths and their normal forms -/

/-- How paths are spelled makes no difference to a specifier when the same is
read of both and of their normal forms.  Where something else is read, it does,
for some directory of generated files. -/
theorem specifierOf_normalize (layout : Layout) :
    (∀ imported containing, isRooted imported = true →
      isRooted containing = true →
      NamesFile imported → NamesFile containing →
      layout.readImported imported = layout.readImported (normalize imported) →
      layout.readContaining containing
        = layout.readContaining (normalize containing) →
        layout.specifierOf imported containing
          = layout.specifierOf (normalize imported) (normalize containing)) ∧
    (∀ containing, isRooted containing = true → NamesFile containing →
      view containing ≠ view layout.basePath.path →
      layout.readContaining containing
        ≠ layout.readContaining (normalize containing) →
        ∃ dir imported, IsNormal imported ∧ isRooted imported = true ∧
          (layout.withGenDir dir).specifierOf imported containing
            ≠ (layout.withGenDir dir).specifierOf imported
              (normalize containing)) ∧
    ∀ imported, isRooted imported = true → NamesFile imported →
      NamesFile imported.withoutExtension →
      view imported.withoutExtension ≠ view layout.basePath.path →
      layout.readImported imported ≠ layout.readImported (normalize imported) →
        ∃ dir containing, IsNormal containing ∧ isRooted containing = true ∧
          (layout.withGenDir dir).specifierOf imported containing
            ≠ (layout.withGenDir dir).specifierOf (normalize imported)
              containing := by
  refine ⟨?_, ?_, ?_⟩
  · intro imported containing hir hcr hifile hcfile hi hc
    exact specifierOf_congr (isRespelling_normalize hir hifile)
      (isRespelling_normalize hcr hcfile) hi hc
  · intro containing hr hfile hbase h
    exact layout.exists_specifierOf_ne_of_readContaining hr hfile hbase h
  · intro imported hr hfile hmodule hbase h
    exact exists_specifierOf_ne_of_readImported hr hfile hmodule layout hbase h

/-- Dots, repeated separators and backslashes behind the base path are not read,
and dots in front of it are. -/
theorem specifierOf_normalize_outsideLayout :
    let layout := outsideLayout []
    let imported : Path := "/p/x/..//a.ts".toList
    let containing : Path := "/p/./b\\c.ts".toList
    let hidden : Path := "/./p/c.ts".toList
    layout.specifierOf imported containing
        = layout.specifierOf (normalize imported) (normalize containing) ∧
      layout.specifierOf imported containing = "../a".toList ∧
      (∃ dir imported, IsNormal imported ∧ isRooted imported = true ∧
        (layout.withGenDir dir).specifierOf imported hidden
          ≠ (layout.withGenDir dir).specifierOf imported (normalize hidden)) ∧
      ∃ dir containing, IsNormal containing ∧ isRooted containing = true ∧
        (layout.withGenDir dir).specifierOf hidden containing
          ≠ (layout.withGenDir dir).specifierOf
            (normalize hidden) containing := by
  intro layout imported containing hidden
  have hifile : NamesFile imported :=
    ⟨"/p/x/../".toList, "a.ts".toList, by decide, by decide⟩
  have hcfile : NamesFile containing :=
    ⟨"/p/./b".toList, "c.ts".toList, by decide, by decide⟩
  have hhfile : NamesFile hidden :=
    ⟨"/./p".toList, "c.ts".toList, by decide, by decide⟩
  have hmodule : NamesFile (withoutExtension hidden) :=
    ⟨"/./p".toList, "c".toList, by decide, by decide⟩
  rcases layout.specifierOf_normalize with ⟨hsame, hcontaining, himported⟩
  refine ⟨?_, by decide +kernel, ?_, ?_⟩
  · exact hsame imported containing (by decide) (by decide) hifile hcfile
      (by decide +kernel) (by decide +kernel)
  · exact hcontaining hidden (by decide) hhfile (by decide +kernel)
      (by decide +kernel)
  · exact himported hidden (by decide) hhfile hmodule (by decide +kernel)
      (by decide +kernel)

/-- What hides the base path in the text of a containing file changes the
specifier. -/
theorem specifierOf_ne_of_hiddenBasePath :
    let layout := outsideLayout []
    let imported : Path := "/p/a.ts".toList
    let containing : Path := "/./p/c.ts".toList
    isRooted imported = true ∧ isRooted containing = true ∧ NamesFile imported ∧
      NamesFile containing ∧
      layout.specifierOf imported containing
        ≠ layout.specifierOf (normalize imported) (normalize containing) := by
  refine ⟨by decide, by decide,
    ⟨"/p".toList, "a.ts".toList, by decide, by decide⟩,
    ⟨"/./p".toList, "c.ts".toList, by decide, by decide⟩, ?_⟩
  decide +kernel

end Layout
end BuildHost