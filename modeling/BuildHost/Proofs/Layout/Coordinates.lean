import BuildHost.Proofs.Layout.Relocation
import BuildHost.Proofs.Path.Origin
import BuildHost.Proofs.Resolution.Among

/-!
# Coordinates of containing files

A specifier starts in the directory that its containing file is moved to.  A
file that is named by its place among generated files is moved like any other
path: it stays where it is unless a dependency folder is on the way to it or the
base path contains it (`MovesAgain`).  Where it moves again, no specifier for a
place below the same root is the same from both of its names
(`specifierOf_moveToGenDir_eq_iff`).
-/

namespace BuildHost
namespace Layout

open BuildHost.Path

variable {layout : Layout} {containing : Path}

/-! ## What a specifier depends on -/

/-- What a file is imported by. -/
inductive Destination where
  /-- The name of a package, or of a file of one. -/
  | name (specifier : Path)
  /-- The way to a place. -/
  | place (target : Path)

def destination (layout : Layout) (imported : Path) : Destination :=
  let imported := imported.withoutExtension
  match FileRole.classify imported with
  | .generated (some module) =>
    .place (layout.genDir.path.join [dependencyFolder, module])
  | .generated none => .place (layout.moveToGenDir imported)
  | .declaration (some module) | .dependency module => .name module
  | .declaration none | .source =>
    let imported :=
      if layout.genDirInsideBasePath then imported
      else layout.replaceBasePath imported
    if isShallowImport imported then .name imported else .place imported

def Destination.spelledFrom (source : Path) : Destination → Path
  | .name specifier => specifier
  | .place target => source.dotRelative target

/-- The directory that the specifiers of a containing file start in. -/
def origin (layout : Layout) (containing : Path) : Path :=
  (layout.moveToGenDir containing).dirname

theorem specifierOf_eq_spelledFrom (layout : Layout)
    (imported containing : Path) :
    layout.specifierOf imported containing
      = (layout.destination imported).spelledFrom
        (layout.origin containing) := by
  have hshallow : ∀ p : Path,
      (if isShallowImport p then p
        else (layout.origin containing).dotRelative p)
        = (if isShallowImport p then Destination.name p
          else .place p).spelledFrom
            (layout.origin containing) := by
    intro p
    split <;> rfl
  simp only [specifierOf, destination]
  cases FileRole.classify imported.withoutExtension with
  | source => exact hshallow _
  | generated dependency => cases dependency <;> rfl
  | declaration dependency =>
      cases dependency with
      | none => exact hshallow _
      | some module => rfl
  | dependency module => rfl

theorem specifierOf_eq_iff (layout : Layout)
    (imported containing other : Path) :
    layout.specifierOf imported containing = layout.specifierOf imported other ↔
      ∀ target, layout.destination imported = .place target →
        (layout.origin containing).dotRelative target
          = (layout.origin other).dotRelative target := by
  rw [specifierOf_eq_spelledFrom, specifierOf_eq_spelledFrom]
  cases layout.destination imported with
  | name specifier => simp [Destination.spelledFrom]
  | place target => simp [Destination.spelledFrom]

/-! ## Files that move again -/

/-- Whether moving a path onto the root of the file system leaves it in its
directory, since that root is its own directory. -/
def StaysAtRoot (layout : Layout) (containing : Path) : Prop :=
  layout.genDir.path = Root.slash.text ∧
    layout.moveToGenDir containing = layout.basePath.path ∧
    (view layout.basePath.path).2.length = 1

/-- Whether the place of a file among generated files is taken for one of a
dependency or for a source, and is moved to another directory. -/
def MovesAgain (layout : Layout) (containing : Path) : Prop :=
  dependencyFolder ∈ (view layout.genDir.path).2 ∨
    (layout.genDir ≠ layout.basePath ∧
      Contains layout.basePath.path (layout.moveToGenDir containing) ∧
      ¬ layout.StaysAtRoot containing)

instance (layout : Layout) (containing : Path) :
    Decidable (layout.StaysAtRoot containing) :=
  inferInstanceAs (Decidable (_ ∧ _ ∧ _))

instance (layout : Layout) (containing : Path) :
    Decidable (layout.MovesAgain containing) :=
  inferInstanceAs (Decidable (_ ∨ (_ ∧ _ ∧ _)))

theorem keptSegments_isSuffix (base : Path) {p : Path} (hp : IsNormal p)
    (hr : Path.isRooted p = true) : keptSegments base p <:+ (view p).2 := by
  rw [keptSegments]
  split
  next module hmodule =>
    rcases exists_view_of_dependencyModule? hp hr hmodule with ⟨before, hview⟩
    rw [hview]
    exact List.suffix_append before _
  next => exact List.drop_suffix _ _

theorem view_origin {p : Path} (hp : IsNormal p) (hr : Path.isRooted p = true)
    (hplace : IsBelow p layout.basePath.path ∨ dependencyMarker <:+: p) :
    Path.isRooted (layout.origin p) = true ∧
      view (layout.origin p) = ((view layout.genDir.path).1,
        (view layout.genDir.path).2
          ++ (keptSegments layout.basePath.path p).dropLast) := by
  rcases view_moveToGenDir hp hr hplace with ⟨hne, hnormal, hrooted, hview⟩
  exact ⟨(view_dirname hnormal hrooted (by rw [hview]; simp [hne])).1,
    view_dirname_moveToGenDir_kept hp hr hplace⟩

theorem origin_basePath (h : dependencyModule? layout.basePath.path = none) :
    layout.origin layout.basePath.path = layout.genDir.path.dirname := by
  rw [origin, moveToGenDir, h]
  simp only [replaceBasePath]
  rw [replaceRoot, if_pos rfl]
  rfl

/-- The directory around one has another depth than those of what lies in it,
but for the root, which is around itself, and a drive, which has the directory
of a relative path around it. -/
theorem dirname_length_ne (dir : Directory) {segments : List Path}
    (hne : segments ≠ [])
    (h : ¬ (dir.path = Root.slash.text ∧ segments.length = 1)) :
    (Path.isRooted dir.path.dirname = true ∧
      (view dir.path).1 = (view dir.path.dirname).1 ∧
        ((view dir.path).2 ++ segments.dropLast).length
          ≠ (view dir.path.dirname).2.length) ∨
    ∃ letter, (view dir.path).1 = .drive letter ∧ dir.path.dirname = here := by
  have hpos := List.length_pos_of_ne_nil hne
  by_cases hroot : (view dir.path).2 = []
  · rcases dirname_of_view_eq_nil dir.isNormal_path dir.isRooted_path hroot with
      ⟨hslash, hdirname⟩ | hdrive
    · have hlength : segments.length ≠ 1 := fun hone => h ⟨hslash, hone⟩
      refine .inl
        ⟨by rw [hdirname]; exact dir.isRooted_path, by rw [hdirname], ?_⟩
      rw [hdirname, hroot, List.nil_append, List.length_dropLast,
        List.length_nil]
      omega
    · exact .inr hdrive
  · have hdir := view_dirname dir.isNormal_path dir.isRooted_path hroot
    have hposDir := List.length_pos_of_ne_nil hroot
    refine .inl ⟨hdir.1, by rw [hdir.2], ?_⟩
    rw [hdir.2, List.length_append, List.length_dropLast, List.length_dropLast]
    omega

section Project

variable (hcontaining : IsNormal containing)
  (hbelow : IsBelow containing layout.basePath.path)
  (hmarker : ¬ dependencyMarker <:+: containing)

include hcontaining hbelow hmarker

theorem dependencyMarker_infix_moveToGenDir_iff :
    dependencyMarker <:+: layout.moveToGenDir containing ↔
      dependencyFolder ∈ (view layout.genDir.path).2 := by
  have hr := hbelow.isRooted hcontaining layout.basePath.isRooted_path
  rcases view_moveToGenDir hcontaining hr (.inl hbelow) with
    ⟨hne, hnormal, hrooted, hview⟩
  have hclean : ∀ front after, after ≠ [] →
      keptSegments layout.basePath.path containing
        ≠ front ++ dependencyFolder :: after := by
    intro front after hafter hkept
    rcases keptSegments_isSuffix layout.basePath.path hcontaining hr with
      ⟨before, hbefore⟩
    rw [hkept, ← List.append_assoc] at hbefore
    exact hmarker
      (dependencyMarker_infix_of_view hcontaining hr hbefore.symm hafter)
  constructor
  · intro hinfix
    rcases exists_dependencyModule?_of_infix hinfix with ⟨module, hmodule⟩
    rcases exists_view_of_dependencyModule? hnormal hrooted hmodule with
      ⟨before, hbefore⟩
    have hafter := List.splitOn_ne_nil separator module
    rw [hview] at hbefore
    rcases List.append_eq_append_iff.1 hbefore with
      ⟨front, -, hkept⟩ | ⟨front, hgen, hkept⟩
    · exact absurd hkept (hclean front _ hafter)
    · cases front with
      | nil => exact absurd hkept.symm (hclean [] _ hafter)
      | cons first rest =>
          rw [hgen, (List.cons.inj hkept).1]
          simp
  · intro hmem
    rcases List.append_of_mem hmem with ⟨before, after, hgen⟩
    have hsplit : (view (layout.moveToGenDir containing)).2
        = before ++ dependencyFolder :: (after
          ++ keptSegments layout.basePath.path containing) := by
      rw [hview, hgen]
      simp
    exact dependencyMarker_infix_of_view hnormal hrooted hsplit (by simp [hne])

theorem length_keptSegments_moveToGenDir_ne
    (h : dependencyFolder ∈ (view layout.genDir.path).2 ∨
      (layout.genDir ≠ layout.basePath ∧
        Contains layout.basePath.path (layout.moveToGenDir containing))) :
    (keptSegments layout.basePath.path containing).length
      ≠ (keptSegments layout.basePath.path
        (layout.moveToGenDir containing)).length := by
  have hr := hbelow.isRooted hcontaining layout.basePath.isRooted_path
  rcases view_moveToGenDir hcontaining hr (.inl hbelow) with
    ⟨hne, hnormal, hrooted, hview⟩
  intro hlength
  have hsame : keptSegments layout.basePath.path containing
      = keptSegments layout.basePath.path (layout.moveToGenDir containing) := by
    have hfirst : keptSegments layout.basePath.path containing
        <:+ (view (layout.moveToGenDir containing)).2 := by
      rw [hview]
      exact List.suffix_append _ _
    have hagain := keptSegments_isSuffix layout.basePath.path hnormal hrooted
    exact (List.suffix_of_suffix_length_le hfirst hagain
      (Nat.le_of_eq hlength)).eq_of_length hlength
  cases hmodule : dependencyModule? (layout.moveToGenDir containing) with
  | some module =>
      rcases keptSegments_isSuffix layout.basePath.path hcontaining hr with
        ⟨before, hbefore⟩
      rw [hsame, keptSegments, hmodule] at hbefore
      exact hmarker (dependencyMarker_infix_of_view hcontaining hr hbefore.symm
        (List.splitOn_ne_nil separator module))
  | none =>
      rcases h with hmem | ⟨hdirs, hcontains⟩
      · have hinfix := (dependencyMarker_infix_moveToGenDir_iff hcontaining
          hbelow hmarker).2 hmem
        rcases exists_dependencyModule?_of_infix hinfix with ⟨module, hsome⟩
        rw [hmodule] at hsome
        cases hsome
      · rcases contains_iff.1 hcontains with ⟨rest, hrest⟩
        have hkept : keptSegments layout.basePath.path
            (layout.moveToGenDir containing) = rest := by
          rw [keptSegments, hmodule, hrest, List.drop_left]
        rw [hview, hsame, hkept, Prod.mk.injEq] at hrest
        have hsegments := List.append_cancel_right hrest.2
        exact hdirs (Directory.eq_of_view_eq (Prod.ext hrest.1 hsegments))

theorem view_origin_moveToGenDir_eq (h : ¬ layout.MovesAgain containing) :
    view (layout.origin (layout.moveToGenDir containing))
      = view (layout.origin containing) := by
  have hr := hbelow.isRooted hcontaining layout.basePath.isRooted_path
  rcases view_moveToGenDir hcontaining hr (.inl hbelow) with
    ⟨hne, hnormal, hrooted, hview⟩
  have hstart := (view_origin hcontaining hr (.inl hbelow)).2
  rw [MovesAgain, not_or] at h
  rcases h with ⟨hfolder, hstays⟩
  have hmodule : dependencyModule? (layout.moveToGenDir containing) = none := by
    apply dependencyModule?_eq_none
    rw [dependencyMarker_infix_moveToGenDir_iff hcontaining hbelow hmarker]
    exact hfolder
  by_cases hcontains : Contains layout.basePath.path
    (layout.moveToGenDir containing)
  · by_cases hdirs : layout.genDir = layout.basePath
    · have hbelowAgain : IsBelow (layout.moveToGenDir containing)
          layout.basePath.path :=
        ⟨_, hne, hdirs ▸ hview⟩
      have hkept : keptSegments layout.basePath.path
          (layout.moveToGenDir containing)
          = keptSegments layout.basePath.path containing := by
        rw [keptSegments, hmodule, hview, hdirs, List.drop_left]
      rw [(view_origin hnormal hrooted (.inl hbelowAgain)).2, hkept, hstart]
    · rcases not_not.1 fun hmoves =>
        hstays ⟨hdirs, hcontains, hmoves⟩ with ⟨hgen, hbase, hlength⟩
      have hroot : view layout.genDir.path = (.slash, []) := by
        rw [hgen]
        decide
      have hkept : (keptSegments layout.basePath.path containing).dropLast
          = [] := by
        rw [hroot, hbase, List.nil_append] at hview
        rw [hview] at hlength
        exact List.eq_nil_of_length_eq_zero
          (by rw [List.length_dropLast, hlength])
      rw [hbase] at hmodule ⊢
      rw [origin_basePath hmodule, hstart, hkept, hroot, hgen]
      decide
  · rw [origin, moveToGenDir_of_not_contains hnormal hmodule hcontains]
    rfl

/-- A file that moves again is imported from a directory of another depth, or
from the directory of a drive, which is spelled like the one of a relative
path. -/
theorem origin_moveToGenDir_of_movesAgain (h : layout.MovesAgain containing) :
    (Path.isRooted (layout.origin (layout.moveToGenDir containing)) = true ∧
      (view (layout.origin containing)).1
        = (view (layout.origin (layout.moveToGenDir containing))).1 ∧
      (view (layout.origin containing)).2.length
        ≠ (view (layout.origin (layout.moveToGenDir containing))).2.length) ∨
    ∃ letter, (view (layout.origin containing)).1 = .drive letter ∧
      layout.origin (layout.moveToGenDir containing) = here := by
  have hr := hbelow.isRooted hcontaining layout.basePath.isRooted_path
  rcases view_moveToGenDir hcontaining hr (.inl hbelow) with
    ⟨hne, hnormal, hrooted, hview⟩
  have hstart := (view_origin hcontaining hr (.inl hbelow)).2
  by_cases hplace :
    IsBelow (layout.moveToGenDir containing) layout.basePath.path ∨
      dependencyMarker <:+: layout.moveToGenDir containing
  · have hpos := List.length_pos_of_ne_nil hne
    have hagain := view_origin hnormal hrooted hplace
    have hposAgain :=
      List.length_pos_of_ne_nil (view_moveToGenDir hnormal hrooted hplace).1
    have hlength := length_keptSegments_moveToGenDir_ne hcontaining
      hbelow hmarker (h.imp_right fun hmoves => ⟨hmoves.1, hmoves.2.1⟩)
    refine .inl ⟨hagain.1, by rw [hstart, hagain.2], ?_⟩
    rw [hstart, hagain.2]
    simp only [List.length_append, List.length_dropLast]
    omega
  · rw [not_or] at hplace
    rcases h with hfolder | ⟨-, hcontains, hstays⟩
    · exact absurd
        ((dependencyMarker_infix_moveToGenDir_iff hcontaining hbelow hmarker).2
          hfolder)
        hplace.2
    · -- the file is moved onto the base path, and from there to the directory
      -- of generated files
      have hsame : view (layout.moveToGenDir containing)
          = view layout.basePath.path :=
        not_not.1 fun hdiffers => hplace.1 (isBelow_iff.2 ⟨hcontains, hdiffers⟩)
      have hbase := eq_of_view_eq hnormal layout.basePath.isNormal_path hrooted
        layout.basePath.isRooted_path hsame
      have hmodule := dependencyModule?_eq_none hplace.2
      have hlength : ¬ (layout.genDir.path = Root.slash.text ∧
          (keptSegments layout.basePath.path containing).length = 1) := by
        rintro ⟨hslash, hone⟩
        have hnil : (view layout.genDir.path).2 = [] := by
          rw [hslash]
          decide
        refine hstays ⟨hslash, hbase, ?_⟩
        rw [← hbase, hview, hnil, List.nil_append]
        exact hone
      rw [hbase] at hmodule
      rw [hbase, origin_basePath hmodule, hstart]
      exact dirname_length_ne layout.genDir hne hlength

end Project

/-! ## Specifiers from both names of a file -/

/-- A file of the project and its place among generated files import the same
file by the same specifier, unless the place moves again.  Then only what is
imported by name, or lies below another root, has the same specifier from
both. -/
theorem specifierOf_moveToGenDir_eq_iff (imported : Path)
    (hcontaining : IsNormal containing)
    (hbelow : IsBelow containing layout.basePath.path)
    (hmarker : ¬ dependencyMarker <:+: containing) :
    layout.specifierOf imported containing
        = layout.specifierOf imported (layout.moveToGenDir containing) ↔
      (layout.MovesAgain containing →
        ∀ target, layout.destination imported = .place target →
        (view target).1 ≠ (view (layout.origin containing)).1 ∧
          (view target).1
            ≠ (view (layout.origin (layout.moveToGenDir containing))).1) := by
  have hr := hbelow.isRooted hcontaining layout.basePath.isRooted_path
  have hrooted := (view_origin hcontaining hr (.inl hbelow)).1
  rw [specifierOf_eq_iff]
  by_cases hmoves : layout.MovesAgain containing
  · have hsame : ∀ target,
        (layout.origin containing).dotRelative target
            = (layout.origin
              (layout.moveToGenDir containing)).dotRelative target ↔
        (view target).1 ≠ (view (layout.origin containing)).1 ∧
          (view target).1
            ≠ (view (layout.origin (layout.moveToGenDir containing))).1 := by
      rcases origin_moveToGenDir_of_movesAgain hcontaining hbelow hmarker hmoves
        with ⟨hother, hroot, hlength⟩ | ⟨letter, hdrive, hhere⟩
      · exact dotRelative_eq_iff_of_length_ne hrooted hother hroot hlength
      · rw [hhere]
        exact dotRelative_eq_here_iff hrooted hdrive
    simp only [hsame, hmoves, true_imp_iff]
  · have hview := view_origin_moveToGenDir_eq hcontaining hbelow hmarker hmoves
    exact ⟨fun _ hagain => absurd hagain hmoves,
      fun _ target _ => dotRelative_congr hview.symm target⟩

/-- A layout that puts generated files around the sources. -/
def aroundLayout : Layout where
  basePath := projectDir
  genDir := ⟨"/".toList, by decide, by decide⟩
  rootDirs := []
  generateForLibraries := false

theorem specifierOf_moveToGenDir_eq_iff_aroundLayout :
    let layout := aroundLayout
    let imported : Path := "/p/b.ts".toList
    let containing : Path := "/p/a/c.ts".toList
    layout.moveToGenDir containing = "/a/c.ts".toList ∧
      layout.specifierOf imported containing
        = layout.specifierOf imported (layout.moveToGenDir containing) ∧
      layout.specifierOf imported containing = "../b".toList := by
  have hcontaining : IsNormal "/p/a/c.ts".toList := by decide +kernel
  have hbelow : IsBelow "/p/a/c.ts".toList projectDir.path := by decide +kernel
  have hstays : ¬ aroundLayout.MovesAgain "/p/a/c.ts".toList := by
    decide +kernel
  refine ⟨by decide +kernel, ?_, by decide +kernel⟩
  exact (specifierOf_moveToGenDir_eq_iff _ hcontaining hbelow
    (by decide +kernel)).2
    fun hagain => absurd hagain hstays

/-- Where generated files go among the sources, a place among them is moved once
more. -/
theorem specifierOf_moveToGenDir_ne_insideLayout :
    let layout := insideLayout
    let imported : Path := "/p/b.ts".toList
    let containing : Path := "/p/a.ts".toList
    IsNormal containing ∧ IsBelow containing layout.basePath.path ∧
      ¬ dependencyMarker <:+: containing ∧
      layout.specifierOf imported containing
        ≠ layout.specifierOf imported (layout.moveToGenDir containing) := by
  decide +kernel

end Layout
end BuildHost
