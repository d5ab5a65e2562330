import BuildHost.Proofs.Layout.Specifier

/-!
# Specifiers of generated files and root directories

The place that a file is emitted to depends on the root directory that is picked
for it, and the place that a specifier is made for does not: a file is moved by
the base path alone.  A specifier leads to the emitted file exactly when the way
between the two moved files, taken from where the containing file is emitted,
ends there.  It does for two files of one root directory
(`followed_sourceRoot`), whichever of the root directory and the base path
contains the other.
-/

namespace BuildHost
namespace Layout

open BuildHost.Path

variable {layout : Layout} {imported containing dir : Path}

/-! ## Places of generated modules -/

theorem view_module_emitPath {p : Path} {front : List Path} {last : Path}
    (hmirrored : layout.mirrored p = front ++ [last])
    (hlast : IsPlain last.withoutExtension) :
    IsNormal (layout.emitPath p).withoutExtension ∧
      view (layout.emitPath p).withoutExtension = ((view layout.genDir.path).1,
        (view layout.genDir.path).2 ++ (front ++ [last.withoutExtension])) := by
  have hview := layout.view_emitPath p
  rw [hmirrored, ← List.append_assoc] at hview
  rw [← List.append_assoc]
  exact view_withoutExtension (layout.isNormal_emitPath p)
    (layout.isRooted_emitPath p) hview hlast

theorem view_moveToGenDir_module {p : Path} {front : List Path} {last : Path}
    (hp : IsNormal p) (hr : Path.isRooted p = true)
    (h : dependencyModule? p.withoutExtension = none)
    (hview : view p = ((view layout.basePath.path).1,
      (view layout.basePath.path).2 ++ (front ++ [last])))
    (hgenerated : (FileRole.classify p.withoutExtension).isGenerated = true) :
    view (layout.moveToGenDir p.withoutExtension)
      = ((view layout.genDir.path).1,
        (view layout.genDir.path).2 ++ (front ++ [last.withoutExtension])) := by
  have hmodule := view_module_of_isGenerated hp hr hview hgenerated
  exact view_moveToGenDir_below hmodule.1 (isRooted_withoutExtension hr)
    (by simp) hmodule.2 h

/-! ## Files of one root directory -/

section SourceRoot

variable {front outer : List Path} {last name : Path}
  (himported : IsNormal imported) (hir : Path.isRooted imported = true)
  (hcontaining : IsNormal containing) (hcr : Path.isRooted containing = true)
  (hmodule : dependencyModule? imported.withoutExtension = none)
  (hfile : dependencyModule? containing = none)
  (hgenerated : (FileRole.classify imported.withoutExtension).isGenerated
    = true)
  (hiroot : layout.sourceRoot imported = dir)
  (hcroot : layout.sourceRoot containing = dir)
  (hiview : view imported = ((view dir).1, (view dir).2 ++ (front ++ [last])))
  (hcview : view containing = ((view dir).1, (view dir).2 ++ (outer ++ [name])))

include himported hir hcontaining hcr hgenerated hiroot hcroot hiview hcview in
/-- The way between two moved files leads to where the imported file is emitted,
when the moved files have lost or gained the same segments at their start. -/
theorem followed_of_common_start {root : Root}
    {common between leaving entering : List Path}
    (hfront : front = between ++ entering) (houter : outer = between ++ leaving)
    (hsource : view (layout.moveToGenDir containing).dirname
      = (root, common ++ leaving))
    (htarget : view (layout.moveToGenDir imported.withoutExtension)
      = (root, common ++ (entering ++ [last.withoutExtension]))) :
    followed (layout.emitPath containing).dirname
      (layout.moveToGenDir containing).dirname
        (layout.moveToGenDir imported.withoutExtension)
      = view (layout.emitPath imported).withoutExtension := by
  have hlast : IsPlain last.withoutExtension := by
    rw [← List.append_assoc] at hiview
    exact isPlain_withoutExtension_of_isGenerated himported hir hiview
      hgenerated
  have hgoal := view_module_emitPath
    (mirrored_of_sourceRoot_eq himported hir hiroot hiview) hlast
  have hstart := (view_dirname_emitPath
    (mirrored_of_sourceRoot_eq hcontaining hcr hcroot hcview) (by simp)).2
  rw [List.dropLast_concat, houter, ← List.append_assoc] at hstart
  rw [followed_eq_of_common hstart hsource htarget, hgoal.2, hfront]
  simp only [List.append_assoc]

include himported hir hcontaining hcr hmodule hfile hgenerated hiroot hcroot
  hiview hcview in
theorem followed_of_basePath_above {more : List Path}
    (hdir : view dir
      = ((view layout.basePath.path).1,
        (view layout.basePath.path).2 ++ more)) :
    followed (layout.emitPath containing).dirname
      (layout.moveToGenDir containing).dirname
        (layout.moveToGenDir imported.withoutExtension)
      = view (layout.emitPath imported).withoutExtension := by
  have hi : view imported = ((view layout.basePath.path).1,
      (view layout.basePath.path).2 ++ ((more ++ front) ++ [last])) := by
    rw [hiview, hdir]
    simp only [List.append_assoc]
  have hc : view containing = ((view layout.basePath.path).1,
      (view layout.basePath.path).2 ++ ((more ++ outer) ++ [name])) := by
    rw [hcview, hdir]
    simp only [List.append_assoc]
  have hsource := (view_dirname_moveToGenDir hcontaining hcr hfile hc).2
  have htarget := view_moveToGenDir_module himported hir hmodule hi hgenerated
  rw [← List.append_assoc] at hsource
  rw [List.append_assoc, ← List.append_assoc] at htarget
  exact followed_of_common_start himported hir hcontaining hcr hgenerated hiroot
    hcroot hiview hcview (List.nil_append _).symm (List.nil_append _).symm
      hsource htarget

include himported hir hcontaining hcr hmodule hfile hgenerated hiroot hcroot
  hiview hcview in
theorem followed_of_basePath_inside {more inner nested : List Path}
    (hbase : view layout.basePath.path = ((view dir).1, (view dir).2 ++ more))
    (hfront : front = more ++ inner) (houter : outer = more ++ nested) :
    followed (layout.emitPath containing).dirname
      (layout.moveToGenDir containing).dirname
        (layout.moveToGenDir imported.withoutExtension)
      = view (layout.emitPath imported).withoutExtension := by
  have hi : view imported = ((view layout.basePath.path).1,
      (view layout.basePath.path).2 ++ (inner ++ [last])) := by
    rw [hiview, hbase, hfront]
    simp only [List.append_assoc]
  have hc : view containing = ((view layout.basePath.path).1,
      (view layout.basePath.path).2 ++ (nested ++ [name])) := by
    rw [hcview, hbase, houter]
    simp only [List.append_assoc]
  have hsource := (view_dirname_moveToGenDir hcontaining hcr hfile hc).2
  have htarget := view_moveToGenDir_module himported hir hmodule hi hgenerated
  exact followed_of_common_start himported hir hcontaining hcr hgenerated hiroot
    hcroot hiview hcview hfront houter hsource htarget

include himported hir hcontaining hcr hmodule hfile hgenerated hiroot hcroot
  hiview hcview in
theorem followed_of_basePath_apart
    (hibase : ¬ Contains layout.basePath.path imported.withoutExtension)
    (hcbase : ¬ Contains layout.basePath.path containing) :
    followed (layout.emitPath containing).dirname
      (layout.moveToGenDir containing).dirname
        (layout.moveToGenDir imported.withoutExtension)
      = view (layout.emitPath imported).withoutExtension := by
  have hstem := view_module_of_isGenerated himported hir hiview hgenerated
  have hsource : view (layout.moveToGenDir containing).dirname
      = ((view dir).1, (view dir).2 ++ outer) := by
    rw [moveToGenDir_of_not_contains hcontaining hfile hcbase,
      (view_dirname hcontaining hcr (by rw [hcview]; simp)).2, hcview,
      ← List.append_assoc, List.dropLast_concat]
  have htarget : view (layout.moveToGenDir imported.withoutExtension)
      = ((view dir).1, (view dir).2 ++ (front ++ [last.withoutExtension])) := by
    rw [moveToGenDir_of_not_contains hstem.1 hmodule hibase, hstem.2]
  exact followed_of_common_start himported hir hcontaining hcr hgenerated hiroot
    hcroot hiview hcview (List.nil_append _).symm (List.nil_append _).symm
      hsource htarget

end SourceRoot

theorem eq_append_dropLast {front more rest : List Path} {last : Path}
    (hne : rest ≠ []) (h : front ++ [last] = more ++ rest) :
    front = more ++ rest.dropLast := by
  have hfront := congrArg List.dropLast h
  rw [List.dropLast_concat, List.dropLast_append_of_ne_nil hne] at hfront
  exact hfront

/-- The way between two files of one root directory does not depend on whether
they are moved by it or by the base path. -/
theorem followed_sourceRoot (himported : IsNormal imported)
    (hir : Path.isRooted imported = true) (hcontaining : IsNormal containing)
    (hcr : Path.isRooted containing = true)
    (himarker : ¬ dependencyMarker <:+: imported)
    (hcmarker : ¬ dependencyMarker <:+: containing)
    (hgenerated : (FileRole.classify imported.withoutExtension).isGenerated
      = true)
    (hiroot : layout.sourceRoot imported = dir)
    (hcroot : layout.sourceRoot containing = dir) (hidir : IsBelow imported dir)
    (hcdir : IsBelow containing dir)
    (hbase : IsBelow imported layout.basePath.path ∧
      IsBelow containing layout.basePath.path ∨
      ¬ Contains layout.basePath.path imported.withoutExtension ∧
        ¬ Contains layout.basePath.path containing) :
    followed (layout.emitPath containing).dirname
      (layout.moveToGenDir containing).dirname
        (layout.moveToGenDir imported.withoutExtension)
      = view (layout.emitPath imported).withoutExtension := by
  have hmodule := dependencyModule?_withoutExtension himarker
  have hfile := dependencyModule?_eq_none hcmarker
  rcases hidir.exists_view with ⟨front, last, hiview⟩
  rcases hcdir.exists_view with ⟨outer, name, hcview⟩
  rcases hbase with
    ⟨⟨irest, hine, hirest⟩, crest, hcne, hcrest⟩ | ⟨hibase, hcbase⟩
  · have hiplaces := hiview.symm.trans hirest
    have hcplaces := hcview.symm.trans hcrest
    rw [Prod.mk.injEq] at hiplaces hcplaces
    rcases hiplaces with ⟨hroot, hiplaces⟩
    rcases List.append_eq_append_iff.1 hiplaces with
      ⟨more, hmore, hrest⟩ | ⟨more, hmore, -⟩
    · -- the base path lies in the root directory
      have hcplaces := hcplaces.2
      rw [hmore, List.append_assoc] at hcplaces
      exact followed_of_basePath_inside himported hir hcontaining hcr hmodule
        hfile hgenerated hiroot hcroot hiview hcview (Prod.ext hroot.symm hmore)
        (eq_append_dropLast hine hrest)
        (eq_append_dropLast hcne (List.append_cancel_left hcplaces))
    · exact followed_of_basePath_above himported hir hcontaining hcr hmodule
        hfile hgenerated hiroot hcroot hiview hcview (Prod.ext hroot hmore)
  · exact followed_of_basePath_apart himported hir hcontaining hcr hmodule hfile
      hgenerated hiroot hcroot hiview hcview hibase hcbase

/-! ## Specifiers of generated files -/

theorem isNormal_module_emitPath {p : Path} (hp : IsNormal p)
    (hr : Path.isRooted p = true)
    (hgenerated : (FileRole.classify p.withoutExtension).isGenerated = true)
    (hroot : layout.sourceRoot p = dir) (hbelow : IsBelow p dir) :
    IsNormal (layout.emitPath p).withoutExtension := by
  rcases hbelow.exists_view with ⟨front, last, hview⟩
  have hmirrored := mirrored_of_sourceRoot_eq hp hr hroot hview
  rw [← List.append_assoc] at hview
  have hlast := isPlain_withoutExtension_of_isGenerated hp hr hview hgenerated
  exact (view_module_emitPath hmirrored hlast).1

/-- The specifier of a generated file, followed from where the containing file
is emitted, names the place that the imported file is emitted to exactly when
the way between the two moved files ends there.  It does for files that are
moved to where they are emitted, and for two files below one root directory that
both lie below the base path or both lie outside it. -/
theorem join_specifierOf_generated_iff (himported : IsNormal imported)
    (hir : Path.isRooted imported = true) (hcontaining : IsNormal containing)
    (hcr : Path.isRooted containing = true)
    (himarker : ¬ dependencyMarker <:+: imported)
    (hcmarker : ¬ dependencyMarker <:+: containing)
    (hgenerated : (FileRole.classify imported.withoutExtension).isGenerated
      = true) :
    ((view (layout.emitPath containing)).2 ≠ [] →
        (join (layout.emitPath containing).dirname
          [layout.specifierOf imported containing]
            = (layout.emitPath imported).withoutExtension ↔
          IsNormal (layout.emitPath imported).withoutExtension ∧
            followed (layout.emitPath containing).dirname
                (layout.moveToGenDir containing).dirname
                (layout.moveToGenDir imported.withoutExtension)
              = view (layout.emitPath imported).withoutExtension)) ∧
      (layout.moveToGenDir containing = layout.emitPath containing →
        layout.moveToGenDir imported.withoutExtension
          = (layout.emitPath imported).withoutExtension →
        (view (layout.emitPath containing)).2 ≠ [] →
        join (layout.emitPath containing).dirname
          [layout.specifierOf imported containing]
          = (layout.emitPath imported).withoutExtension) ∧
      (∀ dir, layout.sourceRoot imported = dir →
        layout.sourceRoot containing = dir →
        IsBelow imported dir → IsBelow containing dir →
        IsBelow imported layout.basePath.path ∧
          IsBelow containing layout.basePath.path ∨
          ¬ Contains layout.basePath.path imported.withoutExtension ∧
            ¬ Contains layout.basePath.path containing →
        join (layout.emitPath containing).dirname
          [layout.specifierOf imported containing]
          = (layout.emitPath imported).withoutExtension) := by
  have hmodule := dependencyModule?_withoutExtension himarker
  have hspecifier : layout.specifierOf imported containing
      = (layout.moveToGenDir containing).dirname.dotRelative
          (layout.moveToGenDir imported.withoutExtension) :=
    specifierOf_of_generated hmodule hgenerated
  have hmoved := layout.isNormal_moveToGenDir
    (isNormal_module_of_isGenerated himported hir hgenerated)
    (isRooted_withoutExtension hir) hmodule
  have hgoal := isRooted_withoutExtension (layout.isRooted_emitPath imported)
  have hfollowed : (view (layout.emitPath containing)).2 ≠ [] →
      (join (layout.emitPath containing).dirname
        [layout.specifierOf imported containing]
          = (layout.emitPath imported).withoutExtension ↔
        IsNormal (layout.emitPath imported).withoutExtension ∧
          followed (layout.emitPath containing).dirname
              (layout.moveToGenDir containing).dirname
              (layout.moveToGenDir imported.withoutExtension)
            = view (layout.emitPath imported).withoutExtension) := by
    intro hne
    have hdir := (view_dirname (layout.isNormal_emitPath containing)
      (layout.isRooted_emitPath containing) hne).1
    rw [hspecifier]
    exact join_dotRelative_eq_iff _ hdir hmoved.2 hgoal
  refine ⟨hfollowed, ?_, ?_⟩
  · intro hfile hplace hne
    have hdir := view_dirname (layout.isNormal_emitPath containing)
      (layout.isRooted_emitPath containing) hne
    rw [hfollowed hne, hfile, hplace]
    refine ⟨hplace ▸ hmoved.1, followed_self ?_⟩
    rw [hdir.2, view_withoutExtension_fst (layout.isRooted_emitPath imported),
      view_emitPath, view_emitPath]
  · intro dir hiroot hcroot hidir hcdir hbase
    have hne : (view (layout.emitPath containing)).2 ≠ [] := by
      rcases hcdir with ⟨rest, hrest, hview⟩
      rw [view_emitPath, mirrored_of_sourceRoot_eq hcontaining hcr hcroot hview]
      simp [hrest]
    exact (hfollowed hne).2
      ⟨isNormal_module_emitPath himported hir hgenerated hiroot hidir,
        followed_sourceRoot himported hir hcontaining hcr himarker hcmarker
          hgenerated hiroot hcroot
        hidir hcdir hbase⟩

theorem join_specifierOf_generated_innerDir :
    let layout := outsideLayout [innerDir]
    let imported : Path := "/p/a/x.ngfactory.ts".toList
    let containing : Path := "/p/a/b/c.ngfactory.ts".toList
    IsNormal imported ∧ IsNormal containing ∧
      (FileRole.classify imported.withoutExtension).isGenerated = true ∧
      layout.specifierOf imported containing = "../x.ngfactory".toList ∧
      join (layout.emitPath containing).dirname
        [layout.specifierOf imported containing]
        = (layout.emitPath imported).withoutExtension := by
  have hgenerated : (FileRole.classify
      (Path.withoutExtension "/p/a/x.ngfactory.ts".toList)).isGenerated
        = true := by
    decide +kernel
  have himported : IsNormal "/p/a/x.ngfactory.ts".toList := by decide +kernel
  have hcontaining : IsNormal "/p/a/b/c.ngfactory.ts".toList := by
    decide +kernel
  refine ⟨himported, hcontaining, hgenerated, by decide +kernel, ?_⟩
  exact (join_specifierOf_generated_iff himported
    (by decide +kernel) hcontaining (by decide +kernel) (by decide +kernel)
    (by decide +kernel) hgenerated).2.2 "/p/a".toList
    (by decide +kernel) (by decide +kernel) (by decide +kernel)
    (by decide +kernel) (.inl ⟨by decide +kernel, by decide +kernel⟩)

/-- A file of the root directory is emitted without the segments that it is
moved with. -/
theorem join_specifierOf_generated_ne :
    let layout := outsideLayout [innerDir]
    let imported : Path := "/p/a/x.ngfactory.ts".toList
    let containing : Path := "/p/c.ngfactory.ts".toList
    IsNormal imported ∧ IsNormal containing ∧
      Path.isRooted imported = true ∧ Path.isRooted containing = true ∧
      ¬ dependencyMarker <:+: imported ∧ ¬ dependencyMarker <:+: containing ∧
      (FileRole.classify imported.withoutExtension).isGenerated = true ∧
      (FileRole.classify containing.withoutExtension).isGenerated = true ∧
      IsBelow imported layout.basePath.path ∧
      IsBelow containing layout.basePath.path ∧
      join (layout.emitPath containing).dirname
        [layout.specifierOf imported containing]
        ≠ (layout.emitPath imported).withoutExtension := by
  decide +kernel

end Layout
end BuildHost
