import BuildHost.Proofs.Generation.Modules

/-!
# Modules that share a place

The place of a module consists of the segments that its path does not share with
the place of sources picked for it.  Modules from two places of sources may so
be given one place, and then the later one is what is read there
(`merged_modules_share_place`).  A module that shares its place with no other is
read back, and two modules that lie in one place of sources never share theirs
(`generate_keeps_unshared_modules`).
-/

namespace BuildHost
namespace Layout

open BuildHost.Path

theorem emitPath_eq_iff (layout : Layout) (p q : Path) :
    layout.emitPath p = layout.emitPath q ↔
      layout.mirrored p = layout.mirrored q := by
  constructor
  · intro h
    have hview : view (layout.emitPath p) = view (layout.emitPath q) :=
      congrArg view h
    rw [view_emitPath, view_emitPath, Prod.mk.injEq] at hview
    exact List.append_cancel_left hview.2
  · intro h
    apply eq_of_view_eq (layout.isNormal_emitPath p)
      (layout.isNormal_emitPath q) (layout.isRooted_emitPath p)
      (layout.isRooted_emitPath q)
    rw [view_emitPath, view_emitPath, h]

theorem join_mirrored_of_isNormal {layout : Layout} {p : Path} (hp : IsNormal p)
    (hr : Path.isRooted p = true) (h : Contains (layout.sourceRoot p) p) :
    join (layout.sourceRoot p) [[separator].intercalate (layout.mirrored p)]
      = p := by
  have habsolute : layout.absolute p = p := layout.absolute_of_isNormal hp hr
  have hcontains : Contains (layout.sourceRoot (layout.absolute p))
      (layout.absolute p) := by
    rw [habsolute]
    exact h
  have hjoin := join_mirrored hcontains
  rw [habsolute] at hjoin
  exact hjoin

/-- Files that lie in one place of sources have different counterparts. -/
theorem eq_of_mirrored_eq {layout : Layout} {p q : Path} (hp : IsNormal p)
    (hpr : Path.isRooted p = true) (hq : IsNormal q)
    (hqr : Path.isRooted q = true)
    (hroot : layout.sourceRoot q = layout.sourceRoot p)
    (hpin : Contains (layout.sourceRoot p) p)
    (hqin : Contains (layout.sourceRoot p) q)
    (h : layout.mirrored q = layout.mirrored p) :
    q = p := by
  rw [← hroot] at hqin
  rw [← join_mirrored_of_isNormal hq hqr hqin,
    ← join_mirrored_of_isNormal hp hpr hpin, hroot, h]

end Layout

namespace Build

open BuildHost.Path

variable {build : Build} {modules : List GeneratedModule}

theorem placeOf_eq_iff (build : Build) (module other : GeneratedModule) :
    build.placeOf module = build.placeOf other ↔
      build.layout.mirrored module.moduleUrl
        = build.layout.mirrored other.moduleUrl :=
  build.layout.emitPath_eq_iff module.moduleUrl other.moduleUrl

theorem nodup_map_placeOf_iff :
    (modules.map build.placeOf).Nodup ↔
      (modules.map fun module =>
        build.layout.mirrored module.moduleUrl).Nodup := by
  unfold List.Nodup
  rw [List.pairwise_map, List.pairwise_map]
  exact List.Pairwise.iff fun {module other} =>
    not_congr (build.placeOf_eq_iff module other)

/-- When the generation succeeds, a module that shares its place with no other
is read back there, and the places that are reported are distinct exactly when
no two modules share one.  Two modules that lie in the place of sources picked
for both do not share theirs. -/
theorem generate_keeps_unshared_modules (build : Build)
    (compiler : TemplateCompiler) (catalog : Option String) {state : State}
    {tree : MemoryTree} {modules : List GeneratedModule}
    (hcompiler : ∀ symbols, KeepsFiles (compiler symbols catalog))
    (hfs : state.files.fs = .inMemory tree) (hcase : tree.caseSensitive = true)
    (hmodules : ((build.compiledModules compiler catalog).run state).1
      = .ok modules)
    (hsuccess : ((build.generate compiler catalog).run state).1.fault? = none)
    (hplaces : ∀ module ∈ modules,
      IsNormal module.moduleUrl ∧ Path.isRooted module.moduleUrl = true)
    (hdistinct : (modules.map (·.moduleUrl)).Nodup) :
    ∃ after : MemoryTree,
      ((build.generate compiler catalog).run state).2.files.fs
        = .inMemory after ∧
      (((build.generate compiler catalog).run state).1.emitted.Nodup ↔
        (modules.map fun module =>
          build.layout.mirrored module.moduleUrl).Nodup) ∧
      (∀ module ∈ modules,
        (∀ other ∈ modules, build.layout.mirrored other.moduleUrl
          = build.layout.mirrored module.moduleUrl → other = module) →
        after.read (build.placeOf module) = .ok (preamble ++ module.source)) ∧
      ∀ module ∈ modules, ∀ other ∈ modules,
        let place := build.layout.sourceRoot module.moduleUrl
        build.layout.sourceRoot other.moduleUrl = place →
        Contains place module.moduleUrl → Contains place other.moduleUrl →
        build.layout.mirrored other.moduleUrl
          = build.layout.mirrored module.moduleUrl →
        other = module := by
  rcases build.run_generate_inMemory compiler catalog hcompiler hfs hcase with
    ⟨before, folders, reads, hafter, hemitted, hend⟩
  rw [hmodules] at hend
  have hall : modules = before := by
    rcases hend with ⟨hall, -⟩ | ⟨module, later, made, cause, -, -, hfault⟩
    · exact hall
    · rw [hsuccess] at hfault
      cases hfault
  subst hall
  let after : MemoryTree := { tree with
    files := modules.foldl build.storeModule tree.files, folders := folders,
      reads := reads }
  have hafterCase : after.caseSensitive = true := hcase
  refine ⟨after, hafter, ?_, ?_, ?_⟩
  · rw [hemitted]
    exact nodup_map_placeOf_iff
  · intro module hmem hunshared
    rcases List.append_of_mem hmem with ⟨front, later, hsplit⟩
    apply build.read_placeOf hafterCase
      (congrArg (List.foldl build.storeModule tree.files) hsplit)
    intro other hother hplace
    have hnodup : (front ++ module :: later).Nodup :=
      hsplit ▸ List.Nodup.of_map _ hdistinct
    have hlater : module ∉ later :=
      (List.nodup_cons.1 (List.nodup_append.1 hnodup).2.1).1
    have hotherMem : other ∈ modules := by
      rw [hsplit]
      exact List.mem_append_right _ (List.mem_cons_of_mem _ hother)
    rw [hunshared other hotherMem
      ((build.placeOf_eq_iff other module).1 hplace)] at hother
    exact hlater hother
  · intro module hmem other hother place hroot hin hotherIn hmirrored
    rcases hplaces module hmem with ⟨hnormal, hrooted⟩
    rcases hplaces other hother with ⟨hotherNormal, hotherRooted⟩
    exact List.inj_on_of_nodup_map hdistinct hother hmem
      (Layout.eq_of_mirrored_eq hnormal hrooted hotherNormal hotherRooted hroot
        hin hotherIn hmirrored)

/-- Two modules of one name, from two directories among the sources. -/
def twinModules : List GeneratedModule :=
  [⟨"/p/a/x.html".toList, "/p/a/x.ts".toList, "first"⟩,
    ⟨"/p/b/x.html".toList, "/p/b/x.ts".toList, "second"⟩]

theorem isNormal_moduleUrl_twinModules :
    ∀ module ∈ twinModules, IsNormal module.moduleUrl ∧
      Path.isRooted module.moduleUrl = true := by
  decide

theorem generate_keeps_unshared_modules_twinModules :
    ∃ after : MemoryTree,
      ((emptyBuild.generate (TemplateCompiler.fixed twinModules) none).run
        (.start (.inMemory strayTree))).2.files.fs = .inMemory after ∧
      ∀ module ∈ twinModules,
        after.read (emptyBuild.placeOf module)
          = .ok (preamble ++ module.source) := by
  have hcompiler : ∀ symbols,
      KeepsFiles (TemplateCompiler.fixed twinModules symbols none) :=
    fun symbols => TemplateCompiler.keepsFiles_fixed twinModules symbols none
  have hfs : (State.start (.inMemory strayTree)).files.fs
      = .inMemory strayTree := rfl
  have hfault :
      ((emptyBuild.generate (TemplateCompiler.fixed twinModules) none).run
        (.start (.inMemory strayTree))).1.fault?.isNone = true := by
    decide
  rcases generate_keeps_unshared_modules emptyBuild
    (TemplateCompiler.fixed twinModules) none hcompiler hfs rfl rfl
    (Option.isNone_iff_eq_none.1 hfault) isNormal_moduleUrl_twinModules
    (by decide) with ⟨after, hafter, -, hread, -⟩
  refine ⟨after, hafter, fun module hmem => hread module hmem ?_⟩
  revert module
  decide

/-- A build that takes two directories among the sources for one. -/
def mergingBuild : Build where
  options :=
    { basePath := Layout.projectDir.path
      genDir := Layout.outsideDir.path
      rootDirs := ["/p/a".toList, "/p/b".toList]
      generateForLibraries := false }
  layout := Layout.outsideLayout
    [Layout.innerDir, ⟨"/p/b".toList, by decide, by decide⟩]
  program := .empty
  resolver := NodeResolution.resolver ["/p/a".toList, "/p/b".toList]
  collector := fun _ => none

/-- Modules of two directories that are taken for one are written over each
other. -/
theorem merged_modules_share_place :
    (twinModules.map (·.moduleUrl)).Nodup ∧
      (∀ module ∈ twinModules,
        IsNormal module.moduleUrl ∧ Path.isRooted module.moduleUrl = true) ∧
      ((mergingBuild.generate (TemplateCompiler.fixed twinModules) none).run
        (.start (.inMemory strayTree))).1.fault? = none ∧
      ¬ ((mergingBuild.generate (TemplateCompiler.fixed twinModules) none).run
        (.start (.inMemory strayTree))).1.emitted.Nodup :=
  ⟨by decide, isNormal_moduleUrl_twinModules,
    Option.isNone_iff_eq_none.1 (by decide), by decide⟩

end Build
end BuildHost
