import BuildHost.Proofs.Path.Ancestors
import BuildHost.Proofs.Path.WayUp
import BuildHost.Proofs.Resolution.Node

/-!
# Specifiers without a place

A specifier that is neither rooted nor relative is looked for in the dependency
folders of the directories above the containing file, the nearest first
(`resolver_bare`).  The way up ends for every spelling of the containing file,
also where it is relative or starts at a drive.
-/

namespace BuildHost
namespace NodeResolution

open BuildHost.Path

/-- A specifier that does not say where to start from. -/
structure IsBare (specifier : Path) : Prop where
  isRooted_eq : specifier.isRooted = false
  isRelative_eq : isRelative specifier = false

theorem isBare_iff {specifier : Path} :
    IsBare specifier ↔
      specifier.isRooted = false ∧ isRelative specifier = false :=
  ⟨fun h => ⟨h.isRooted_eq, h.isRelative_eq⟩, fun h => ⟨h.1, h.2⟩⟩

instance (specifier : Path) : Decidable (IsBare specifier) :=
  decidable_of_iff _ isBare_iff.symm

variable {host : ResolutionHost} {specifier containing : Path}

theorem places_of_isBare {roots : List Path} (h : IsBare specifier)
    (containing : Path) :
    places roots host specifier containing
      = dependencyPlaces host specifier containing := by
  rw [places, h.isRooted_eq, h.isRelative_eq]
  rfl

/-! ## The way up -/

theorem isPlain_dependencyFolder : IsPlain dependencyFolder := by
  decide

theorem join_dependencyFolder_render {beginning : List Path}
    (h : IsPlace .slash beginning) :
    (render .slash beginning).join [dependencyFolder]
      = render .slash (beginning ++ [dependencyFolder]) := by
  have hspelled : IsSpelled beginning (render .slash beginning) := .inl rfl
  exact hspelled.join h isPlain_dependencyFolder

theorem dependencyPlaces_eq {file : Path} {front : List Path}
    (hc : IsNormal containing)
    (hview : view containing = (.slash, front ++ [file])) :
    dependencyPlaces host specifier containing
      = ((front.inits.reverse.map fun beginning =>
            render .slash (beginning ++ [dependencyFolder])).filter
          host.directoryExists).map fun folder => folder.join [specifier] := by
  have hr : containing.isRooted = true := hc.isRooted (by rw [hview]; rfl)
  have hplace := isPlace_view hr
  have htext := hc.render_view hr
  rw [hview] at hplace htext
  have hspelled := isSpelled_dirname_render hplace
  rw [htext] at hspelled
  rw [dependencyPlaces,
    map_join_ancestors hplace.of_append isPlain_dependencyFolder hspelled]

/-- What is loaded for a specifier from the dependency folder of a directory. -/
def loadBelow (host : ResolutionHost) (specifier dir : Path) : Option Path :=
  let folder := dir.join [dependencyFolder]
  if host.directoryExists folder then load host (folder.join [specifier])
  else none

theorem findSome?_load_folders (dirs : List Path) :
    (((dirs.map fun dir => dir.join [dependencyFolder]).filter
      host.directoryExists).map
        fun folder => folder.join [specifier]).findSome? (load host)
      = dirs.findSome? (loadBelow host specifier) := by
  induction dirs with
  | nil => rfl
  | cons dir rest ih =>
      rw [List.map_cons, List.findSome?_cons, loadBelow]
      by_cases hfolder : host.directoryExists (dir.join [dependencyFolder])
        = true
      · rw [List.filter_cons_of_pos hfolder, List.map_cons, List.findSome?_cons,
          if_pos hfolder, ih]
      · rw [List.filter_cons_of_neg hfolder, if_neg hfolder, ih]

/-- However the containing file is spelled, a bare specifier is looked for along
the way up from its directory. -/
theorem target_of_isBare (roots : List Path) (h : IsBare specifier)
    (containing : Path) : (resolver roots host specifier containing).target
      = containing.dirname.ancestors.findSome? (loadBelow host specifier) := by
  rw [resolver, target_resolveAmong, places_of_isBare h, dependencyPlaces,
    findSome?_load_folders]

/-- A bare specifier is looked for in the directories above a file. -/
theorem target_of_isBare_of_isNormal (roots : List Path) (h : IsBare specifier)
    (hc : IsNormal containing) (hroot : (view containing).1 = .slash)
    (hne : (view containing).2 ≠ []) :
    (resolver roots host specifier containing).target
      = (directoriesAbove containing).findSome? (loadBelow host specifier) := by
  have hview : view containing
      = (.slash, (view containing).2.dropLast
        ++ [(view containing).2.getLast hne]) := by
    rw [List.dropLast_concat_getLast hne, ← hroot]
  have hplace := isPlace_view (hc.isRooted (by rw [hroot]; rfl))
  have hfolders : ((view containing).2.dropLast.inits.reverse.map
      fun beginning =>
        render .slash (beginning ++ [dependencyFolder]))
      = (directoriesAbove containing).map fun dir =>
          dir.join [dependencyFolder] := by
    rw [directoriesAbove_eq hview, List.map_map]
    apply List.map_congr_left
    intro beginning hmem
    rw [hroot] at hplace
    have hbeginning : IsPlace .slash beginning := hplace.withSegments
      fun s hs =>
      hplace.isPlain s (List.dropLast_subset _
        (((List.mem_inits _ _).1 (List.mem_reverse.1 hmem)).subset hs))
    exact (join_dependencyFolder_render hbeginning).symm
  rw [resolver, target_resolveAmong, places_of_isBare h,
    dependencyPlaces_eq hc hview, hfolders, findSome?_load_folders]

/-- A bare specifier names what the nearest directory above the containing file
has for it in its dependency folder, and nothing when there is no such
directory; the way up ends for every containing file. -/
theorem resolver_bare (roots : List Path) (host : ResolutionHost)
    {specifier : Path} (h : IsBare specifier) :
    (∀ containing, IsNormal containing → (view containing).1 = .slash →
      containing ≠ Root.slash.text →
        ∃ dirs : List Path,
          (∀ dir, dir ∈ dirs ↔ IsNormal dir ∧ IsBelow containing dir) ∧
          dirs.Pairwise IsBelow ∧
          (resolver roots host specifier containing).target
            = dirs.findSome? (loadBelow host specifier) ∧
          ((resolver roots host specifier containing).target = none ↔
            ∀ dir, IsNormal dir → IsBelow containing dir →
              loadBelow host specifier dir = none)) ∧
    ∀ containing, ∃ dirs top, IsWayUp containing.dirname dirs ∧
      dirs.getLast? = some top ∧
      (top = Root.slash.text ∨ top = here) ∧
      (resolver roots host specifier containing).target
        = dirs.findSome? (loadBelow host specifier) := by
  constructor
  · intro containing hc hroot hne
    have hr : containing.isRooted = true := hc.isRooted (by rw [hroot]; rfl)
    have hsegments : (view containing).2 ≠ [] := by
      intro hnil
      have htext := hc.render_view hr
      rw [hroot, hnil] at htext
      exact hne htext.symm
    have hmem : ∀ dir, dir ∈ directoriesAbove containing ↔
        IsNormal dir ∧ IsBelow containing dir :=
      fun _ => mem_directoriesAbove_iff hr hsegments
    have htarget : (resolver roots host specifier containing).target
        = (directoriesAbove containing).findSome? (loadBelow host specifier) :=
      target_of_isBare_of_isNormal roots h hc hroot hsegments
    refine ⟨directoriesAbove containing, hmem, pairwise_directoriesAbove hr,
      htarget, ?_⟩
    rw [htarget, List.findSome?_eq_none_iff]
    constructor
    · intro hnone dir hdir hbelow
      exact hnone dir ((hmem dir).2 ⟨hdir, hbelow⟩)
    · intro hnone dir hdir
      exact hnone dir ((hmem dir).1 hdir).1 ((hmem dir).1 hdir).2
  · intro containing
    have hup := isWayUp_ancestors containing.dirname
    rcases hup.exists_top with ⟨top, hlast, htop⟩
    exact ⟨containing.dirname.ancestors, top, hup, hlast, htop,
      target_of_isBare roots h containing⟩

/-- Two dependency folders that both have a file of the name `lib`. -/
def nestedFolders : ResolutionHost where
  fileExists p := p
    ∈ ["/node_modules/lib.ts".toList, "/p/node_modules/lib.d.ts".toList]
  directoryExists p := p ∈ ["/node_modules".toList, "/p/node_modules".toList]
  fileText _ := none

theorem resolver_bare_nestedFolders :
    let specifier : Path := "lib".toList
    let containing : Path := "/p/a/c.ts".toList
    IsBare specifier ∧ IsNormal containing ∧ (view containing).1 = .slash ∧
      containing ≠ Root.slash.text ∧
      ∃ dirs : List Path,
        (∀ dir, dir ∈ dirs ↔ IsNormal dir ∧ IsBelow containing dir) ∧
        dirs.Pairwise IsBelow ∧
        dirs.findSome? (loadBelow nestedFolders specifier)
          = some "/p/node_modules/lib.d.ts".toList := by
  intro specifier containing
  have hbare : IsBare specifier := by decide
  have hfound : (resolver [] nestedFolders specifier containing).target
      = some "/p/node_modules/lib.d.ts".toList := by
    decide
  refine ⟨hbare, by decide, by decide, by decide, ?_⟩
  rcases (resolver_bare [] nestedFolders hbare).1 containing (by decide)
    (by decide) (by decide) with ⟨dirs, hmem, hpairwise, htarget, -⟩
  exact ⟨dirs, hmem, hpairwise, htarget.symm.trans hfound⟩

end NodeResolution
end BuildHost
