import BuildHost.Proofs.FileSystem.Contents
import BuildHost.Proofs.Resolution.Bare
import BuildHost.Proofs.Resolution.Found
import BuildHost.Proofs.Resolution.RoundTrip

/-!
# Packages that are installed

A package is imported by its name: it is looked for in the dependency folders of
the directories above the containing file, the nearest first
(`dependencyPlaces_eq`), and what is found in its folder is its index, when
there is no manifest (`resolve_packageName`).  A name that ends like a source
file is read without its ending, so that a package with such a name is not found
(`resolve_packageName_ne`).
-/

namespace BuildHost

open BuildHost.Path

/-! ## Names of packages -/

/-- A name that does not start with a dot, or a scope and a name. -/
inductive IsPackageName : Path → Prop where
  | alone {name : Path} (isPlain : IsPlain name)
      (head_ne : name.head? ≠ some '.') :
    IsPackageName name
  | inScope {scope name : Path} (isPlain_scope : IsPlain ('@' :: scope))
      (isPlain : IsPlain name) :
    IsPackageName ('@' :: scope ++ separator :: name)

theorem IsPackageName.exists_segments {name : Path} (h : IsPackageName name) :
    ∃ front last, name = [separator].intercalate (front ++ [last]) ∧
      (∀ s ∈ front ++ [last], IsPlain s) ∧
      spellsDrive (front ++ [last]) = false := by
  cases h with
  | alone hname _ =>
      refine ⟨[], name, ?_, ?_, by simp [spellsDrive]⟩
      · rw [List.nil_append, List.intercalate_singleton]
      · intro s hs
        rw [List.mem_singleton.1 hs]
        exact hname
  | @inScope scope last hscope hlast =>
      refine ⟨['@' :: scope], last, ?_, ?_, ?_⟩
      · rw [List.singleton_append, intercalate_cons_cons,
          List.intercalate_singleton]
      · intro s hs
        rcases List.mem_cons.1 hs with heq | hmem
        · rw [heq]
          exact hscope
        · rw [List.mem_singleton.1 hmem]
          exact hlast
      · rw [Bool.eq_false_iff]
        intro hspells
        rcases spellsDrive_cons_cons_iff.1 hspells with ⟨letter, halpha, heq⟩
        rw [← (List.cons.inj heq).1] at halpha
        cases halpha

theorem IsPackageName.head_ne_dot {name : Path} (h : IsPackageName name) :
    name.head? ≠ some '.' := by
  cases h with
  | alone _ hhead => exact hhead
  | inScope _ _ =>
      intro hhead
      cases hhead

namespace NodeResolution

theorem isBare_of_isPackageName {name : Path} (h : IsPackageName name) :
    IsBare name := by
  constructor
  · rcases h.exists_segments with ⟨front, last, htext, hplain, hspells⟩
    rw [htext, isRooted_intercalate hplain, hspells]
  · rw [Bool.eq_false_iff]
    intro hrelative
    exact h.head_ne_dot (head_of_isRelative hrelative)

/-! ## In the folder of a package -/

theorem isPlain_index : IsPlain "index".toList := by
  decide

theorem isSuffixOf_index (folder : Path) {ending : Path}
    (hmem : ending ∈ extensions) :
    ending.isSuffixOf (folder.join ["index".toList]) = false := by
  have hapart : ∀ ending ∈ extensions,
      ¬ (ending <:+ "index".toList ∨ "index".toList <:+ ending) := by
    decide
  rw [Bool.eq_false_iff]
  intro hsuffix
  exact hapart ending hmem
    (List.suffix_or_suffix_of_suffix (List.isSuffixOf_iff_suffix.1 hsuffix)
      (isSuffix_join folder isPlain_index))

theorem map_index_extensions {folder : Path} (hnormal : IsNormal folder)
    (hr : folder.isRooted = true) :
    extensions.map (folder.join ["index".toList] ++ ·)
      = ["index.ts".toList, "index.tsx".toList,
        "index.d.ts".toList].map fun index =>
          folder.join [index] := by
  have hindex : ∀ ending ∈ extensions, folder.join ["index".toList] ++ ending
      = folder.join ["index".toList ++ ending] := by
    intro ending hmem
    have hplain := isPlain_of_mem_extensions hmem
    exact join_append_ending hnormal hr isPlain_index
      (isPlain_append (by decide) (by decide) hplain.1 hplain.2)
  rw [List.map_congr_left hindex]
  rfl

theorem load_index {host : ResolutionHost} {folder : Path}
    (hnormal : IsNormal folder) (hr : folder.isRooted = true)
    (hends : ∀ ending ∈ extensions, ending.isSuffixOf folder = false)
    (hfree : ∀ ending ∈ extensions, host.fileExists (folder ++ ending) = false)
    (hfolder : host.directoryExists folder = true)
    (hmanifest : host.fileText (manifestOf folder) = none)
    (hsources : ∀ index ∈ ["index.ts".toList, "index.tsx".toList],
      host.fileExists (folder.join [index]) = false)
    (hdeclaration : host.fileExists (folder.join ["index.d.ts".toList])
      = true) :
    load host folder = some (folder.join ["index.d.ts".toList]) := by
  have hnone : loadAsFile host folder = none := by
    rw [loadAsFile_of_not_isSuffixOf hends, List.find?_eq_none]
    intro file hfile
    rcases List.mem_map.1 hfile with ⟨ending, hmem, heq⟩
    rw [← heq, hfree ending hmem]
    exact Bool.false_ne_true
  have hmanifests : loadByManifest host folder = none := by
    unfold loadByManifest
    rw [hmanifest]
    rfl
  have hsource : ∀ index ∈ ["index.ts".toList, "index.tsx".toList],
      ¬ host.fileExists (folder.join [index]) = true := by
    intro index hmem
    rw [hsources index hmem]
    exact Bool.false_ne_true
  have hfound : loadAsFile host (folder.join ["index".toList])
      = some (folder.join ["index.d.ts".toList]) := by
    rw [loadAsFile_of_not_isSuffixOf
      fun ending hmem => isSuffixOf_index folder hmem,
      map_index_extensions hnormal hr, List.map_cons, List.map_cons,
      List.map_singleton, List.find?_cons_of_neg (hsource _ (by decide)),
      List.find?_cons_of_neg (hsource _ (by decide)),
      List.find?_cons_of_pos hdeclaration]
  rw [load, hnone, loadAsDirectory, if_pos hfolder, hmanifests, hfound]
  rfl

/-! ## On the way up to a package -/

/-- The folder of a package in the dependency folder of a directory. -/
def packageFolder (dir name : Path) : Path :=
  (dir.join [dependencyFolder]).join [name]

section PackageFolder

variable {dir name : Path} (hr : dir.isRooted = true)
  (hname : IsPackageName name)

include hr in
theorem isRooted_packageFolder : (packageFolder dir name).isRooted = true :=
  isRooted_join (isRooted_join hr _) _

include hr hname in
theorem isSuffixOf_packageFolder {ending : Path}
    (hending : separator ∉ ending) :
    ending.isSuffixOf (packageFolder dir name) = ending.isSuffixOf name := by
  have hfolder := isRooted_join hr dependencyFolder
  have htext : packageFolder dir name
      = withSeparator (dir.join [dependencyFolder]) ++ name := by
    rcases hname.exists_segments with ⟨front, last, rfl, hplain, -⟩
    exact eq_withSeparator_append (isNormal_join _ _)
      (isRooted_packageFolder hr) (isNormal_join dir _) hfolder (by simp)
      (view_join_intercalate hfolder hplain)
  rcases exists_withSeparator_eq (dir.join [dependencyFolder]) with
    ⟨start, hstart⟩
  rw [htext, hstart, List.append_assoc, List.singleton_append,
    isSuffixOf_append_separator hending]

end PackageFolder

section Nearest

variable {host : ResolutionHost} {name containing dir : Path}

variable (hnearer : ∀ nearer, IsNormal nearer → IsBelow containing nearer →
    IsBelow nearer dir →
  host.directoryExists (nearer.join [dependencyFolder]) = true →
  load host (packageFolder nearer name) = none)

include hnearer in
theorem findSome?_load_nearer {more : List Path} {last : Path}
    (hplace : IsPlace .slash ((view dir).2 ++ more ++ [last]))
    (hroot : (view dir).1 = .slash)
    (hview : view containing = (.slash, (view dir).2 ++ more ++ [last]))
    {beginnings : List (List Path)} (h : ∀ beginning ∈ beginnings,
      ∃ above, above ≠ [] ∧ above <+: more ∧
        beginning = (view dir).2 ++ above) :
    (((beginnings.map
      fun beginning => render .slash (beginning ++ [dependencyFolder])).filter
      host.directoryExists).map fun folder => folder.join [name]).findSome?
        (load host) = none := by
  rw [List.findSome?_eq_none_iff]
  intro place hmem
  rcases List.mem_map.1 hmem with ⟨folder, hfolder, rfl⟩
  rcases List.mem_filter.1 hfolder with ⟨hfolder, hexists⟩
  rcases List.mem_map.1 hfolder with ⟨beginning, hbeginning, rfl⟩
  rcases h beginning hbeginning with ⟨above, habove, ⟨below, rfl⟩, rfl⟩
  have hnear : IsPlace .slash ((view dir).2 ++ above) := by
    rw [← List.append_assoc] at hplace
    exact hplace.of_append.of_append
  rw [← join_dependencyFolder_render hnear] at hexists ⊢
  apply hnearer (render .slash ((view dir).2 ++ above)) hnear.isNormal_render _
    _ hexists
  · refine ⟨below ++ [last], by simp, ?_⟩
    rw [hview, hnear.view_render]
    simp
  · refine ⟨above, habove, ?_⟩
    rw [hnear.view_render, hroot]

include hnearer in
/-- When nothing is loaded for a package on the way up to a directory, what is
loaded there is found. -/
theorem target_of_dependencyPlaces {roots : List Path} {file : Path}
    (hname : IsPackageName name) (hc : IsNormal containing)
    (hroot : (view containing).1 = .slash) (hdir : IsNormal dir)
    (hbelow : IsBelow containing dir)
    (hfolder : host.directoryExists (dir.join [dependencyFolder]) = true)
    (hload : load host (packageFolder dir name) = some file) :
    (resolver roots host name containing).target = some file := by
  rcases hbelow with ⟨rest, hne, hview⟩
  rcases (List.eq_nil_or_concat rest).resolve_left hne with ⟨more, last, rfl⟩
  have hdirroot : (view dir).1 = .slash := by
    rw [hview] at hroot
    exact hroot
  rw [hdirroot, List.concat_eq_append, ← List.append_assoc] at hview
  have hplace := isPlace_view (hc.isRooted (by rw [hroot]; rfl))
  rw [hview] at hplace
  have hown : dir.join [dependencyFolder]
      = render .slash ((view dir).2 ++ [dependencyFolder]) := by
    have htext : render .slash (view dir).2 = dir := by
      rw [← hdirroot]
      exact hdir.render_view (hdir.isRooted (by rw [hdirroot]; rfl))
    rw [← join_dependencyFolder_render hplace.of_append.of_append, htext]
  -- the directories that are tried before this one lie between it and the file
  rcases exists_inits_reverse_eq (view dir).2 more with
    ⟨longer, others, hsplit, hlonger⟩
  show (resolveAmong host (places roots host name containing)).target = _
  rw [target_resolveAmong, places_of_isBare (isBare_of_isPackageName hname),
    dependencyPlaces_eq hc hview, hsplit,
    List.map_append, List.filter_append, List.map_append, List.findSome?_append,
    findSome?_load_nearer hnearer hplace hdirroot hview hlonger, Option.none_or,
    List.map_cons, ← hown, List.filter_cons_of_pos hfolder, List.map_cons,
    List.findSome?_cons]
  unfold packageFolder at hload
  rw [hload]

end Nearest

end NodeResolution

/-! ## Installed packages -/

/-- A directory with a package in its dependency folder. -/
structure FileSystem.HoldsPackage (fs : FileSystem) (dir name : Path) :
    Prop where
  isDirectory_dependencyFolder : fs.isDirectory (dir.join [dependencyFolder])
    = true
  isDirectory_packageFolder :
    fs.isDirectory (NodeResolution.packageFolder dir name) = true

namespace Layout

open NodeResolution

/-- A package whose name does not end like a source file, and which has an index
of declarations and no manifest, is imported by its name from every file below
the nearest directory that holds it. -/
theorem resolve_packageName (layout : Layout) {roots : List Path}
    {files : KnownFiles} {name containing dir : Path}
    (hname : IsPackageName name)
    (hends : ∀ ending ∈ sourceExtensions, ending.isSuffixOf name = false)
    (hc : IsNormal containing) (hroot : (view containing).1 = .slash)
    (hdir : IsNormal dir) (hbelow : IsBelow containing dir)
    (hholds : files.fs.HoldsPackage dir name)
    (hnearest : ∀ nearer, IsNormal nearer → IsBelow containing nearer →
      IsBelow nearer dir →
      ¬ files.fs.HoldsPackage nearer name)
    (hfree : ∀ nearer, IsNormal nearer → IsBelow containing nearer →
      nearer = dir ∨ IsBelow nearer dir → ∀ ending ∈ extensions,
        files.resolutionHost.fileExists (packageFolder nearer name ++ ending)
          = false)
    (hindex : files.fs.isFile ((packageFolder dir name).join
      ["index.d.ts".toList]) = true)
    (hmanifest : files.fs.isFile ((packageFolder dir name).join
      ["package.json".toList]) = false)
    (hsources : ∀ index ∈ ["index.ts".toList, "index.tsx".toList],
      files.resolutionHost.fileExists ((packageFolder dir name).join [index])
        = false) :
    (layout.resolve (resolver roots) files name (some containing)).map
        (·.target)
      = .ok (some ((packageFolder dir name).join ["index.d.ts".toList])) := by
  have hr : containing.isRooted = true := hc.isRooted (by rw [hroot]; rfl)
  have hdirr : dir.isRooted = true := by
    rcases hbelow with ⟨rest, -, hrest⟩
    apply hdir.isRooted
    rw [hrest] at hroot
    rw [hroot]
    rfl
  have hfolder : ∀ {dir : Path}, dir.isRooted = true → ∀ ending ∈ extensions,
      ending.isSuffixOf (packageFolder dir name) = false := by
    intro dir hdirr ending hmem
    have hsource := mem_sourceExtensions_of_mem_extensions ending hmem
    rw [isSuffixOf_packageFolder hdirr hname
      (separator_notMem_of_mem_sourceExtensions ending hsource)]
    exact hends ending hsource
  have hnearer : ∀ nearer, IsNormal nearer → IsBelow containing nearer →
      IsBelow nearer dir →
      files.resolutionHost.directoryExists (nearer.join [dependencyFolder])
        = true →
      load files.resolutionHost (packageFolder nearer name) = none := by
    intro nearer hnormal hcontaining hnear hexists
    apply load_eq_none (hfolder (hnear.isRooted hnormal hdirr))
      (hfree nearer hnormal hcontaining (.inr hnear))
    rw [Bool.eq_false_iff]
    intro hpackage
    exact hnearest nearer hnormal hcontaining hnear ⟨hexists, hpackage⟩
  have hload : load files.resolutionHost (packageFolder dir name)
      = some ((packageFolder dir name).join ["index.d.ts".toList]) := by
    have hpackage : (packageFolder dir name).isRooted = true :=
      isRooted_packageFolder hdirr
    apply load_index (isNormal_join _ _) hpackage (hfolder hdirr)
      (hfree dir hdir hbelow (.inl rfl)) hholds.isDirectory_packageFolder _
        hsources
    · rw [KnownFiles.fileExists_resolutionHost_iff]
      exact ⟨isRooted_join hpackage _, .inl hindex⟩
    · rcases FileSystem.exists_fault_of_not_isFile hmanifest with
        ⟨fault, hfault⟩
      show (files.fs.read (manifestOf (packageFolder dir name))).toOption = none
      rw [manifestOf, hfault]
      rfl
  have htarget : (resolver roots files.resolutionHost name containing).target
      = some ((packageFolder dir name).join ["index.d.ts".toList]) :=
    target_of_dependencyPlaces hnearer hname hc hroot hdir hbelow
      hholds.isDirectory_dependencyFolder hload
  rw [resolve, containingFile_of_isRooted hr, withoutExtension_eq_self hends]
  exact congrArg Except.ok htarget

/-- A package in a scope, which is not among the dependencies of the containing
file's own directory. -/
theorem resolve_packageName_inScope :
    let tree :=
      ((MemoryTree.empty true).addFile
        "/p/node_modules/@x/lib/index.d.ts".toList ByteArray.empty).addFile
        "/p/a/node_modules/other/index.d.ts".toList ByteArray.empty
    let files : KnownFiles := ⟨.inMemory tree, []⟩
    ((outsideLayout []).resolve (resolver []) files "@x/lib".toList
        (some "/p/a/c.ts".toList)).map (·.target)
      = .ok (some "/p/node_modules/@x/lib/index.d.ts".toList) := by
  intro tree files
  have hname : IsPackageName "@x/lib".toList :=
    @IsPackageName.inScope ['x'] "lib".toList (by decide) (by decide)
  have hview : view "/p/a/c.ts".toList
      = (.slash, ["p".toList, "a".toList, "c.ts".toList]) := by
    decide
  have hbetween : ∀ nearer, IsNormal nearer →
      IsBelow "/p/a/c.ts".toList nearer →
      IsBelow nearer "/p".toList → nearer = "/p/a".toList := by
    intro nearer hnormal hcontaining hnear
    have hlength : (view nearer).2.length = 2 := by
      have hlower : (view "/p".toList).2.length < (view nearer).2.length :=
        hnear.length_lt
      have hupper := hcontaining.length_lt
      have hone : (view "/p".toList).2.length = 1 := by decide
      rw [hview, List.length_cons, List.length_cons, List.length_singleton]
        at hupper
      omega
    have hsame : view nearer = view "/p/a".toList := by
      rw [hcontaining.view_eq, hlength, hview]
      decide
    exact eq_of_view_eq hnormal (by decide) (hnear.isRooted hnormal (by decide))
      (by decide) hsame
  have hfolder : (packageFolder "/p".toList "@x/lib".toList).join
      ["index.d.ts".toList] = "/p/node_modules/@x/lib/index.d.ts".toList := by
    decide
  rw [← hfolder]
  apply resolve_packageName (outsideLayout []) hname (by decide) (by decide)
    (by decide) (by decide) (by decide)
  · exact ⟨by decide, by decide⟩
  · intro nearer hnormal hcontaining hnear hholds
    have hpackage := hholds.isDirectory_packageFolder
    rw [hbetween nearer hnormal hcontaining hnear] at hpackage
    exact absurd hpackage (by decide)
  · intro nearer hnormal hcontaining hnear
    rcases hnear with rfl | hnear
    · decide
    · rw [hbetween nearer hnormal hcontaining hnear]
      decide
  · decide
  · decide
  · decide

/-- A package whose name ends like a source file is not found by it: the ending
is left out. -/
theorem resolve_packageName_ne :
    let files := singleFile "/p/node_modules/chart.js/index.d.ts".toList
    let name : Path := "chart.js".toList
    let containing : Path := "/p/c.ts".toList
    let dir : Path := "/p".toList
    IsPackageName name ∧ IsNormal containing ∧ (view containing).1 = .slash ∧
      IsNormal dir ∧
      IsBelow containing dir ∧ files.fs.HoldsPackage dir name ∧
      (∀ nearer, IsNormal nearer → IsBelow containing nearer →
        ¬ IsBelow nearer dir) ∧
      (∀ ending ∈ extensions,
        files.resolutionHost.fileExists (packageFolder dir name ++ ending)
          = false) ∧
      files.fs.isFile ((packageFolder dir name).join ["index.d.ts".toList])
        = true ∧
      files.fs.isFile ((packageFolder dir name).join ["package.json".toList])
        = false ∧
      (∀ index ∈ ["index.ts".toList, "index.tsx".toList],
        files.resolutionHost.fileExists ((packageFolder dir name).join [index])
          = false) ∧
      ((outsideLayout []).resolve (resolver []) files name
          (some containing)).map (·.target)
        ≠ .ok (some ((packageFolder dir name).join ["index.d.ts".toList])) := by
  intro files name containing dir
  have hname : IsPackageName name :=
    .alone (by decide) (by decide)
  have hbetween : ∀ nearer, IsNormal nearer → IsBelow containing nearer →
      ¬ IsBelow nearer dir := by
    intro nearer _ hcontaining hnear
    have hlower := hnear.length_lt
    have hupper := hcontaining.length_lt
    have hone : (view dir).2.length = 1 := by decide
    have htwo : (view containing).2.length = 2 := by decide
    omega
  have hnone : ((outsideLayout []).resolve (resolver []) files name
      (some containing)).map (·.target) = .ok none :=
    eq_ok_of_toOption_eq_some (by decide)
  refine ⟨hname, by decide, by decide, by decide, by decide,
    ⟨by decide, by decide⟩, hbetween, by decide, by decide,
    by decide, by decide, ?_⟩
  rw [hnone]
  intro heq
  cases Except.ok.inj heq

end Layout
end BuildHost
