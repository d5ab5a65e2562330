import BuildHost.Proofs.Layout.Coordinates
import BuildHost.Proofs.Path.Spelling

/-!
# What a specifier reads of a path

The text of a path decides whether it goes into a dependency folder and whether
it starts with the base path; all else about it is the place that it names.  Two
spellings of which the same is read are therefore imported, and import, by the
same specifiers (`specifierOf_congr`).
-/

namespace BuildHost
namespace Layout

open BuildHost.Path

/-- What a specifier takes from the text of a path. -/
inductive Reading where
  /-- The name of a file of a dependency. -/
  | named (module : Path)
  /-- The way to the file from the directory of generated files, collapsed,
  climbs included. -/
  | moved (way : List Path)
  /-- Nothing: the file stays where it is. -/
  | inPlace
deriving DecidableEq, Repr

/-- What follows the text of the base path, and a separator, in a path. -/
def textBelow? (base p : Path) : Option Path :=
  if p = base then some [] else (withSeparator base).isPrefixOf? p

/-- The part of a path's text that is kept below the directory of generated
files. -/
def keptText? (base p : Path) : Option Path :=
  match dependencyModule? p with
  | some module => some (dependencyFolder ++ separator :: module)
  | none => textBelow? base p

/-- The collapsed segments of a text that is read from some directory. -/
def wayOf (p : Path) : List Path :=
  collapse .none ((normalizeSeparators p).splitOn separator)

def readContaining (layout : Layout) (containing : Path) : Reading :=
  match keptText? layout.basePath.path containing with
  | some kept => .moved (wayOf kept)
  | none => .inPlace

def readImported (layout : Layout) (imported : Path) : Reading :=
  let imported := imported.withoutExtension
  match FileRole.classify imported with
  | .generated _ => layout.readContaining imported
  | .declaration (some module) | .dependency module => .named module
  | .declaration none | .source =>
    if layout.genDirInsideBasePath then .inPlace
    else layout.readContaining imported

variable {layout : Layout}
  {p q front rest imported other containing another : Path} {way : List Path}

/-! ## Where a path is moved to -/

theorem replaceRoot_eq_map {source target : Path} (h : IsNormal target)
    (p : Path) :
    replaceRoot p source target = (textBelow? source p).map fun rest =>
      target.join [rest] := by
  unfold replaceRoot textBelow?
  by_cases hsource : p = source
  · rw [if_pos hsource, if_pos hsource]
    exact congrArg some h.symm
  · rw [if_neg hsource, if_neg hsource]
    rfl

theorem view_join_eq_collapse_wayOf {base : Path} (h : isRooted base = true)
    (fragment : Path) :
    view (join base [fragment])
      = ((view base).1,
        collapse (view base).1 ((view base).2 ++ wayOf fragment)) := by
  rw [view_join h, wayOf,
    collapse_append_collapse_none _ _ fun s hs =>
      separator_notMem_of_mem_splitOn hs]

theorem moveToGenDir_of_inPlace (h : layout.readContaining p = .inPlace) :
    layout.moveToGenDir p = p := by
  unfold readContaining keptText? at h
  unfold moveToGenDir
  cases hmodule : dependencyModule? p with
  | some module => simp [hmodule] at h
  | none =>
      rw [hmodule] at h
      simp only [replaceBasePath,
        replaceRoot_eq_map layout.genDir.isNormal_path]
      cases hbelow : textBelow? layout.basePath.path p with
      | some rest => simp [hbelow] at h
      | none => rfl

theorem view_moveToGenDir_of_moved (h : layout.readContaining p = .moved way) :
    IsNormal (layout.moveToGenDir p) ∧ isRooted (layout.moveToGenDir p) = true ∧
      view (layout.moveToGenDir p) = ((view layout.genDir.path).1,
        collapse (view layout.genDir.path).1
          ((view layout.genDir.path).2 ++ way)) := by
  have hgen := layout.genDir.isRooted_path
  unfold readContaining keptText? at h
  unfold moveToGenDir
  cases hmodule : dependencyModule? p with
  | some module =>
      rw [hmodule] at h
      cases h
      refine ⟨isNormal_join _ _, isRooted_join hgen _, ?_⟩
      show view
        (layout.genDir.path.join
          [separator :: (dependencyFolder ++ separator :: module)]) = _
      rw [view_join_separator_cons hgen, view_join_eq_collapse_wayOf hgen]
  | none =>
      rw [hmodule] at h
      simp only [replaceBasePath,
        replaceRoot_eq_map layout.genDir.isNormal_path]
      cases hbelow : textBelow? layout.basePath.path p with
      | none => simp [hbelow] at h
      | some rest =>
          simp only [hbelow, Reading.moved.injEq] at h
          subst h
          exact ⟨isNormal_join _ _, isRooted_join hgen _,
            view_join_eq_collapse_wayOf hgen rest⟩

theorem readContaining_ne_named {module : Path} :
    layout.readContaining p ≠ .named module := by
  unfold readContaining
  split
  · exact Reading.noConfusion
  · exact Reading.noConfusion

/-- The place of a file among generated files, or where it stays. -/
def Reading.placeIn (layout : Layout) (place : Root × List Path) :
    Reading → Root × List Path
  | .moved way =>
    ((view layout.genDir.path).1,
      collapse (view layout.genDir.path).1 ((view layout.genDir.path).2 ++ way))
  | _ => place

theorem view_moveToGenDir_eq_placeIn (layout : Layout) (p : Path) :
    view (layout.moveToGenDir p)
      = (layout.readContaining p).placeIn layout (view p) := by
  cases hread : layout.readContaining p with
  | named module => exact absurd hread readContaining_ne_named
  | moved way => exact (view_moveToGenDir_of_moved hread).2.2
  | inPlace =>
      rw [moveToGenDir_of_inPlace hread]
      rfl

theorem isRooted_moveToGenDir (hr : isRooted p = true) :
    isRooted (layout.moveToGenDir p) = true := by
  cases hread : layout.readContaining p with
  | named module => exact absurd hread readContaining_ne_named
  | moved way => exact (view_moveToGenDir_of_moved hread).2.1
  | inPlace =>
      rw [moveToGenDir_of_inPlace hread]
      exact hr

theorem view_origin_congr (hspelled : IsRespelling p q)
    (h : layout.readContaining p = layout.readContaining q) :
    view (layout.origin p) = view (layout.origin q) := by
  unfold origin
  cases hread : layout.readContaining q with
  | named module => exact absurd hread readContaining_ne_named
  | moved way =>
      rw [hread] at h
      have hp := view_moveToGenDir_of_moved h
      have hq := view_moveToGenDir_of_moved hread
      rw [eq_of_view_eq hp.1 hq.1 hp.2.1 hq.2.1 (hp.2.2.trans hq.2.2.symm)]
  | inPlace =>
      rw [hread] at h
      have hp := view_dirname_of_namesFile hspelled.isRooted_left
        hspelled.namesFile_left
      have hq := view_dirname_of_namesFile hspelled.isRooted_right
        hspelled.namesFile_right
      rw [moveToGenDir_of_inPlace h, moveToGenDir_of_inPlace hread, hp.2, hq.2,
        hspelled.view_eq]

/-! ## Ways below a directory -/

/-- The way to a file ends with its name. -/
theorem exists_wayOf_eq_concat
    (hfile : NamesFile (front ++ separator :: rest)) :
    ∃ before name, wayOf rest = before ++ [name] ∧ IsPlain name := by
  rcases hfile with ⟨start, name, hp, hname⟩
  have hsplit := congrArg (List.splitOn separator) hp
  rw [normalizeSeparators_append, normalizeSeparators_separator_cons,
    List.splitOn_append_cons_self, List.splitOn_append_cons_self,
    List.splitOn_eq_singleton hname.separator_notMem] at hsplit
  rcases List.eq_nil_or_concat ((normalizeSeparators rest).splitOn separator)
    with hnil | ⟨before, last, hrest⟩
  · exact absurd hnil (List.splitOn_ne_nil _ _)
  · rw [hrest, List.concat_eq_append, ← List.append_assoc] at hsplit
    obtain rfl := List.singleton_inj.1 (List.append_inj' hsplit rfl).2
    rw [wayOf, hrest, List.concat_eq_append,
      collapse_concat_of_isPlain before hname]
    exact ⟨_, _, rfl, hname⟩

/-- What lies behind a directory is the way from there. -/
theorem view_eq_collapse_wayOf
    (hr : isRooted (front ++ separator :: rest) = true) :
    view (front ++ separator :: rest) = ((view (front ++ [separator])).1,
      collapse (view (front ++ [separator])).1
        ((view (front ++ [separator])).2 ++ wayOf rest)) := by
  rw [view_front_append (isRooted_append_separator_of_cons hr), wayOf,
    collapse_append_collapse_none _ _ fun s hs =>
      separator_notMem_of_mem_splitOn hs]

theorem exists_wayOf_eq_climbs (rest : Path) :
    ∃ n entered, wayOf rest = List.replicate n up ++ entered ∧ ∀ s ∈ entered,
      IsPlain s := by
  have hcollapsed : IsCollapsed .none (wayOf rest) :=
    isCollapsed_collapse (backslash_notMem_normalizeSeparators rest)
  rcases hcollapsed.climbs with ⟨n, entered, heq, hentered, -⟩
  refine ⟨n, entered, heq,
    fun s hs => ⟨hentered s hs, hcollapsed.backslash_notMem s ?_⟩⟩
  rw [heq]
  exact List.mem_append_right _ hs

/-- A way without climbs ends the path that it is a way to. -/
theorem wayOf_isSuffix_view (hr : isRooted (front ++ separator :: rest) = true)
    (h : ∀ s ∈ wayOf rest, IsPlain s) :
    wayOf rest <:+ (view (front ++ separator :: rest)).2 := by
  have hfront := isPlace_view (isRooted_append_separator_of_cons hr)
  rw [view_eq_collapse_wayOf hr, collapse_of_isPlain]
  · exact List.suffix_append _ _
  · intro s hs
    cases List.mem_append.1 hs with
    | inl hmem => exact hfront.isPlain s hmem
    | inr hmem => exact h s hmem

/-- The segments of a path in normal form stand in its text, behind what ends at
the first separator. -/
theorem exists_splitOn_eq_cons (hq : IsNormal q) (hr : isRooted q = true)
    (hne : (view q).2 ≠ []) :
    ∃ first, q.splitOn separator = first :: (view q).2 := by
  have hplace := isPlace_view hr
  have htext := hq.render_view hr
  rw [render_of_isRooted hplace.isRooted] at htext
  rcases Root.exists_text_eq hplace.isReadable hplace.isRooted with
    ⟨first, hfirst, hroot⟩
  rw [hroot, List.append_assoc, List.singleton_append] at htext
  have hsplit := congrArg (List.splitOn separator) htext
  rw [List.splitOn_append_cons_self, List.splitOn_eq_singleton hfirst,
    List.splitOn_intercalate separator
      (separator_notMem_of_isPlain hplace.isPlain) hne] at hsplit
  exact ⟨first, hsplit.symm⟩

/-- A path in normal form nowhere climbs. -/
theorem isPlain_wayOf (hq : IsNormal (front ++ separator :: rest))
    (hr : isRooted (front ++ separator :: rest) = true)
    (hne : (view (front ++ separator :: rest)).2 ≠ []) :
    ∀ s ∈ wayOf rest, IsPlain s := by
  have hplain := (isPlace_view hr).isPlain
  have hback : '\\' ∉ front ++ separator :: rest := by
    rw [← hq, ← normalizeSeparators_normalize]
    exact backslash_notMem_normalizeSeparators _
  rcases exists_splitOn_eq_cons hq hr hne with ⟨first, hsplit⟩
  rw [List.splitOn_append_cons_self] at hsplit
  have hrest : ∀ s ∈ rest.splitOn separator, IsPlain s := by
    intro s hs
    cases hfront : front.splitOn separator with
    | nil => exact absurd hfront (List.splitOn_ne_nil _ _)
    | cons start others =>
        rw [hfront, List.cons_append] at hsplit
        apply hplain
        rw [← (List.cons.inj hsplit).2]
        exact List.mem_append_right _ hs
  have hself : normalizeSeparators rest = rest := by
    apply normalizeSeparators_eq_self
    exact fun hmem =>
      hback (List.mem_append_right _ (List.mem_cons_of_mem _ hmem))
  rw [wayOf, hself, collapse_of_isPlain hrest]
  exact hrest

/-! ## What is read of a file -/

theorem exists_eq_append_of_textBelow? {base : Path}
    (h : textBelow? base p = some rest) (hne : p ≠ base) :
    ∃ front, p = front ++ separator :: rest := by
  rw [textBelow?, if_neg hne, List.isPrefixOf?_eq_some_iff_append_eq] at h
  rcases exists_withSeparator_eq base with ⟨front, hfront⟩
  refine ⟨front, ?_⟩
  rw [← h, hfront]
  simp

/-- What is moved is moved by the way that ends its text. -/
theorem exists_eq_append_of_moved (h : layout.readContaining p = .moved way)
    (hne : p ≠ layout.basePath.path) :
    ∃ front rest, p = front ++ separator :: rest ∧ way = wayOf rest := by
  unfold readContaining keptText? at h
  cases hmodule : dependencyModule? p with
  | some module =>
      rw [hmodule] at h
      cases h
      rcases exists_eq_of_dependencyModule? hmodule with ⟨front, hfront⟩
      exact ⟨front, _, hfront, rfl⟩
  | none =>
      rw [hmodule] at h
      cases hbelow : textBelow? layout.basePath.path p with
      | none => simp [hbelow] at h
      | some rest =>
          simp only [hbelow, Reading.moved.injEq] at h
          rcases exists_eq_append_of_textBelow? hbelow hne with ⟨front, hfront⟩
          exact ⟨front, rest, hfront, h.symm⟩

theorem ne_basePath_of_view_ne (h : view p ≠ view layout.basePath.path) :
    p ≠ layout.basePath.path :=
  fun heq => h (congrArg view heq)

theorem view_moveToGenDir_ne_nil (layout : Layout) (hr : isRooted p = true)
    (hfile : NamesFile p) (hbase : view p ≠ view layout.basePath.path) :
    (view (layout.moveToGenDir p)).2 ≠ [] := by
  rw [layout.view_moveToGenDir_eq_placeIn]
  cases hread : layout.readContaining p with
  | named module => exact absurd hread readContaining_ne_named
  | moved way =>
      rcases exists_eq_append_of_moved hread (ne_basePath_of_view_ne hbase) with
        ⟨front, rest, rfl, rfl⟩
      rcases exists_wayOf_eq_concat hfile with ⟨before, name, hway, hname⟩
      rw [Reading.placeIn, hway, ← List.append_assoc,
        collapse_concat_of_isPlain _ hname]
      exact List.concat_ne_nil _ _
  | inPlace =>
      exact hfile.view_ne_nil hr

/-! ## What a path is imported by -/

theorem view_join_dependencyFolder_module (layout : Layout) (module : Path) :
    view (layout.genDir.path.join [dependencyFolder, module])
      = view (layout.genDir.path.join
        [dependencyFolder ++ separator :: module]) := by
  by_cases hmodule : module = []
  · subst hmodule
    have hgen := layout.genDir.isRooted_path
    have hway : wayOf (dependencyFolder ++ [separator])
        = [dependencyFolder] := by
      decide
    have hfolder : IsPlain dependencyFolder := by
      decide
    have hplace := (isPlace_view hgen).concat hfolder
    show view (layout.genDir.path.join [dependencyFolder]) = _
    rw [view_join_of_isPlain hgen hfolder,
      view_join_eq_collapse_wayOf hgen, hway,
      collapse_of_isPlain hplace.isPlain]
  · exact congrArg (fun p => view (normalize p))
      (append_append _ (by decide) (by decide) hmodule)

theorem FileRole.dependency?_classify (p : Path) :
    (FileRole.classify p).dependency? = dependencyModule? p := by
  unfold FileRole.classify
  split
  · rfl
  · split
    · rfl
    · cases dependencyModule? p with
      | none => rfl
      | some module => rfl

theorem destination_of_named {module : Path}
    (h : layout.readImported imported = .named module) :
    layout.destination imported = .name module := by
  unfold readImported at h
  unfold destination
  cases hrole : FileRole.classify imported.withoutExtension with
  | dependency other =>
      simp only [hrole] at h ⊢
      cases h
      rfl
  | generated dependency =>
      simp only [hrole] at h
      exact absurd h readContaining_ne_named
  | declaration dependency =>
      cases dependency with
      | some other =>
          simp only [hrole] at h ⊢
          cases h
          rfl
      | none =>
          simp only [hrole] at h
          split at h
          · cases h
          · exact absurd h readContaining_ne_named
  | source =>
      simp only [hrole] at h
      split at h
      · cases h
      · exact absurd h readContaining_ne_named

theorem source_placeIn (layout : Layout) (hr : isRooted p = true)
    (h : dependencyModule? p = none) :
    let target := if layout.genDirInsideBasePath then p
      else layout.replaceBasePath p
    isRooted target = true ∧
      view target = (if layout.genDirInsideBasePath then Reading.inPlace
        else layout.readContaining p).placeIn layout (view p) := by
  have hmoved : layout.replaceBasePath p = layout.moveToGenDir p := by
    rw [moveToGenDir, h]
  dsimp only
  split
  · exact ⟨hr, rfl⟩
  · rw [hmoved]
    exact ⟨isRooted_moveToGenDir hr, layout.view_moveToGenDir_eq_placeIn p⟩

theorem dependency_placeIn (layout : Layout) {module : Path}
    (h : dependencyModule? p = some module) :
    isRooted (layout.genDir.path.join [dependencyFolder, module]) = true ∧
      view (layout.genDir.path.join [dependencyFolder, module])
        = (layout.readContaining p).placeIn layout (view p) := by
  have hgen := layout.genDir.isRooted_path
  have hread : layout.readContaining p
      = .moved (wayOf (dependencyFolder ++ separator :: module)) := by
    unfold readContaining keptText?
    rw [h]
  constructor
  · apply (isNormal_join _ _).isRooted
    rw [view_join_dependencyFolder_module, view_join hgen]
    exact isRooted_view hgen
  · rw [view_join_dependencyFolder_module,
      view_join_eq_collapse_wayOf hgen, hread]
    rfl

/-- What is not imported by name is imported by the way to its place. -/
theorem exists_destination_eq_place (hr : isRooted imported = true)
    (h : ∀ module, layout.readImported imported ≠ .named module) :
    ∃ target, layout.destination imported = .place target ∧
      isRooted target = true ∧
      view target
        = (layout.readImported imported).placeIn layout
          (view imported.withoutExtension) := by
  have hstem := isRooted_withoutExtension hr
  have hmodule := FileRole.dependency?_classify imported.withoutExtension
  cases hrole : FileRole.classify imported.withoutExtension with
  | dependency module =>
      simp only [readImported, hrole] at h
      exact absurd rfl (h module)
  | generated dependency =>
      rw [hrole] at hmodule
      simp only [readImported, destination, hrole]
      cases dependency with
      | none =>
          exact ⟨_, rfl, isRooted_moveToGenDir hstem,
            layout.view_moveToGenDir_eq_placeIn _⟩
      | some module =>
          exact ⟨_, rfl, layout.dependency_placeIn hmodule.symm⟩
  | declaration dependency =>
      cases dependency with
      | some module =>
          simp only [readImported, hrole] at h
          exact absurd rfl (h module)
      | none =>
          rw [hrole] at hmodule
          have hplace := layout.source_placeIn hstem hmodule.symm
          simp only [readImported, destination, hrole,
            isShallowImport_of_isRooted hplace.1]
          exact ⟨_, rfl, hplace⟩
  | source =>
      rw [hrole] at hmodule
      have hplace := layout.source_placeIn hstem hmodule.symm
      simp only [readImported, destination, hrole,
        isShallowImport_of_isRooted hplace.1]
      exact ⟨_, rfl, hplace⟩

/-! ## Two spellings -/

/-- Two spellings of a file of which the same is read are imported, and import,
by the same specifiers. -/
theorem specifierOf_congr (himported : IsRespelling imported other)
    (hcontaining : IsRespelling containing another)
    (hi : layout.readImported imported = layout.readImported other)
    (hc : layout.readContaining containing = layout.readContaining another) :
    layout.specifierOf imported containing
      = layout.specifierOf other another := by
  have horigin := view_origin_congr hcontaining hc
  rw [specifierOf_eq_spelledFrom, specifierOf_eq_spelledFrom]
  by_cases hnamed : ∃ module, layout.readImported other = .named module
  · rcases hnamed with ⟨module, hread⟩
    rw [destination_of_named (hi.trans hread), destination_of_named hread]
    rfl
  · have hplaced : ∀ module, layout.readImported other ≠ .named module :=
      fun module hread => hnamed ⟨module, hread⟩
    rcases exists_destination_eq_place himported.isRooted_left
      (hi ▸ hplaced) with
      ⟨target, hdestination, htarget, hview⟩
    rcases exists_destination_eq_place himported.isRooted_right hplaced with
      ⟨goal, hgoal, hgoalr, hgoalview⟩
    have htargets : view target = view goal := by
      rw [hview, hgoalview, hi, himported.view_withoutExtension_eq]
    rw [hdestination, hgoal]
    exact (dotRelative_congr horigin target).trans
      (dotRelative_target_congr htarget hgoalr htargets)

end Layout
end BuildHost
