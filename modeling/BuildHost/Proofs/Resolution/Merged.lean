import BuildHost.Proofs.Path.Inside
import BuildHost.Proofs.Resolution.RoundTrip

/-!
# Root directories as one merged directory

A relative specifier that stays inside its root directory names one place in all
of them.  When a file is found at that place in one root directory only, it is
found from every one of them (`resolver_merged`).
-/

namespace BuildHost
namespace NodeResolution

open BuildHost.Path

/-! ## The only place that loads -/

theorem findSome?_eq_some_iff_of_only {α β : Type} {f : α → Option β}
    {items : List α}
    (h : ∀ a ∈ items, ∀ b ∈ items, (f a).isSome = true →
      (f b).isSome = true → a = b)
    {result : β} :
    items.findSome? f = some result ↔ ∃ a ∈ items, f a = some result := by
  constructor
  · intro hfind
    exact List.exists_of_findSome?_eq_some hfind
  · rintro ⟨a, ha, hresult⟩
    cases hfind : items.findSome? f with
    | none =>
        rw [List.findSome?_eq_none_iff.1 hfind a ha] at hresult
        cases hresult
    | some other =>
        rcases List.exists_of_findSome?_eq_some hfind with ⟨b, hb, hother⟩
        have hsame : a = b :=
          h a ha b hb (by rw [hresult]; rfl) (by rw [hother]; rfl)
        rw [← hother, ← hsame, hresult]

/-! ## A place inside of every root directory -/

section Merged

variable {roots : List Directory}
  (hapart : ∀ dir ∈ roots, ∀ other ∈ roots, dir ≠ other →
    dir.path.isWithin other.path = false)

include hapart in
theorem mergedPlaces_of_inside {root : Directory} (hroot : root ∈ roots)
    {inner : List Path} (hplain : ∀ t ∈ inner, IsPlain t)
    (hspells : spellsDrive inner = false) {p : Path} (hp : IsNormal p)
    (hview : view p = ((view root.path).1, (view root.path).2 ++ inner)) :
    mergedPlaces (roots.map (·.path)) p
      = (root.path :: (roots.map (·.path)).filter (· ≠ root.path)).map
          (·.join [render .none inner]) := by
  have hr : p.isRooted = true := by
    apply hp.isRooted
    rw [hview]
    exact isRooted_view root.isRooted_path
  have hwithin : root.path.isWithin p = true :=
    (isWithin_iff hr).2 ⟨inner, hview, hspells⟩
  have honly : ∀ other ∈ roots.map (·.path), other.isWithin p = true →
      other = root.path := by
    intro path hpath hother
    rcases List.mem_map.1 hpath with ⟨other, hmem, rfl⟩
    by_cases hsame : other = root
    · rw [hsame]
    · rcases isWithin_or_isWithin root.isRooted_path other.isRooted_path hr
        hview hspells hother with
        hnested | hnested
      · rw [hapart other hmem root hroot hsame] at hnested
        cases hnested
      · rw [hapart root hroot other hmem (Ne.symm hsame)] at hnested
        cases hnested
  have hplace : p = root.path.join [render .none inner] :=
    eq_of_view_eq hp (isNormal_join _ _) hr (isRooted_join root.isRooted_path _)
      (hview.trans (view_join_render root.isRooted_path hplain).symm)
  rw [mergedPlaces_of_unique (List.mem_map_of_mem hroot) hwithin honly,
    relative_of_view hview, List.map_cons, ← hplace]
  congr 1
  apply List.map_congr_left
  intro path hpath
  rcases List.mem_map.1 (List.mem_of_mem_filter hpath) with ⟨other, -, rfl⟩
  apply eq_of_view_eq (isNormal_join _ _) (isNormal_join _ _)
    (isRooted_join other.isRooted_path _) (isRooted_join other.isRooted_path _)
  rw [view_join_intercalate other.isRooted_path hplain,
    view_join_render other.isRooted_path hplain]

variable {host : ResolutionHost} {c s : Path} (hc : IsNormal c)
  (hcr : c.isRooted = false) (hhere : c ≠ here) (hup : c ≠ up)
  (hs : isRelative s = true) (hinside : (c.dirname.join [s]).staysInside = true)
  (honly : ∀ dir ∈ roots, ∀ other ∈ roots,
    (load host (dir.path.join [c.dirname.join [s]])).isSome = true →
    (load host (other.path.join [c.dirname.join [s]])).isSome = true →
      dir = other)

include hapart hc hcr hhere hup hs hinside honly in
theorem target_eq_some_iff_of_merged {root : Directory} (hroot : root ∈ roots)
    {file : Path} :
    (resolver (roots.map (·.path)) host s (root.path.join [c])).target
      = some file ↔
        ∃ dir ∈ roots, load host (dir.path.join [c.dirname.join [s]])
          = some file := by
  have hne : s ≠ [] := by
    rintro rfl
    cases hs
  rcases exists_inside_of_join_dirname hc hcr hhere hup hne hinside with
    ⟨front, last, htext, hfile, hjoin, hplain, hspells⟩
  have hview := view_join_dirname_inside root.isRooted_path hfile hplain
  rw [← htext] at hview
  have hplaces := mergedPlaces_of_inside hapart hroot hplain hspells
    (isNormal_join _ _) hview.2
  rw [← hjoin] at hplaces
  -- the owner is tried first, the others in their order; the members are those
  -- of the list
  have hmem : ∀ path,
      path ∈ root.path :: (roots.map (·.path)).filter (· ≠ root.path) ↔
      ∃ dir ∈ roots, dir.path = path := by
    intro path
    rw [List.mem_cons, List.mem_filter, decide_eq_true_iff]
    constructor
    · rintro (heq | hother)
      · exact ⟨root, hroot, heq.symm⟩
      · exact List.mem_map.1 hother.1
    · intro hdir
      by_cases heq : path = root.path
      · exact .inl heq
      · exact .inr ⟨List.mem_map.2 hdir, heq⟩
  show (resolveAmong host (places _ host s _)).target = some file ↔ _
  rw [places_of_isRelative hs, target_resolveAmong, hplaces, List.findSome?_map,
    findSome?_eq_some_iff_of_only]
  · constructor
    · rintro ⟨path, hpath, hload⟩
      rcases (hmem path).1 hpath with ⟨dir, hdir, heq⟩
      rw [← heq] at hload
      exact ⟨dir, hdir, hload⟩
    · rintro ⟨dir, hdir, hload⟩
      exact ⟨dir.path, (hmem dir.path).2 ⟨dir, hdir, rfl⟩, hload⟩
  · intro path hpath other hother hload hloads
    rcases (hmem path).1 hpath with ⟨dir, hdir, rfl⟩
    rcases (hmem other).1 hother with ⟨dir', hdir', rfl⟩
    rw [honly dir hdir dir' hdir' hload hloads]

include hapart hc hcr hhere hup hs hinside honly in
/-- From every root directory, a relative specifier that stays inside leads to
the only file that is found at its place in any of them, and to none when there
is none.  A place such as `C:/x` counts as rooted, so that a specifier which
leads there does not stay inside. -/
theorem resolver_merged {first second : Directory} (hfirst : first ∈ roots)
    (hsecond : second ∈ roots) :
    (resolver (roots.map (·.path)) host s (first.path.join [c])).target
        = (resolver (roots.map (·.path)) host s (second.path.join [c])).target ∧
      ∀ file,
        (resolver (roots.map (·.path)) host s (first.path.join [c])).target
          = some file ↔
        ∃ dir ∈ roots, load host (dir.path.join [c.dirname.join [s]])
          = some file := by
  constructor
  · apply Option.ext
    intro file
    rw [target_eq_some_iff_of_merged hapart hc hcr hhere hup hs hinside
      honly hfirst, target_eq_some_iff_of_merged hapart hc hcr hhere hup hs
        hinside honly hsecond]
  · intro file
    exact target_eq_some_iff_of_merged hapart hc hcr hhere hup hs hinside
      honly hfirst

end Merged

/-- A file beside the sources is found from among them. -/
theorem resolver_merged_outsideDir :
    let roots := [Layout.innerDir, Layout.outsideDir]
    let host := (Layout.singleFile "/g/b/y.d.ts".toList).resolutionHost
    let c : Path := "a/x.ts".toList
    let s : Path := "../b/y".toList
    (resolver (roots.map (·.path)) host s
      (Layout.innerDir.path.join [c])).target
        = some "/g/b/y.d.ts".toList ∧
      (resolver (roots.map (·.path)) host s
        (Layout.innerDir.path.join [c])).target
        = (resolver (roots.map (·.path)) host s
          (Layout.outsideDir.path.join [c])).target := by
  intro roots host c s
  have hapart : ∀ dir ∈ roots, ∀ other ∈ roots,
      dir ≠ other → dir.path.isWithin other.path = false := by
    decide
  have hc : IsNormal c ∧ c.isRooted = false ∧ c ≠ here ∧ c ≠ up := by
    decide
  have hs : isRelative s = true ∧ (c.dirname.join [s]).staysInside = true := by
    decide
  have honly : ∀ dir ∈ roots, ∀ other ∈ roots,
      (load host (dir.path.join [c.dirname.join [s]])).isSome = true →
      (load host (other.path.join [c.dirname.join [s]])).isSome = true →
      dir = other := by
    decide
  have hfound : load host (Layout.outsideDir.path.join [c.dirname.join [s]])
      = some "/g/b/y.d.ts".toList := by
    decide
  have hinner : Layout.innerDir ∈ roots := List.mem_cons_self
  have houtside : Layout.outsideDir ∈ roots :=
    List.mem_cons_of_mem _ List.mem_cons_self
  have hmerged := resolver_merged hapart hc.1 hc.2.1 hc.2.2.1 hc.2.2.2 hs.1 hs.2
    honly hinner houtside
  exact ⟨(hmerged.2 _).2 ⟨Layout.outsideDir, houtside, hfound⟩, hmerged.1⟩

end NodeResolution
end BuildHost
