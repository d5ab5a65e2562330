import BuildHost.Proofs.Build.Session
import BuildHost.Proofs.Resolution.Among

/-!
# Files that are resolved from themselves

The path of a file is a specifier too, and reading it takes the ending off.
What is left names a module, of which a file counts only when no other comes
before it (`target_resolve_self`): another ending that is tried first, or the
module's name itself when it still ends like a source file.
-/

namespace BuildHost

theorem find?_eq_takeWhile_ne {α : Type} [DecidableEq α] {items : List α}
    {a : α} {f : α → Bool} (hmem : a ∈ items) (hf : f a = true) :
    items.find? f = some (((items.takeWhile (· ≠ a)).find? f).getD a) := by
  induction items with
  | nil => cases hmem
  | cons item rest ih =>
      by_cases hitem : item = a
      · subst hitem
        rw [List.find?_cons_of_pos hf, List.takeWhile_cons_of_neg (by simp)]
        rfl
      · rw [List.takeWhile_cons_of_pos (by simpa using hitem)]
        by_cases hfirst : f item = true
        · rw [List.find?_cons_of_pos hfirst, List.find?_cons_of_pos hfirst]
          rfl
        · rw [List.find?_cons_of_neg hfirst, List.find?_cons_of_neg hfirst]
          exact ih ((List.mem_cons.1 hmem).resolve_left (Ne.symm hitem))

namespace NodeResolution

open BuildHost.Path

variable {host : ResolutionHost} {p : Path}

/-! ## The files of a module -/

/-- The files that are looked for before the given one when its module is
named. -/
def earlierFiles (p : Path) : List Path :=
  (if extensions.any (·.isSuffixOf p.withoutExtension) then [p.withoutExtension]
    else []) ++
    (extensions.map (p.withoutExtension ++ ·)).takeWhile (· ≠ p)

theorem ne_of_mem_earlierFiles (hends : ∃ ending ∈ extensions, ending <:+ p)
    {q : Path} (hq : q ∈ earlierFiles p) : q ≠ p := by
  rcases List.mem_append.1 hq with hq | hq
  · rcases hends with ⟨ending, hmem, hending⟩
    rcases Layout.exists_extension_of_isSuffix hmem hending with
      ⟨taken, htaken, heq⟩
    have hne : taken ≠ [] := by
      rintro rfl
      exact absurd htaken (by decide)
    split at hq
    · rw [List.mem_singleton.1 hq]
      intro hself
      rw [hself] at heq
      exact hne (List.append_right_eq_self.1 heq)
    · cases hq
  · simpa using List.all_eq_true.1 List.all_takeWhile q hq

theorem getD_find?_earlierFiles_eq_self_iff
    (hends : ∃ ending ∈ extensions, ending <:+ p) :
    ((earlierFiles p).find? host.fileExists).getD p = p ↔
      ∀ q ∈ earlierFiles p, host.fileExists q = false := by
  cases hfind : (earlierFiles p).find? host.fileExists with
  | none =>
      rw [List.find?_eq_none] at hfind
      simpa using hfind
  | some found =>
      have hmem := List.mem_of_find?_eq_some hfind
      have hfound := List.find?_some hfind
      constructor
      · intro hself
        exact absurd hself (ne_of_mem_earlierFiles hends hmem)
      · intro hnone
        rw [hnone found hmem] at hfound
        cases hfound

theorem loadAsFile_withoutExtension
    (hends : ∃ ending ∈ extensions, ending <:+ p)
    (hexists : host.fileExists p = true) :
    loadAsFile host p.withoutExtension
      = some (((earlierFiles p).find? host.fileExists).getD p) := by
  have hmem : p ∈ extensions.map (p.withoutExtension ++ ·) := by
    rcases hends with ⟨ending, hmem, hending⟩
    rcases Layout.exists_extension_of_isSuffix hmem hending with
      ⟨taken, htaken, heq⟩
    exact List.mem_map.2 ⟨taken, htaken, heq⟩
  unfold loadAsFile earlierFiles
  rw [find?_eq_takeWhile_ne hmem hexists, List.find?_append]
  by_cases hstem :
    (extensions.any fun ending => ending.isSuffixOf p.withoutExtension) = true
  · rw [if_pos hstem, hstem, Bool.true_and]
    by_cases hfile : host.fileExists p.withoutExtension = true
    · rw [if_pos hfile, List.find?_cons_of_pos hfile]
      rfl
    · rw [if_neg hfile, List.find?_cons_of_neg hfile]
      rfl
  · rw [if_neg hstem, if_neg (by simp [hstem])]
    rfl

/-! ## From a file to itself -/

theorem isNormal_withoutExtension (hp : IsNormal p) (hr : isRooted p = true)
    (h : lastSegment p.withoutExtension ∉ [[], here, up]) :
    IsNormal p.withoutExtension := by
  rcases hview : view p with ⟨root, segments⟩
  have hroot := isPlace_root_of_view hr hview
  rcases List.eq_nil_or_concat segments with rfl | ⟨front, last, rfl⟩
  · -- a root ends in a separator, so that nothing stands behind the last one
    have htext : p = render root [] := by
      rw [← hp.render_view hr, hview]
    rcases Root.exists_text_eq hroot.isReadable hroot.isRooted with
      ⟨before, -, hbefore⟩
    rw [render_of_isRooted hroot.isRooted, hbefore, List.intercalate_nil,
      List.append_nil] at htext
    have hstem : p.withoutExtension = before ++ [separator] := by
      rw [htext, withoutExtension_append_separator]
      rfl
    rw [hstem, lastSegment_append_separator before List.not_mem_nil] at h
    exact absurd List.mem_cons_self h
  · rw [List.concat_eq_append] at hview
    have hsegments : view p = ((view (render root [])).1,
        (view (render root [])).2 ++ (front ++ [last])) := by
      rw [hroot.view_render, List.nil_append, hview]
    exact (view_withoutExtension_below hp hr hroot.isNormal_render
      hroot.isRooted_render hsegments h).1

/-- The path of a file, read as a specifier, names the first file of the
module. -/
theorem target_resolve_self {roots : List Path} (hp : IsNormal p)
    (hr : isRooted p = true) (hends : ∃ ending ∈ extensions, ending <:+ p)
    (hexists : host.fileExists p = true)
    (hlast : lastSegment p.withoutExtension ∉ [[], here, up])
    (containing : Path) :
    (resolver roots host p.withoutExtension containing).target
      = some (((earlierFiles p).find? host.fileExists).getD p) := by
  have hnormal := isNormal_withoutExtension hp hr hlast
  show (resolveAmong host
    (places roots host p.withoutExtension containing)).target = _
  rw [target_resolveAmong, places, if_pos (isRooted_withoutExtension hr)]
  show List.findSome? (load host)
    (mergedPlaces roots (normalize p.withoutExtension)) = _
  rw [hnormal, mergedPlaces, List.findSome?_cons, load,
    loadAsFile_withoutExtension hends hexists]
  rfl

end NodeResolution
end BuildHost
