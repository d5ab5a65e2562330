import BuildHost.Proofs.Path.Containment
import BuildHost.Resolution.Node

/-!
# Places that a specifier may name

A dotted specifier names the place that it leads to from the containing file,
and the same place in the other root directories (`places_of_isDotted`,
`mergedPlaces_of_unique`); the first place that loads is taken
(`target_resolveAmong`).
-/

namespace BuildHost
namespace NodeResolution

open BuildHost.Path

variable {host : ResolutionHost} {roots : List Path} {candidate : Path}

/-! ## Loading a place -/

theorem mem_sourceExtensions_of_mem_extensions :
    ∀ ending ∈ extensions, ending ∈ sourceExtensions := by
  decide

theorem loadAsFile_of_not_isSuffixOf
    (h : ∀ ending ∈ extensions, ending.isSuffixOf candidate = false) :
    loadAsFile host candidate
      = (extensions.map (candidate ++ ·)).find? host.fileExists := by
  have hany : (extensions.any fun ending => ending.isSuffixOf candidate)
      = false := by
    rw [List.any_eq_false]
    intro ending hmem
    rw [h ending hmem]
    decide
  rw [loadAsFile, hany, Bool.false_and, if_neg (by decide)]

theorem load_eq_none
    (h : ∀ ending ∈ extensions, ending.isSuffixOf candidate = false)
    (hfiles : ∀ ending ∈ extensions, host.fileExists (candidate ++ ending)
      = false)
    (hfolder : host.directoryExists candidate = false) :
    load host candidate = none := by
  have hfind : (extensions.map (candidate ++ ·)).find? host.fileExists
      = none := by
    rw [List.find?_eq_none]
    intro file hfile
    rcases List.mem_map.1 hfile with ⟨ending, hmem, rfl⟩
    rw [hfiles ending hmem]
    decide
  rw [load, loadAsFile_of_not_isSuffixOf h, hfind, loadAsDirectory, hfolder]
  rfl

theorem load_eq_some {file : Path}
    (h : ∀ ending ∈ extensions, ending.isSuffixOf candidate = false)
    (hfile : (extensions.map (candidate ++ ·)).find? host.fileExists
      = some file) :
    load host candidate = some file := by
  rw [load, loadAsFile_of_not_isSuffixOf h, hfile]
  rfl

/-! ## Root directories as one -/

theorem foldl_owner_of_forall_eq {owner : Path} (within : List Path)
    (h : ∀ root ∈ within, root = owner) :
    within.foldl (fun owner root =>
      match owner with
      | none => some root
      | some best =>
        if Utf8.byteLength best ≤ Utf8.byteLength root then some root
        else some best)
      (some owner) = some owner := by
  induction within with
  | nil => rfl
  | cons root rest ih =>
      obtain rfl : root = owner := h root List.mem_cons_self
      rw [List.foldl_cons]
      simp only [ite_self]
      exact ih fun other hother => h other (List.mem_cons_of_mem _ hother)

/-- The only root directory around a place owns it. -/
theorem ownerOf_of_unique {owner : Path} (hmem : owner ∈ roots)
    (hwithin : owner.isWithin candidate = true)
    (honly : ∀ root ∈ roots, root.isWithin candidate = true → root = owner) :
    ownerOf roots candidate = some owner := by
  have hfilter : ∀ root ∈ roots.filter (fun root => root.isWithin candidate),
      root = owner := by
    intro root hroot
    rcases List.mem_filter.1 hroot with ⟨hroot, h⟩
    exact honly root hroot h
  have hin : owner ∈ roots.filter (fun root => root.isWithin candidate) :=
    List.mem_filter.2 ⟨hmem, hwithin⟩
  rw [ownerOf]
  cases hlist : roots.filter fun root => root.isWithin candidate with
  | nil =>
      rw [hlist] at hin
      exact absurd hin List.not_mem_nil
  | cons root rest =>
      rw [hlist] at hfilter
      obtain rfl : root = owner := hfilter root List.mem_cons_self
      rw [List.foldl_cons]
      exact foldl_owner_of_forall_eq rest fun other hother =>
        hfilter other (List.mem_cons_of_mem _ hother)

theorem mergedPlaces_of_unique {owner : Path} (hmem : owner ∈ roots)
    (hwithin : owner.isWithin candidate = true)
    (honly : ∀ root ∈ roots, root.isWithin candidate = true → root = owner) :
    mergedPlaces roots candidate
      = candidate :: (roots.filter (· ≠ owner)).map fun root =>
        root.join [owner.relative candidate] := by
  rw [mergedPlaces, ownerOf_of_unique hmem hwithin honly]

/-! ## Relative specifiers -/

theorem head_of_isRelative {s : Path} (h : isRelative s = true) :
    s.head? = some '.' := by
  unfold isRelative at h
  rw [Bool.or_eq_true, Bool.or_eq_true, Bool.or_eq_true, decide_eq_true_iff,
    decide_eq_true_iff, List.isPrefixOf_iff_prefix,
    List.isPrefixOf_iff_prefix] at h
  rcases h with ((⟨rest, rfl⟩ | ⟨rest, rfl⟩) | rfl) | rfl
  · rfl
  · rfl
  · rfl
  · rfl

theorem isRooted_of_isRelative {s : Path} (h : isRelative s = true) :
    s.isRooted = false := by
  rcases List.head?_eq_some_iff.1 (head_of_isRelative h) with ⟨rest, rfl⟩
  show (splitRoot ('.' :: normalizeSeparators rest)).1.isRooted = false
  unfold splitRoot
  split
  next heq => cases heq
  next heq =>
      rw [← (List.cons.inj heq).1]
      rfl
  next => rfl

theorem places_of_isRelative {s : Path} (h : isRelative s = true)
    (containing : Path) :
    places roots host s containing
      = mergedPlaces roots (containing.dirname.join [s]) := by
  rw [places, isRooted_of_isRelative h, h]
  rfl

/-! ## Dotted specifiers -/

theorem isRelative_of_isDotted {s : Path} (h : IsDotted s) :
    isRelative s = true := by
  rcases h with ⟨rest, rfl⟩ | ⟨rest, rfl⟩ | rfl
  · rfl
  · rfl
  · rfl

theorem places_of_isDotted {s containing : Path} (h : IsDotted s) :
    places roots host s containing
      = mergedPlaces roots (containing.dirname.join [s]) :=
  places_of_isRelative (isRelative_of_isDotted h) containing

/-! ## The first place that loads -/

theorem target_resolveAmong (host : ResolutionHost) (candidates : List Path) :
    (resolveAmong host candidates).target
      = candidates.findSome? (load host) := by
  induction candidates with
  | nil => rfl
  | cons candidate rest ih =>
      rw [resolveAmong, List.findSome?_cons]
      cases load host candidate with
      | none => exact ih
      | some file => rfl

end NodeResolution
end BuildHost
