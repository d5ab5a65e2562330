import BuildHost.Proofs.Path.Containment

/-!
# One target seen from two directories

The way to a target says how deep its source lies: two directories with the root
of a target and different numbers of segments spell the way to it differently
(`dotRelative_eq_iff_of_length_ne`).  From a directory with another root a
target is spelled as it is, and from every such directory alike
(`dotRelative_of_root_ne`).
-/

namespace BuildHost
namespace Path

variable {source other target : Path}

/-! ## What the way to a target depends on -/

theorem dotRelative_congr (h : view source = view other) (target : Path) :
    dotRelative source target = dotRelative other target := by
  apply dotRelative_eq_of_relative
  by_cases hroot : (view source).1 = (view target).1
  · rw [relative_of_root_eq hroot, relative_of_root_eq (h ▸ hroot), h]
  · rw [relative_of_root_ne hroot, relative_of_root_ne (h ▸ hroot)]

theorem dotRelative_normalize (source target : Path) :
    dotRelative source (normalize target) = dotRelative source target := by
  have hview := view_normalize target
  simp only [dotRelative]
  by_cases hroot : (view source).1 = (view target).1
  · rw [relative_of_root_eq hroot,
      relative_of_root_eq (hview.symm ▸ hroot), hview]
  · rw [relative_of_root_ne hroot, relative_of_root_ne (hview.symm ▸ hroot),
      normalize_normalize]

theorem dotRelative_of_root_ne (hsource : (view source).1 ≠ (view target).1)
    (hother : (view other).1 ≠ (view target).1) :
    dotRelative source target = dotRelative other target := by
  apply dotRelative_eq_of_relative
  rw [relative_of_root_ne hsource, relative_of_root_ne hother]

/-- The normal form of a path is rooted when it is read as rooted, also where
the path itself is not, such as `a/../C:/b`. -/
theorem isRooted_normalize_of_view (h : (view target).1.isRooted = true) :
    isRooted (normalize target) = true := by
  have hnormal : IsNormal (normalize target) := normalize_normalize target
  apply hnormal.isRooted
  rw [view_normalize]
  exact h

/-! ## Directories of one root -/

theorem length_le_of_dotRelative_eq (hsource : isRooted source = true)
    (htarget : isRooted target = true)
    (hroot : (view source).1 = (view target).1)
    (hother : (view other).1 = (view target).1)
    (h : dotRelative source target = dotRelative other target) :
    (view source).2.length ≤ (view other).2.length := by
  -- the way from the other directory leads to the target from here as well
  have hled := view_join_dotRelative other hsource htarget
  rw [← h, view_join_dotRelative source hsource htarget, followed_self hroot,
    followed, if_pos hother] at hled
  have hlength := congrArg (fun place => place.2.length) hled
  have hshared := sharedLength_le_left (view other).2 (view target).2
  simp only [List.length_append, List.length_take, List.length_drop] at hlength
  omega

theorem dotRelative_eq_iff_of_length_ne (hsource : isRooted source = true)
    (hother : isRooted other = true) (hroot : (view source).1 = (view other).1)
    (hlength : (view source).2.length ≠ (view other).2.length) (target : Path) :
    dotRelative source target = dotRelative other target ↔
      (view target).1 ≠ (view source).1 ∧ (view target).1 ≠ (view other).1 := by
  rw [← hroot, and_self]
  constructor
  · intro heq htargetroot
    have htarget : isRooted (normalize target) = true :=
      isRooted_normalize_of_view (htargetroot ▸ isRooted_view hsource)
    have hview := view_normalize target
    rw [← dotRelative_normalize source, ← dotRelative_normalize other] at heq
    rw [← hview] at htargetroot
    have hotherroot := hroot.symm.trans htargetroot.symm
    exact hlength (Nat.le_antisymm
      (length_le_of_dotRelative_eq hsource htarget htargetroot.symm
        hotherroot heq)
      (length_le_of_dotRelative_eq hother htarget hotherroot htargetroot.symm
        heq.symm))
  · intro hne
    exact dotRelative_of_root_ne hne.symm (hroot ▸ hne.symm)

/-! ## The directory of a relative path -/

theorem dotRelative_ne_of_root_ne (hsource : isRooted source = true)
    (htarget : isRooted target = true)
    (hroot : (view source).1 = (view target).1)
    (hother : (view other).1 ≠ (view target).1)
    (hsegments : (view target).1.segments ≠ []) :
    dotRelative source target ≠ dotRelative other target := by
  intro heq
  have hled := view_join_dotRelative other hsource htarget
  rw [← heq, view_join_dotRelative source hsource htarget, followed_self hroot,
    followed, if_neg hother] at hled
  have hlength := congrArg (fun place => place.2.length) hled
  have hpos := List.length_pos_of_ne_nil hsegments
  simp only [List.length_append] at hlength
  omega

/-- A path that is read as relative is its segments, of which none is a dot
unless it is all of the path. -/
theorem normalize_of_root_eq_none (h : (view target).1 = .none) :
    normalize target = here ∨ ((view target).2 ≠ [] ∧ here ∉ (view target).2 ∧
      normalize target = [separator].intercalate (view target).2) := by
  rcases exists_normalize_eq target with
    ⟨root, segments, hrender, hreadable, hcollapsed, -⟩
  have hnone : root = .none := by
    cases hroot : root.isRooted with
    | false => exact Root.eq_none hroot
    | true =>
        have hsplit := splitRoot_text hreadable hroot
          ([separator].intercalate segments)
        rw [view, hrender, render_of_isRooted hroot, hsplit] at h
        exact h
  subst hnone
  by_cases hne : segments = []
  · subst hne
    exact .inl hrender
  · have htext : render .none segments = [separator].intercalate segments := by
      simp [render, Root.text, hne]
    have hfilter : segments.filter (· ≠ []) = segments := by
      rw [List.filter_eq_self]
      intro s hs
      simpa using hcollapsed.ne_nil s hs
    have hrest : (splitRoot (normalize target)).2 = normalize target := by
      have hsplit := splitRoot_text_append (normalize target)
      have hviewroot : (splitRoot (normalize target)).1 = .none := h
      rw [hviewroot] at hsplit
      exact hsplit
    have hsegments : (view target).2 = segments := by
      simp only [view]
      rw [hrest, hrender, htext,
        List.splitOn_intercalate separator hcollapsed.separator_notMem hne,
        hfilter]
    rw [hsegments]
    refine .inr ⟨hne, ?_, hrender.trans htext⟩
    rcases hcollapsed.climbs with ⟨n, entered, rfl, hentered, -⟩
    intro hmem
    rcases List.mem_append.1 hmem with hmem | hmem
    · exact absurd (List.eq_of_mem_replicate hmem) (by decide)
    · exact (hentered here hmem).ne_here rfl

theorem length_dotRelative_le (source target : Path) :
    (dotRelative source target).length
      ≤ (relative source target).length + 2 := by
  simp only [dotRelative]
  split
  · omega
  · rw [List.length_append, List.length_cons, here, List.length_singleton]
    omega

theorem length_le_dotRelative (source target : Path) :
    (relative source target).length ≤ (dotRelative source target).length := by
  simp only [dotRelative]
  split
  · exact Nat.le_refl _
  · rw [List.length_append, List.length_cons]
    omega

/-- From the directory of a relative path a relative target is climbed to, and
from a rooted directory it is spelled as it is. -/
theorem dotRelative_here_ne (hsource : (view source).1 ≠ .none)
    (htarget : (view target).1 = .none) :
    dotRelative source target ≠ dotRelative here target := by
  have hspelled := relative_of_root_ne (htarget ▸ hsource)
  intro heq
  rcases normalize_of_root_eq_none htarget with hhere | ⟨hne, hnotMem, htext⟩
  · have hrelative : relative here target = [] := by
      rw [relative, if_pos (hhere.symm ▸ rfl)]
    rw [dotRelative, dotRelative, hspelled, hhere, hrelative] at heq
    exact absurd heq (by decide)
  · have hview : view here = (.none, [here]) := by
      decide
    have hshared : sharedLength [here] (view target).2 = 0 := by
      cases hsegments : (view target).2 with
      | nil => exact absurd hsegments hne
      | cons first rest =>
          rw [sharedLength, if_neg]
          rintro rfl
          exact hnotMem (hsegments ▸ List.mem_cons_self)
    have hclimbs : relative here target
        = up ++ separator :: normalize target := by
      rw [relative_of_root_eq (by rw [hview, htarget]), hview, hshared, htext,
        List.length_singleton, List.drop_zero, Nat.sub_zero, List.replicate_one,
        List.singleton_append, List.intercalate_cons_of_ne_nil hne,
        List.append_assoc, List.singleton_append]
    have hlong := length_le_dotRelative here target
    have hshort := length_dotRelative_le source target
    rw [hclimbs, List.length_append, List.length_cons, ← heq] at hlong
    rw [hspelled] at hshort
    have hup : up.length = 2 := rfl
    omega

theorem dotRelative_eq_here_iff {letter : Char}
    (hsource : isRooted source = true) (hroot : (view source).1 = .drive letter)
    (target : Path) :
    dotRelative source target = dotRelative here target ↔
      (view target).1 ≠ (view source).1 ∧ (view target).1 ≠ (view here).1 := by
  have hhere : (view here).1 = .none := by
    decide
  rw [hhere]
  constructor
  · intro heq
    constructor
    · intro htargetroot
      have htarget : isRooted (normalize target) = true :=
        isRooted_normalize_of_view (htargetroot ▸ isRooted_view hsource)
      rw [← dotRelative_normalize source, ← dotRelative_normalize here] at heq
      rw [← view_normalize] at htargetroot
      refine dotRelative_ne_of_root_ne hsource htarget htargetroot.symm
        ?_ ?_ heq
      · rw [htargetroot, hroot, hhere]
        exact Root.noConfusion
      · rw [htargetroot, hroot]
        exact List.cons_ne_nil _ _
    · intro htargetroot
      exact dotRelative_here_ne (by rw [hroot]; exact Root.noConfusion)
        htargetroot heq
  · rintro ⟨hne, hnone⟩
    exact dotRelative_of_root_ne hne.symm (hhere ▸ hnone.symm)

end Path
end BuildHost
