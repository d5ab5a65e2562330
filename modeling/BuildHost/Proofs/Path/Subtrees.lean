import BuildHost.Proofs.Path.Ways
import Mathlib.Data.Set.Function

/-!
# Subtrees that are moved

`replaceRoot` looks for the text of a directory at the start of a path.  On
normal forms it finds the text exactly where the directory contains the path
(`isSome_replaceRoot_iff`), moves the path along its way from the directory
(`replaceRoot_of_contains`), and moving it back gives the path again
(`replaceRoot_join`), so that the subtrees of two directories are exchanged one
to one (`replaceRoot_exchanges_subtrees`).
-/

namespace BuildHost
namespace Path

variable {p source target : Path}

/-- The rooted paths in normal form that a directory contains. -/
def subtree (dir : Path) : Set Path :=
  {p | IsNormal p ∧ isRooted p = true ∧ Contains dir p}

theorem view_join_relative_of_contains (hp : isRooted p = true)
    (htarget : isRooted target = true) {rest : List Path}
    (hrest : view p = ((view source).1, (view source).2 ++ rest)) :
    view (join target [relative source p])
      = ((view target).1, (view target).2 ++ rest) := by
  rw [relative_of_view hrest,
    view_join_intercalate htarget (isPlain_of_view hp hrest)]

theorem join_relative_mem_subtree (hp : isRooted p = true)
    (htarget : isRooted target = true) (h : Contains source p) :
    join target [relative source p] ∈ subtree target := by
  rcases contains_iff.1 h with ⟨rest, hrest⟩
  refine ⟨isNormal_join _ _, isRooted_join htarget _, contains_iff.2 ⟨rest, ?_⟩⟩
  exact view_join_relative_of_contains hp htarget hrest

theorem relative_join_relative (hp : isRooted p = true)
    (htarget : isRooted target = true) (h : Contains source p) :
    relative target (join target [relative source p]) = relative source p := by
  rcases contains_iff.1 h with ⟨rest, hrest⟩
  rw [relative_of_view (view_join_relative_of_contains hp htarget hrest),
    relative_of_view hrest]

section Replacing

variable (hsource : IsNormal source) (hsourcer : isRooted source = true)
  (htarget : IsNormal target)

include hsource hsourcer htarget

theorem replaceRoot_of_contains (hp : IsNormal p) (hpr : isRooted p = true)
    (h : Contains source p) :
    replaceRoot p source target = some (join target [relative source p]) := by
  rcases contains_iff.1 h with ⟨rest, hrest⟩
  rw [relative_of_view hrest]
  by_cases hne : rest = []
  · -- the path is the directory itself
    subst hne
    rw [List.append_nil] at hrest
    obtain rfl : p = source := eq_of_view_eq hp hsource hpr hsourcer hrest
    have hjoin : join target [[separator].intercalate []] = target := htarget
    rw [replaceRoot, if_pos rfl, hjoin]
  · rw [eq_withSeparator_append hp hpr hsource hsourcer hne hrest,
      replaceRoot_withSeparator source htarget]

theorem isSome_replaceRoot_iff (hp : IsNormal p) (hpr : isRooted p = true) :
    (replaceRoot p source target).isSome = true ↔ Contains source p := by
  constructor
  · intro hsome
    by_contra hnot
    rw [replaceRoot_eq_none target hp hsource hsourcer hnot] at hsome
    cases hsome
  · intro h
    rw [replaceRoot_of_contains hsource hsourcer htarget hp hpr h]
    rfl

theorem replaceRoot_join (htargetr : isRooted target = true) (hp : IsNormal p)
    (hpr : isRooted p = true) (h : Contains source p) :
    replaceRoot (join target [relative source p]) target source = some p := by
  rcases join_relative_mem_subtree hpr htargetr h with
    ⟨hmoved, hmovedr, hcontains⟩
  rw [replaceRoot_of_contains htarget htargetr hsource hmoved hmovedr hcontains,
    relative_join_relative hpr htargetr h, join_relative hsourcer hpr h.1, hp]

end Replacing

theorem mapsTo_replaceRoot (hsource : IsNormal source)
    (hsourcer : isRooted source = true) (htarget : IsNormal target)
    (htargetr : isRooted target = true) :
    Set.MapsTo (fun p => (replaceRoot p source target).getD p) (subtree source)
      (subtree target) := by
  intro p hmem
  rcases hmem with ⟨hp, hpr, h⟩
  simp only [replaceRoot_of_contains hsource hsourcer htarget hp hpr h,
    Option.getD_some]
  exact join_relative_mem_subtree hpr htargetr h

theorem leftInvOn_replaceRoot (hsource : IsNormal source)
    (hsourcer : isRooted source = true) (htarget : IsNormal target)
    (htargetr : isRooted target = true) :
    Set.LeftInvOn (fun p => (replaceRoot p target source).getD p)
      (fun p => (replaceRoot p source target).getD p) (subtree source) := by
  intro p hmem
  rcases hmem with ⟨hp, hpr, h⟩
  simp only [replaceRoot_of_contains hsource hsourcer htarget hp hpr h,
    Option.getD_some,
    replaceRoot_join hsource hsourcer htarget htargetr hp hpr h]

/-- Replacing the text of a directory by that of another moves exactly the paths
that the directory contains, each along its way from the directory, and moving
back undoes it: the subtrees of the two directories correspond one to one. -/
theorem replaceRoot_exchanges_subtrees (hsource : IsNormal source)
    (hsourcer : isRooted source = true) (htarget : IsNormal target)
    (htargetr : isRooted target = true) :
    (∀ p, IsNormal p → isRooted p = true →
      ((replaceRoot p source target).isSome = true ↔
        (view source).1 = (view p).1 ∧ (view source).2 <+: (view p).2) ∧
      ∀ moved, replaceRoot p source target = some moved →
        moved = join target [relative source p] ∧
          replaceRoot moved target source = some p) ∧
    Set.BijOn (fun p => (replaceRoot p source target).getD p) (subtree source)
      (subtree target) := by
  constructor
  · intro p hp hpr
    have hiff := isSome_replaceRoot_iff hsource hsourcer htarget hp hpr
    refine ⟨hiff, ?_⟩
    intro moved hmoved
    have h : Contains source p := hiff.1 (by rw [hmoved]; rfl)
    have hjoin := replaceRoot_of_contains hsource hsourcer htarget hp hpr h
    rw [hmoved, Option.some_inj] at hjoin
    subst hjoin
    exact ⟨rfl, replaceRoot_join hsource hsourcer htarget htargetr hp hpr h⟩
  · exact Set.InvOn.bijOn
      ⟨leftInvOn_replaceRoot hsource hsourcer htarget htargetr,
        leftInvOn_replaceRoot htarget htargetr hsource hsourcer⟩
      (mapsTo_replaceRoot hsource hsourcer htarget htargetr)
      (mapsTo_replaceRoot htarget htargetr hsource hsourcer)

/-- From a folder to a drive and back; a folder that only starts with the same
letters stays. -/
theorem replaceRoot_exchanges_subtrees_drive :
    let source : Path := "/src".toList
    let target : Path := "C:/".toList
    replaceRoot "/src/a/b.ts".toList source target = some "C:/a/b.ts".toList ∧
      replaceRoot "C:/a/b.ts".toList target source = some "/src/a/b.ts".toList ∧
      replaceRoot "/srcs/a.ts".toList source target = none := by
  intro source target
  have hmoved : replaceRoot "/src/a/b.ts".toList source target
      = some "C:/a/b.ts".toList := by
    decide
  have hsource : IsNormal source := by decide
  have htarget : IsNormal target := by decide
  have h :=
    (replaceRoot_exchanges_subtrees hsource (by decide) htarget (by decide)).1
  refine ⟨hmoved,
    ((h "/src/a/b.ts".toList (by decide) (by decide)).2 _ hmoved).2, ?_⟩
  have hnot := mt (h "/srcs/a.ts".toList (by decide) (by decide)).1.1
    (by decide)
  rw [Bool.not_eq_true, Option.isSome_eq_false_iff,
    Option.isNone_iff_eq_none] at hnot
  exact hnot

end Path
end BuildHost
