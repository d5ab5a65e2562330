import BuildHost.FileSystem.Memory
import BuildHost.Proofs.Path.LastSegment

/-!
# Making folders

A folder is made together with the folders above it: from its path one goes up,
folder by folder, to one that is there already or is its own directory
(`Makes`).  From every path, and whatever folders are there, this ends, and what
it makes is what a tree takes in (`makes_iff`, `dirname_splits_and_climbs`).
Where the folder of every folder was there before, it is there afterwards
(`Makes.dirname_mem`).
-/

namespace BuildHost

open BuildHost.Path

namespace MemoryTree

variable {folders made : List Path} {p : Path}

/-- The folders that are made on the way up from a path, one after the other:
each is there as soon as it is made, and the first that is there already ends
the way. -/
inductive Makes : List Path → Path → List Path → Prop where
  | present {folders : List Path} {p : Path} (h : p ∈ folders) :
      Makes folders p []
  | top {folders : List Path} {p : Path} (h : p ∉ folders)
      (htop : dirname p = p) : Makes folders p [p]
  | up {folders made : List Path} {p : Path} (h : p ∉ folders)
      (hup : dirname p ≠ p) (rest : Makes (p :: folders) (dirname p) made) :
      Makes folders p (p :: made)

theorem Makes.unique {other : List Path} (h : Makes folders p made)
    (hother : Makes folders p other) :
    made = other := by
  induction h generalizing other with
  | present hp =>
      cases hother with
      | present _ => rfl
      | top hnew _ => exact absurd hp hnew
      | up hnew _ _ => exact absurd hp hnew
  | top hnew htop =>
      cases hother with
      | present hp => exact absurd hp hnew
      | top _ _ => rfl
      | up _ hup _ => exact absurd htop hup
  | up hnew hup _ ih =>
      cases hother with
      | present hp => exact absurd hp hnew
      | top _ htop => exact absurd htop hup
      | up _ _ rest => exact congrArg _ (ih rest)

/-- A way up passes no folder twice, so that a folder made on it is not met
again. -/
theorem makes_takeWhile {dirs seen : List Path} (h : IsWayUp p dirs)
    (hseen : ∀ dir ∈ dirs, dir ∈ seen ↔ dir ∈ folders) :
    Makes seen p (dirs.takeWhile fun dir => !folders.contains dir) := by
  induction h generalizing seen with
  | @top p htop =>
      have hp := hseen p List.mem_cons_self
      by_cases hmem : p ∈ folders
      · rw [List.takeWhile_cons_of_neg (by simpa using hmem)]
        exact .present (hp.2 hmem)
      · rw [List.takeWhile_cons_of_pos (by simpa using hmem)]
        exact .top (mt hp.1 hmem) htop
  | @up p dirs hup rest ih =>
      have hp := hseen p List.mem_cons_self
      by_cases hmem : p ∈ folders
      · rw [List.takeWhile_cons_of_neg (by simpa using hmem)]
        exact .present (hp.2 hmem)
      · rw [List.takeWhile_cons_of_pos (by simpa using hmem)]
        refine .up (mt hp.1 hmem) hup (ih ?_)
        intro dir hdir
        have hne : dir ≠ p := by
          rintro rfl
          exact rest.notMem hup hdir
        rw [List.mem_cons, or_iff_right hne]
        exact hseen dir (List.mem_cons_of_mem p hdir)

theorem makes_iff :
    Makes folders p made ↔ made = p.ancestors.takeWhile fun dir =>
      !folders.contains dir := by
  have hends : Makes folders p
      (p.ancestors.takeWhile fun dir => !folders.contains dir) :=
    makes_takeWhile (isWayUp_ancestors p) fun _ _ => Iff.rfl
  constructor
  · intro h
    exact h.unique hends
  · rintro rfl
    exact hends

theorem makes_withFolder (tree : MemoryTree) (folder : Path) :
    ∃ made, Makes tree.folders folder made ∧
      tree.withFolder folder = { tree with folders := made ++ tree.folders } :=
  ⟨_, makes_iff.2 rfl, rfl⟩

/-! ## What is there afterwards -/

theorem Makes.mem (h : Makes folders p made) : p ∈ made ++ folders := by
  cases h with
  | present hp => exact hp
  | top _ _ => exact List.mem_cons_self
  | up _ _ _ => exact List.mem_cons_self

theorem Makes.dirname_mem (h : Makes folders p made)
    (hfolders : ∀ folder ∈ folders, dirname folder ∈ folders ∨
      dirname folder = p) :
    ∀ folder ∈ made ++ folders, dirname folder ∈ made ++ folders := by
  induction h with
  | @present folders p hp =>
      intro folder hfolder
      rcases hfolders folder hfolder with hmem | rfl
      · exact hmem
      · exact hp
  | @top folders p _ htop =>
      intro folder hfolder
      rw [List.singleton_append, List.mem_cons] at hfolder ⊢
      rcases hfolder with rfl | hfolder
      · exact .inl htop
      · exact (hfolders folder hfolder).symm
  | @up folders made p _ _ _ ih =>
      have hnext : ∀ folder ∈ p :: folders, dirname folder ∈ p :: folders ∨
          dirname folder = dirname p := by
        intro folder hfolder
        rcases List.mem_cons.1 hfolder with rfl | hfolder
        · exact .inr rfl
        · exact .inl (List.mem_cons.2 (hfolders folder hfolder).symm)
      have hsame : (p :: made) ++ folders ⊆ made ++ p :: folders ∧
          made ++ p :: folders ⊆ (p :: made) ++ folders := by
        simp [List.subset_def, or_left_comm]
      intro folder hfolder
      exact hsame.2 (ih hnext folder (hsame.1 hfolder))

/-- A path in normal form, the root of a drive apart, is put together from its
directory and its last segment.  From any text whatever, going up leads to `/`
or `.`, the only texts that are their own directories; so the making of folders
ends from every path, whatever folders are there. -/
theorem dirname_splits_and_climbs (p : Path) :
    (IsNormal p → (∀ letter, p ≠ (Root.drive letter).text) →
      join (dirname p) [basename p] = p) ∧
      (∃ steps, dirname^[steps] p = Root.slash.text ∨
        dirname^[steps] p = here) ∧
      (dirname p = p ↔ p = Root.slash.text ∨ p = here) ∧
      ∀ tree : MemoryTree, ∃ made, Makes tree.folders p made ∧
        tree.withFolder p = { tree with folders := made ++ tree.folders } :=
  ⟨join_dirname_basename, exists_iterate_dirname p, dirname_eq_self_iff,
    fun tree => makes_withFolder tree p⟩

/-- A path below a folder with the name of a drive, and a tree that holds no
folder above it. -/
theorem dirname_splits_and_climbs_driveName :
    let p : Path := "/:/x".toList
    let tree : MemoryTree := { MemoryTree.empty true with folders := [] }
    IsNormal p ∧ (∀ letter, p ≠ (Root.drive letter).text) ∧
      dirname p = "/:/".toList ∧
      join (dirname p) [basename p] = p ∧
      Makes tree.folders p [p, "/:/".toList, "/".toList] := by
  intro p tree
  have hnormal : IsNormal p := by decide
  have hdrive : ∀ letter, p ≠ (Root.drive letter).text := by
    intro letter heq
    have hlength : p.length = 3 := congrArg List.length heq
    exact absurd hlength (by decide)
  rcases dirname_splits_and_climbs p with ⟨hsplit, -, -, hmakes⟩
  rcases hmakes tree with ⟨made, hmade, -⟩
  have hancestors : made = [p, "/:/".toList, "/".toList] := by
    rw [makes_iff.1 hmade]
    decide
  exact ⟨hnormal, hdrive, by decide, hsplit hnormal hdrive, hancestors ▸ hmade⟩

end MemoryTree
end BuildHost
