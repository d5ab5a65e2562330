import BuildHost.Proofs.Layout.Reading
import Mathlib.Data.List.Perm.Subperm

/-!
# Directories that tell spellings apart

When something else is read of a spelling than of the normal form, there is a
directory of generated files that the two are moved to different places of
(`exists_apart`).  It lies on a drive of its own, so that what is moved there
and what stays lie below different roots, and is so shallow that the climbs of a
spelling show in the depth of the place.
-/

namespace BuildHost

open BuildHost.Path

/-- The directory at a place. -/
def Directory.ofPlace {root : Root} {segments : List Path}
    (h : IsPlace root segments) : Directory :=
  ⟨render root segments, h.isRooted_render, h.isNormal_render⟩

theorem Directory.view_ofPlace {root : Root} {segments : List Path}
    (h : IsPlace root segments) :
    view (Directory.ofPlace h).path = (root, segments) :=
  h.view_render

namespace Layout

/-- The layout that puts generated files into another directory. -/
def withGenDir (layout : Layout) (dir : Directory) : Layout :=
  { layout with genDir := dir }

theorem readContaining_withGenDir (layout : Layout) (dir : Directory)
    (p : Path) :
    (layout.withGenDir dir).readContaining p = layout.readContaining p :=
  rfl

variable {layout : Layout} {p : Path}

/-! ## Places apart -/

/-- Two places of which one alone has the given root, or which have it and are
not equally deep. -/
inductive Apart (root : Root) : Root × List Path → Root × List Path → Prop where
  | left {segments : List Path} {other : Root × List Path}
      (h : other.1 ≠ root) :
      Apart root (root, segments) other
  | right {place : Root × List Path} {others : List Path} (h : place.1 ≠ root) :
      Apart root place (root, others)
  | depth {segments others : List Path} (h : segments.length ≠ others.length) :
      Apart root (root, segments) (root, others)

theorem Apart.ne {root : Root} {place other : Root × List Path}
    (h : Apart root place other) :
    place ≠ other := by
  cases h with
  | left hne => exact fun heq => hne (heq ▸ rfl)
  | right hne => exact fun heq => hne (heq ▸ rfl)
  | depth hlength => exact fun heq => hlength (by rw [(Prod.mk.inj heq).2])

theorem Apart.dropLast {root : Root} {place other : Root × List Path}
    (h : Apart root place other) (hplace : place.2 ≠ [])
    (hother : other.2 ≠ []) :
    Apart root (place.1, place.2.dropLast) (other.1, other.2.dropLast) := by
  cases h with
  | left hne => exact .left hne
  | right hne => exact .right hne
  | @depth segments others hlength =>
      have hsegments : 0 < segments.length := List.length_pos_iff.2 hplace
      have hothers : 0 < others.length := List.length_pos_iff.2 hother
      have hshorter : segments.dropLast.length ≠ others.dropLast.length := by
        rw [List.length_dropLast, List.length_dropLast]
        omega
      exact .depth hshorter

theorem Apart.dotRelative_ne {letter : Char} {source other target : Path}
    (h : Apart (.drive letter) (view source) (view other))
    (hsource : isRooted source = true) (hother : isRooted other = true)
    (htarget : isRooted target = true)
    (hroot : (view target).1 = .drive letter) :
    dotRelative source target ≠ dotRelative other target := by
  have hsegments : (view target).1.segments ≠ [] := by
    rw [hroot]
    exact List.cons_ne_nil _ _
  generalize hs : view source = place at h
  generalize ho : view other = another at h
  cases h with
  | left hne =>
      refine dotRelative_ne_of_root_ne hsource htarget (by rw [hs, hroot]) ?_
        hsegments
      rw [ho, hroot]
      exact hne
  | right hne =>
      refine (dotRelative_ne_of_root_ne hother htarget (by rw [ho, hroot]) ?_
        hsegments).symm
      rw [hs, hroot]
      exact hne
  | depth hlength =>
      intro heq
      have hsame :=
        (dotRelative_eq_iff_of_length_ne hsource hother (by rw [hs, ho])
          (by rw [hs, ho]; exact hlength) target).1 heq
      rw [hs] at hsame
      exact hsame.1 hroot

/-! ## Drives -/

def driveLetters : List Char := ['a', 'b', 'c', 'd']

theorem exists_driveLetter (roots : List Root) (h : roots.length < 4) :
    ∃ letter ∈ driveLetters, .drive letter ∉ roots := by
  by_contra hall
  have hsub : driveLetters.map .drive ⊆ roots := by
    intro root hroot
    rcases List.mem_map.1 hroot with ⟨letter, hletter, rfl⟩
    exact not_not.1 fun hnotMem => hall ⟨letter, hletter, hnotMem⟩
  have hlength := (List.subperm_of_subset (by decide) hsub).length_le
  rw [List.length_map] at hlength
  exact absurd hlength (Nat.not_le.2 h)

theorem isPlace_drive {letter : Char} (h : letter ∈ driveLetters) :
    IsPlace (.drive letter) [] := by
  have halpha : ∀ letter ∈ driveLetters, letter.isAlpha = true := by
    simp only [driveLetters, List.forall_mem_cons, List.not_mem_nil,
      false_imp_iff, implies_true,
    and_true]
    decide
  exact ⟨halpha letter h, rfl, by simp⟩

/-! ## A directory that tells two ways apart -/

theorem length_ne_of_isSuffix {way other segments : List Path}
    (hway : way <:+ segments) (hother : other <:+ segments)
    (hne : way ≠ other) : way.length ≠ other.length := by
  intro hlength
  exact hne
    ((List.suffix_of_suffix_length_le hway hother
      (Nat.le_of_eq hlength)).eq_of_length
    hlength)

/-- A way that climbs, or another length, shows below a directory that is
shallow enough. -/
theorem exists_length_collapse_ne {letter : Char} {n : Nat}
    {entered other : List Path} (hletter : letter ∈ driveLetters)
    (hentered : ∀ s ∈ entered, IsPlain s) (hother : ∀ s ∈ other, IsPlain s)
    (hflat : n = 0 → entered.length ≠ other.length) :
    ∃ segments, IsPlace (.drive letter) segments ∧
      (collapse (.drive letter)
        (segments ++ (List.replicate n up ++ entered))).length
        ≠ (collapse (.drive letter) (segments ++ other)).length := by
  have hroot := isPlace_drive hletter
  have hinner : IsPlace (.drive letter) [here ++ here ++ here] :=
    hroot.concat (by decide)
  have hclimbs : ∀ segments, IsPlace (.drive letter) segments →
      collapse (.drive letter) (segments ++ (List.replicate n up ++ entered))
        = segments.take (segments.length - n) ++ entered :=
    fun segments h => collapse_append_climbs rfl h.isPlain hentered n
  have hplain : ∀ segments, IsPlace (.drive letter) segments →
      collapse (.drive letter) (segments ++ other) = segments ++ other := by
    intro segments h
    apply collapse_of_isPlain
    intro s hs
    exact (List.mem_append.1 hs).elim (h.isPlain s) (hother s)
  by_cases hlength : entered.length = other.length
  · refine ⟨_, hinner, ?_⟩
    have hpos : n ≠ 0 := fun hn => hflat hn hlength
    rw [hclimbs _ hinner, hplain _ hinner]
    simp only [List.length_append, List.length_take, List.length_singleton]
    omega
  · refine ⟨_, hroot, ?_⟩
    rw [hclimbs _ hroot, hplain _ hroot]
    simpa using hlength

/-- Ways in one place that is spelled twice, once in normal form, show below
some directory. -/
theorem exists_length_collapse_wayOf_ne {letter : Char}
    {front rest start more : Path} (hletter : letter ∈ driveLetters)
    (hr : isRooted (front ++ separator :: rest) = true)
    (hnormal : IsNormal (start ++ separator :: more))
    (hnr : isRooted (start ++ separator :: more) = true)
    (hview : view (start ++ separator :: more)
      = view (front ++ separator :: rest))
    (hne : (view (start ++ separator :: more)).2 ≠ [])
    (h : wayOf rest ≠ wayOf more) :
    ∃ segments, IsPlace (.drive letter) segments ∧
      (collapse (.drive letter) (segments ++ wayOf rest)).length
        ≠ (collapse (.drive letter) (segments ++ wayOf more)).length := by
  have hplain := isPlain_wayOf hnormal hnr hne
  rcases exists_wayOf_eq_climbs rest with ⟨n, entered, hway, hentered⟩
  have hflat : n = 0 → entered.length ≠ (wayOf more).length := by
    rintro rfl
    rw [List.replicate_zero, List.nil_append] at hway
    rw [← hway] at hentered ⊢
    refine length_ne_of_isSuffix (wayOf_isSuffix_view hr hentered) ?_ h
    rw [← hview]
    exact wayOf_isSuffix_view hnr hplain
  rw [hway]
  exact exists_length_collapse_ne hletter hentered hplain hflat

/-- A spelling of which something else is read than of the normal form is moved
to another place than the normal form, for some directory of generated files on
any drive that the path does not lie on. -/
theorem exists_apart {letter : Char} (hletter : letter ∈ driveLetters)
    (hr : isRooted p = true) (hfile : NamesFile p)
    (hbase : view p ≠ view layout.basePath.path)
    (hroot : .drive letter ≠ (view p).1)
    (h : layout.readContaining p ≠ layout.readContaining (normalize p)) :
    ∃ dir : Directory, (view dir.path).1 = .drive letter ∧
      Apart (.drive letter) (view ((layout.withGenDir dir).moveToGenDir p))
        (view ((layout.withGenDir dir).moveToGenDir (normalize p))) := by
  have hspelled := isRespelling_normalize hr hfile
  have hnormal : IsNormal (normalize p) := normalize_normalize p
  have hview : view (normalize p) = view p := view_normalize p
  have hplace := isPlace_drive hletter
  simp only [view_moveToGenDir_eq_placeIn, readContaining_withGenDir, hview]
  cases hread : layout.readContaining p with
  | named module => exact absurd hread readContaining_ne_named
  | inPlace =>
      cases hreadn : layout.readContaining (normalize p) with
      | named module => exact absurd hreadn readContaining_ne_named
      | inPlace => exact absurd (hread.trans hreadn.symm) h
      | moved other =>
          refine ⟨.ofPlace hplace, by rw [Directory.view_ofPlace], ?_⟩
          simp only [Reading.placeIn, withGenDir, Directory.view_ofPlace]
          exact .right hroot.symm
  | moved way =>
      rcases exists_eq_append_of_moved hread (ne_basePath_of_view_ne hbase) with
        ⟨front, rest, hp, rfl⟩
      cases hreadn : layout.readContaining (normalize p) with
      | named module => exact absurd hreadn readContaining_ne_named
      | inPlace =>
          refine ⟨.ofPlace hplace, by rw [Directory.view_ofPlace], ?_⟩
          simp only [Reading.placeIn, withGenDir, Directory.view_ofPlace]
          exact .left hroot.symm
      | moved other =>
          rcases exists_eq_append_of_moved hreadn
            (ne_basePath_of_view_ne (hview.symm ▸ hbase)) with
            ⟨start, more, hn, rfl⟩
          have hnr := isRooted_normalize hr
          have hne := hfile.view_ne_nil hr
          have hways : wayOf rest ≠ wayOf more := by
            intro heq
            exact h
              (hread.trans ((congrArg Reading.moved heq).trans hreadn.symm))
          rw [← hview] at hne
          rw [hn] at hnormal hnr hview hne
          rw [hp] at hr hview
          rcases exists_length_collapse_wayOf_ne hletter hr hnormal hnr hview
            hne hways with
            ⟨segments, hsegments, hlength⟩
          refine ⟨.ofPlace hsegments, by rw [Directory.view_ofPlace], ?_⟩
          simp only [Reading.placeIn, withGenDir, Directory.view_ofPlace]
          exact .depth hlength

end Layout
end BuildHost
