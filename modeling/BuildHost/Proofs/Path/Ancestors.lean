import BuildHost.Proofs.Path.Containment
import BuildHost.Proofs.Path.Dirname
import Mathlib.Data.List.Induction
import Mathlib.Data.List.Infix

/-!
# The directories above a place

On the way up from a place below `/` the last segment is left out step by step
(`IsSpelled.dirname`), down to `/` itself, so that a name is looked for in the
beginnings of the place, the longest first (`map_join_ancestors`).  These are
the directories that the place lies below (`mem_directoriesAbove_iff`).
-/

namespace BuildHost
namespace Path

variable {segments front : List Path} {last p : Path}

/-- How a place below `/` is spelled on the way up: a separator may stand at its
end. -/
def IsSpelled (segments : List Path) (p : Path) : Prop :=
  p = render .slash segments ∨
    (segments ≠ [] ∧ p = render .slash segments ++ [separator])

theorem IsSpelled.isRooted (h : IsSpelled segments p)
    (hplace : IsPlace .slash segments) :
    Path.isRooted p = true := by
  rcases h with rfl | ⟨-, rfl⟩
  · exact hplace.isRooted_render
  · exact isRooted_append hplace.isRooted_render _

theorem IsSpelled.view (h : IsSpelled segments p)
    (hplace : IsPlace .slash segments) :
    Path.view p = (.slash, segments) := by
  rcases h with rfl | ⟨-, rfl⟩
  · exact hplace.view_render
  · rw [view_append_separator_nil hplace.isRooted_render, hplace.view_render]

/-- Another segment leads from every spelling to one place. -/
theorem IsSpelled.join (h : IsSpelled segments p)
    (hplace : IsPlace .slash segments) {name : Path} (hname : IsPlain name) :
    Path.join p [name] = render .slash (segments ++ [name]) := by
  have hr := h.isRooted hplace
  have hmore := hplace.concat hname
  have hview := view_join_of_isPlain hr hname
  rw [h.view hplace] at hview
  exact eq_of_view_eq (isNormal_join p _) hmore.isNormal_render
    (isRooted_join hr _) hmore.isRooted_render
    (hview.trans hmore.view_render.symm)

/-! ## One step up -/

theorem dropTrailing_append_separator (p : Path) :
    dropTrailing (p ++ [separator]) = dropTrailing p := by
  rw [dropTrailing, dropTrailing, List.reverse_append, List.reverse_singleton,
    List.singleton_append, List.dropWhile_cons_of_pos (by simp)]

theorem dirname_append_separator
    (h : dropTrailing (normalizeSeparators p) ≠ []) :
    dirname (p ++ [separator]) = dirname p := by
  have hseparator : normalizeSeparators [separator] = [separator] := by decide
  unfold dirname
  simp only [normalizeSeparators_append, hseparator,
    dropTrailing_append_separator, if_neg h]

theorem isSpelled_dirname_render (hplace : IsPlace .slash (front ++ [last])) :
    IsSpelled front (dirname (render .slash (front ++ [last]))) := by
  have hlast : IsPlain last := hplace.isPlain last (by simp)
  by_cases hne : front = []
  · subst hne
    rw [List.nil_append] at hplace ⊢
    exact .inl (dirname_render_singleton hplace)
  · have hback := backslash_notMem_render hplace.isReadable hplace.isCollapsed
    rw [render_append rfl hne (by simp), List.intercalate_singleton] at hback ⊢
    rw [dirname_append _ hback hlast.ne_nil hlast.separator_notMem]
    have htext : render .slash front ≠ [] := by
      rw [render_of_isRooted rfl]
      exact List.cons_ne_nil _ _
    rw [if_neg htext]
    by_cases hdrive : isDriveName (render .slash front) = true
    · rw [if_pos hdrive]
      exact .inr ⟨hne, rfl⟩
    · rw [if_neg hdrive]
      exact .inl rfl

theorem IsSpelled.dirname (h : IsSpelled (front ++ [last]) p)
    (hplace : IsPlace .slash (front ++ [last])) :
    IsSpelled front (Path.dirname p) := by
  rcases h with rfl | ⟨-, rfl⟩
  · exact isSpelled_dirname_render hplace
  · have hlast : IsPlain last := hplace.isPlain last (by simp)
    have htrimmed : dropTrailing (normalizeSeparators
        (render .slash (front ++ [last]))) ≠ [] := by
      rw [normalizeSeparators_eq_self
        (backslash_notMem_render hplace.isReadable hplace.isCollapsed)]
      rcases exists_intercalate_eq_append front last with ⟨start, hstart⟩
      rw [render_of_isRooted rfl, hstart, ← List.append_assoc,
        dropTrailing_append hlast.ne_nil hlast.separator_notMem]
      exact List.append_ne_nil_of_right_ne_nil _ hlast.ne_nil
    rw [dirname_append_separator htrimmed]
    exact isSpelled_dirname_render hplace

theorem IsSpelled.dirname_ne (h : IsSpelled (front ++ [last]) p)
    (hplace : IsPlace .slash (front ++ [last])) : Path.dirname p ≠ p := by
  intro hsame
  have hview := (h.dirname hplace).view hplace.of_append
  rw [hsame, h.view hplace] at hview
  simp at hview

/-! ## The whole way up -/

theorem inits_concat_reverse (front : List Path) (last : Path) :
    (front ++ [last]).inits.reverse
      = (front ++ [last]) :: front.inits.reverse := by
  rw [List.inits_append]
  simp

/-- Among the beginnings of a place, longer ones come before a shorter one. -/
theorem exists_inits_reverse_eq (front rest : List Path) :
    ∃ longer others, (front ++ rest).inits.reverse = longer ++ front :: others ∧
      ∀ beginning ∈ longer, ∃ more, more ≠ [] ∧ more <+: rest ∧
        beginning = front ++ more := by
  induction rest using List.reverseRecOn with
  | nil =>
      rw [List.append_nil]
      rcases List.eq_nil_or_concat front with rfl | ⟨before, last, rfl⟩
      · exact ⟨[], [], rfl, fun _ h => absurd h List.not_mem_nil⟩
      · rw [List.concat_eq_append, inits_concat_reverse]
        exact ⟨[], before.inits.reverse, rfl,
          fun _ h => absurd h List.not_mem_nil⟩
  | append_singleton rest last ih =>
      rcases ih with ⟨longer, others, hsplit, hlonger⟩
      rw [← List.append_assoc, inits_concat_reverse, hsplit]
      refine ⟨(front ++ rest ++ [last]) :: longer, others, rfl, ?_⟩
      intro beginning hmem
      rcases List.mem_cons.1 hmem with heq | hmem
      · refine ⟨rest ++ [last], by simp, List.prefix_rfl, ?_⟩
        rw [heq, List.append_assoc]
      · rcases hlonger beginning hmem with ⟨more, hne, hprefix, heq⟩
        exact ⟨more, hne, hprefix.trans (List.prefix_append rest [last]), heq⟩

theorem map_join_ancestorsWithin (hplace : IsPlace .slash segments)
    {name : Path} (hname : IsPlain name) {fuel : Nat}
    (hfuel : segments.length ≤ fuel) (h : IsSpelled segments p) :
    (ancestorsWithin fuel p).map (fun dir => dir.join [name])
      = segments.inits.reverse.map fun beginning =>
        render .slash (beginning ++ [name]) := by
  -- from the end, since a directory is reached by leaving out the last segment
  induction segments using List.reverseRecOn generalizing p fuel with
  | nil =>
      have htop : p = Root.slash.text := by
        rcases h with rfl | ⟨hne, -⟩
        · rfl
        · exact absurd rfl hne
      subst htop
      have hup : dirname Root.slash.text = Root.slash.text := by decide
      have hjoin := IsSpelled.join h hplace hname
      cases fuel with
      | zero =>
          rw [ancestorsWithin, List.map_singleton, hjoin]
          rfl
      | succ fuel =>
          rw [ancestorsWithin, if_pos hup, List.map_singleton, hjoin]
          rfl
  | append_singleton front last ih =>
      rw [List.length_append, List.length_singleton] at hfuel
      cases fuel with
      | zero => omega
      | succ fuel =>
          rw [ancestorsWithin, if_neg (h.dirname_ne hplace), List.map_cons,
            h.join hplace hname,
            ih hplace.of_append (by omega) (h.dirname hplace),
            inits_concat_reverse, List.map_cons]

theorem length_le_length_intercalate (h : ∀ s ∈ segments, s ≠ []) :
    segments.length ≤ ([separator].intercalate segments).length := by
  induction segments with
  | nil => exact Nat.zero_le _
  | cons first rest ih =>
      have hfirst := List.length_pos_of_ne_nil (h first List.mem_cons_self)
      cases rest with
      | nil =>
          rw [List.intercalate_singleton]
          exact hfirst
      | cons second others =>
          have hrest := ih fun s hs => h s (List.mem_cons_of_mem first hs)
          rw [intercalate_cons_cons]
          simp only [List.length_append, List.length_cons] at hrest ⊢
          omega

theorem map_join_ancestors (hplace : IsPlace .slash segments) {name : Path}
    (hname : IsPlain name) (h : IsSpelled segments p) :
    (ancestors p).map (fun dir => dir.join [name])
      = segments.inits.reverse.map fun beginning =>
        render .slash (beginning ++ [name]) := by
  apply map_join_ancestorsWithin hplace hname _ h
  have hlength := length_le_length_intercalate fun s hs =>
    (hplace.isPlain s hs).ne_nil
  have htext : (render .slash segments).length ≤ p.length := by
    rcases h with rfl | ⟨-, rfl⟩
    · exact Nat.le_refl _
    · rw [List.length_append]
      exact Nat.le_add_right _ _
  rw [render_of_isRooted rfl, List.length_append] at htext
  omega

/-! ## The directories above a path -/

/-- The directories that a path lies below, the nearest first. -/
def directoriesAbove (p : Path) : List Path :=
  (view p).2.dropLast.inits.reverse.map (render (view p).1)

theorem directoriesAbove_eq {root : Root}
    (h : view p = (root, front ++ [last])) :
    directoriesAbove p = front.inits.reverse.map (render root) := by
  rw [directoriesAbove, h, List.dropLast_concat]

theorem mem_directoriesAbove_iff (hr : isRooted p = true)
    (hne : (view p).2 ≠ []) {dir : Path} :
    dir ∈ directoriesAbove p ↔ IsNormal dir ∧ IsBelow p dir := by
  have hplace := isPlace_view hr
  have hsplit := List.dropLast_concat_getLast hne
  rw [directoriesAbove, List.mem_map]
  constructor
  · rintro ⟨beginning, hmem, rfl⟩
    rcases (List.mem_inits _ _).1 (List.mem_reverse.1 hmem) with
      ⟨between, hbetween⟩
    have hbeginning : IsPlace (view p).1 beginning := by
      rw [← hsplit, ← hbetween] at hplace
      exact hplace.of_append.of_append
    refine ⟨hbeginning.isNormal_render, between ++ [(view p).2.getLast hne],
      by simp, ?_⟩
    rw [hbeginning.view_render, ← List.append_assoc, hbetween, hsplit]
  · rintro ⟨hdir, rest, hrest, hview⟩
    have hroot : (view dir).1 = (view p).1 := by
      rw [hview]
    refine ⟨(view dir).2, List.mem_reverse.2 ((List.mem_inits _ _).2 ?_), ?_⟩
    · rw [hview, List.dropLast_append_of_ne_nil hrest]
      exact List.prefix_append _ _
    · rw [← hroot]
      exact hdir.render_view (hdir.isRooted (hroot ▸ hplace.isRooted))

theorem pairwise_directoriesAbove (hr : isRooted p = true) :
    (directoriesAbove p).Pairwise IsBelow := by
  have hplain : ∀ s ∈ (view p).2.dropLast, IsPlain s := fun s hs =>
    (isPlace_view hr).isPlain s (List.dropLast_subset _ hs)
  rw [directoriesAbove]
  generalize (view p).2.dropLast = front at hplain
  have hplace : IsPlace (view p).1 front :=
    (isPlace_view hr).withSegments hplain
  clear hplain
  induction front using List.reverseRecOn with
  | nil => exact List.pairwise_singleton _ _
  | append_singleton front last ih =>
      rw [inits_concat_reverse, List.map_cons, List.pairwise_cons]
      refine ⟨?_, ih hplace.of_append⟩
      intro dir hdir
      rcases List.mem_map.1 hdir with ⟨beginning, hmem, rfl⟩
      rcases (List.mem_inits _ _).1 (List.mem_reverse.1 hmem) with
        ⟨between, rfl⟩
      have hbeginning := hplace.of_append.of_append
      refine ⟨between ++ [last], by simp, ?_⟩
      rw [hplace.view_render, hbeginning.view_render, List.append_assoc]

end Path
end BuildHost
