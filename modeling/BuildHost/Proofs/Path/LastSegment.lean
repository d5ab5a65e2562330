import BuildHost.Proofs.Path.Canonical
import BuildHost.Proofs.Path.WayUp
import Mathlib.Logic.Function.Iterate

/-!
# The directory and the last segment

A path in normal form is put together again from its directory and its last
segment (`join_dirname_basename`); only the root of a drive is not, which is cut
like a relative path.  Going up from any text ends at `/` or at `.`
(`exists_iterate_dirname`).
-/

namespace BuildHost
namespace Path

variable {p front last : Path}

/-! ## The last segment -/

theorem basename_append (hback : '\\' ∉ front ++ separator :: last)
    (hne : last ≠ []) (hlast : separator ∉ last) :
    basename (front ++ separator :: last) = last := by
  rw [basename, normalizeSeparators_eq_self hback]
  simp only [dropTrailing_append_cons hne hlast, cutLast?_append hlast]

theorem basename_of_separator_notMem (hback : '\\' ∉ last)
    (hlast : separator ∉ last) :
    basename last = last := by
  rw [basename, normalizeSeparators_eq_self hback]
  simp only [dropTrailing_eq_self hlast, cutLast?_eq_none hlast]

/-- A path in normal form that is no root ends with a segment, behind a
separator or by itself. -/
theorem IsNormal.exists_last (h : IsNormal p) (hhere : p ≠ here)
    (hroot : p ≠ (splitRoot p).1.text) :
    ∃ last, last ≠ [] ∧ separator ∉ last ∧
      (p = last ∨ ∃ front, front.getLast? ≠ some separator ∧
        p = front ++ separator :: last) := by
  rcases h.exists_intercalate_eq hhere with ⟨segments, hrest, hcollapsed⟩
  have htext := splitRoot_text_append p
  rw [hrest] at htext
  rcases List.eq_nil_or_concat segments with rfl | ⟨before, last, rfl⟩
  · rw [List.intercalate_nil, List.append_nil] at htext
    exact absurd htext.symm hroot
  rw [List.concat_eq_append] at htext hcollapsed
  refine ⟨last, hcollapsed.ne_nil last (by simp),
    hcollapsed.separator_notMem last (by simp), ?_⟩
  by_cases hbefore : before = []
  · subst hbefore
    rw [List.nil_append, List.intercalate_singleton] at htext
    cases hrooted : (splitRoot p).1.isRooted with
    | false =>
        left
        rw [Root.eq_none hrooted] at htext
        exact htext.symm
    | true =>
        right
        rcases Root.exists_text_eq (isReadable_splitRoot p) hrooted with
          ⟨front, hfront, hroottext⟩
        rw [hroottext, List.append_assoc, List.singleton_append] at htext
        exact ⟨front, fun hend => hfront (List.mem_of_getLast? hend),
          htext.symm⟩
  · right
    have hends := getLast?_intercalate_ne hbefore fun s hs =>
      ⟨hcollapsed.ne_nil s (List.mem_append_left _ hs),
        hcollapsed.separator_notMem s (List.mem_append_left _ hs)⟩
    rw [intercalate_append hbefore (List.cons_ne_nil _ _),
      List.intercalate_singleton, ← List.append_assoc] at htext
    refine ⟨(splitRoot p).1.text ++ [separator].intercalate before, ?_,
      htext.symm⟩
    rw [List.getLast?_append_of_ne_nil _ hends.1]
    exact hends.2

theorem normalize_here_append (hback : '\\' ∉ last) (hsep : separator ∉ last) :
    normalize (here ++ separator :: last) = normalize last := by
  have hroot : splitRoot (here ++ separator :: last)
      = (.none, here ++ separator :: last) := rfl
  have hhere : here.splitOn separator = [here] := by decide
  have htext : '\\' ∉ here ++ separator :: last := by
    simp [here, separator, hback]
  rw [normalize_of_backslash_notMem htext,
    normalize_of_backslash_notMem hback, hroot, splitRoot_eq_none hsep]
  dsimp only
  rw [List.splitOn_append_cons_self, hhere]
  exact congrArg (render .none) (collapse_append_here_cons .none [] _)

/-- A path in normal form is its last segment, seen from its directory. -/
theorem join_dirname_basename (hp : IsNormal p)
    (hdrive : ∀ letter, p ≠ (Root.drive letter).text) :
    join (dirname p) [basename p] = p := by
  by_cases hhere : p = here
  · subst hhere
    decide
  by_cases hroot : p = (splitRoot p).1.text
  · cases hrooted : (splitRoot p).1 with
    | none =>
        rw [hrooted] at hroot
        subst hroot
        exact absurd hp (by decide)
    | slash =>
        rw [hrooted] at hroot
        subst hroot
        decide
    | drive letter =>
        rw [hrooted] at hroot
        exact absurd hroot (hdrive letter)
  have hback := hp.backslash_notMem
  rcases hp.exists_last hhere hroot with
    ⟨last, hne, hlast, rfl | ⟨front, hfront, rfl⟩⟩
  · rw [dirname_of_separator_notMem hne hlast hback,
      basename_of_separator_notMem hback hlast, join, List.foldl_cons,
      List.foldl_nil, append, if_neg hne, if_neg (by decide),
      normalize_here_append hback hlast]
    exact hp
  · rw [basename_append hback hne hlast, join, List.foldl_cons, List.foldl_nil,
      append_dirname hfront hback hne hlast hne]
    exact hp

/-! ## Directories of places -/

theorem isDriveName_eq_true_iff :
    isDriveName p = true ↔ ∃ c : Char, c.val < 128 ∧ p = [c, ':'] := by
  constructor
  · intro h
    unfold isDriveName at h
    split at h
    next c => exact ⟨c, of_decide_eq_true h, rfl⟩
    next => cases h
  · rintro ⟨c, hc, rfl⟩
    exact decide_eq_true hc

/-- Below `/` there is one folder with a text that passes for the name of a
drive. -/
theorem IsPlace.isDriveName_render {root : Root} {segments : List Path}
    (h : IsPlace root segments) :
    isDriveName (render root segments) = true ↔
      root = .slash ∧ segments = [[':']] := by
  rw [isDriveName_eq_true_iff, render_of_isRooted h.isRooted]
  constructor
  · rintro ⟨c, -, htext⟩
    cases root with
    | none => exact absurd h.isRooted (by decide)
    | slash =>
        have hsegments := (List.cons.inj htext).2
        exact ⟨rfl, eq_singleton_of_intercalate_eq
          (separator_notMem_of_isPlain h.isPlain) (by decide)
          (by decide) hsegments⟩
    | drive letter =>
        have hlength := congrArg List.length htext
        simp [Root.text] at hlength
  · rintro ⟨rfl, rfl⟩
    exact ⟨'/', by decide, rfl⟩

/-- The directory of a place is the place without its last segment, in normal
form unless that is the folder `/:`, which gets a separator at its end. -/
theorem IsPlace.dirname_render_eq {root : Root} {segments : List Path}
    (h : IsPlace root (segments ++ [last])) :
    dirname (render root (segments ++ [last]))
      = if root = .slash ∧ segments = [[':']] then "/:/".toList
        else render root segments := by
  by_cases hne : segments = []
  · subst hne
    rw [List.nil_append] at h ⊢
    rw [if_neg (by simp), dirname_render_singleton h]
  · have hlast : IsPlain last := h.isPlain last (by simp)
    have hback := backslash_notMem_render h.isReadable h.isCollapsed
    rw [render_append h.isRooted hne (by simp), List.intercalate_singleton]
      at hback ⊢
    have htext : render root segments ≠ [] := by
      rw [render_of_isRooted h.isRooted]
      exact List.append_ne_nil_of_right_ne_nil _
        (h.of_append.isCollapsed.getLast?_intercalate_ne hne).1
    rw [dirname_append _ hback hlast.ne_nil hlast.separator_notMem,
      if_neg htext]
    by_cases hdrive : root = .slash ∧ segments = [[':']]
    · rw [if_pos hdrive, if_pos (h.of_append.isDriveName_render.2 hdrive),
        hdrive.1, hdrive.2]
      rfl
    · rw [if_neg hdrive, if_neg (mt h.of_append.isDriveName_render.1 hdrive)]

/-- The path names an entry of the directory itself, not of one below it. -/
def IsEntryOf (p dir : Path) : Prop :=
  ∃ name, view p = ((view dir).1, (view dir).2 ++ [name])

theorem IsEntryOf.dirname_normalize {dir : Path} (h : IsEntryOf p dir)
    (hr : isRooted p = true) (hcolon : [':'] ∉ (view p).2) :
    dirname (normalize p) = render (view dir).1 (view dir).2 := by
  rcases h with ⟨name, hview⟩
  have hplace := isPlace_view hr
  rw [← render_view hr, hview]
  rw [hview] at hplace hcolon
  rw [hplace.dirname_render_eq, if_neg]
  rintro ⟨-, heq⟩
  rw [heq] at hcolon
  exact hcolon (by simp)

/-! ## The way up -/

/-- How directories are spelled on the way up from a path in normal form. -/
def IsTidy (p : Path) : Prop :=
  IsNormal p ∨ p = "/:/".toList

theorem IsTidy.dirname (h : IsTidy p) (hr : isRooted p = true)
    (hne : (view p).2 ≠ []) :
    IsTidy (Path.dirname p) ∧ isRooted (Path.dirname p) = true ∧
      view (Path.dirname p) = ((view p).1, (view p).2.dropLast) := by
  rcases h with hnormal | rfl
  · refine ⟨?_, view_dirname hnormal hr hne⟩
    have hplace := isPlace_view hr
    have htext := hnormal.render_view hr
    rw [← List.dropLast_concat_getLast hne] at hplace htext
    rw [← htext, hplace.dirname_render_eq]
    split
    next => exact .inr rfl
    next => exact .inl hplace.of_append.isNormal_render
  · have hdirname : Path.dirname "/:/".toList = Root.slash.text := by decide
    rw [hdirname]
    exact ⟨.inl (by decide), by decide, by decide⟩

theorem IsTidy.isBelow_dirname (h : IsTidy p) (hr : isRooted p = true)
    (hne : (view p).2 ≠ []) :
    IsBelow p (Path.dirname p) := by
  rcases h.dirname hr hne with ⟨-, -, hview⟩
  refine ⟨[(view p).2.getLast hne], List.cons_ne_nil _ _, ?_⟩
  rw [hview, List.dropLast_concat_getLast]

/-- Every directory on the way up from a rooted path is above it, but for the
one where the way from a drive ends. -/
theorem IsWayUp.of_mem {dirs : List Path} (h : IsWayUp p dirs)
    (htidy : IsTidy p) (hr : isRooted p = true) :
    ∀ dir ∈ dirs, dir = here ∨
      (IsTidy dir ∧ isRooted dir = true ∧ (dir = p ∨ IsBelow p dir)) := by
  induction h with
  | top _ =>
      intro dir hdir
      rw [List.mem_singleton.1 hdir]
      exact .inr ⟨htidy, hr, .inl rfl⟩
  | @up p dirs hup rest ih =>
      intro dir hdir
      rcases List.mem_cons.1 hdir with rfl | hdir
      · exact .inr ⟨htidy, hr, .inl rfl⟩
      by_cases hne : (view p).2 = []
      · -- a root: `/` would be its own directory
        have hnormal : IsNormal p := by
          rcases htidy with hnormal | rfl
          · exact hnormal
          · exact absurd hne (by decide)
        have hhere : Path.dirname p = here := by
          rcases dirname_of_view_eq_nil hnormal hr hne with
            ⟨-, hself⟩ | ⟨letter, -, hhere⟩
          · exact absurd hself hup
          · exact hhere
        rw [hhere] at rest
        rw [rest.eq_singleton (by decide), List.mem_singleton] at hdir
        exact .inl hdir
      · rcases htidy.dirname hr hne with ⟨htidydir, hrdir, -⟩
        have hbelow := htidy.isBelow_dirname hr hne
        rcases ih htidydir hrdir dir hdir with hhere | ⟨htidy', hr', habove⟩
        · exact .inl hhere
        · refine .inr ⟨htidy', hr', .inr ?_⟩
          rcases habove with rfl | habove
          · exact hbelow
          · exact hbelow.of_contains habove.contains

theorem exists_iterate_dirname (p : Path) :
    ∃ steps, dirname^[steps] p = Root.slash.text ∨
      dirname^[steps] p = here := by
  induction hlength : p.length using Nat.strongRecOn generalizing p with
  | ind length ih =>
      subst hlength
      rcases length_dirname_lt p with hslash | hhere | hshorter
      · exact ⟨1, .inl hslash⟩
      · exact ⟨1, .inr hhere⟩
      · rcases ih _ hshorter (dirname p) rfl with ⟨steps, htop⟩
        refine ⟨steps + 1, ?_⟩
        rw [Function.iterate_succ_apply]
        exact htop

end Path
end BuildHost
