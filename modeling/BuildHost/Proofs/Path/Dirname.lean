import BuildHost.Proofs.Path.Join

/-!
# The directory of a path

The directory of a rooted path in normal form is read without its last segment
(`view_dirname`), also where it is the root of a drive and is spelled with a
separator at its end.  A root has no last segment: `/` is its own directory, and
the root of a drive is cut like a relative path (`dirname_of_view_eq_nil`).
-/

namespace BuildHost
namespace Path

theorem forall_mem_reverse_ne {last : Path} (h : separator ∉ last) :
    ∀ c ∈ last.reverse, decide (c ≠ separator) = true := by
  intro c hc
  rw [decide_eq_true_iff]
  rintro rfl
  exact h (List.mem_reverse.1 hc)

theorem cutLast?_append {front last : Path} (h : separator ∉ last) :
    cutLast? (front ++ separator :: last) = some (front, last) := by
  have hlast := forall_mem_reverse_ne h
  have hreverse : (front ++ separator :: last).reverse
      = last.reverse ++ separator :: front.reverse := by
    simp
  rw [cutLast?, hreverse, List.span_eq_takeWhile_dropWhile,
    List.takeWhile_append_of_pos hlast, List.dropWhile_append_of_pos hlast,
    List.takeWhile_cons_of_neg (by simp), List.dropWhile_cons_of_neg (by simp)]
  simp

theorem cutLast?_eq_none {last : Path} (h : separator ∉ last) :
    cutLast? last = none := by
  have hlast := forall_mem_reverse_ne h
  have hdrop : last.reverse.dropWhile (fun c => decide (c ≠ separator))
      = [] := by
    rw [← List.append_nil last.reverse, List.dropWhile_append_of_pos hlast,
      List.dropWhile_nil]
  rw [cutLast?, List.span_eq_takeWhile_dropWhile, hdrop]

theorem dropTrailing_append {front last : Path} (hne : last ≠ [])
    (h : separator ∉ last) :
    dropTrailing (front ++ last) = front ++ last := by
  rw [dropTrailing, List.reverse_append]
  cases hlast : last.reverse with
  | nil => exact absurd (List.reverse_eq_nil_iff.1 hlast) hne
  | cons c rest =>
      have hc : c ≠ separator := by
        rintro rfl
        exact h (List.mem_reverse.1 (hlast ▸ List.mem_cons_self))
      rw [List.cons_append, List.dropWhile_cons_of_neg (by simpa using hc),
        ← List.cons_append, ← hlast, ← List.reverse_append,
        List.reverse_reverse]

theorem dropTrailing_append_cons {front last : Path} (hne : last ≠ [])
    (h : separator ∉ last) :
    dropTrailing (front ++ separator :: last) = front ++ separator :: last := by
  have hfront : front ++ separator :: last
      = (front ++ [separator]) ++ last := by simp
  rw [hfront]
  exact dropTrailing_append hne h

theorem dropTrailing_eq_self {last : Path} (h : separator ∉ last) :
    dropTrailing last = last := by
  by_cases hne : last = []
  · rw [hne]
    rfl
  · rw [← List.nil_append last]
    exact dropTrailing_append hne h

theorem dirname_append (front : Path) {last : Path}
    (hback : '\\' ∉ front ++ separator :: last) (hne : last ≠ [])
    (hlast : separator ∉ last) :
    dirname (front ++ separator :: last)
      = if front = [] then Root.slash.text
        else if isDriveName front then front ++ [separator] else front := by
  rw [dirname, normalizeSeparators_eq_self hback]
  simp only [dropTrailing_append_cons hne hlast, cutLast?_append hlast]
  rw [if_neg (by simp)]
  cases front with
  | nil => rfl
  | cons c rest => simp

/-- A fragment that is appended to the directory of a path takes the place of
the last segment. -/
theorem append_dirname {front last fragment : Path}
    (hfront : front.getLast? ≠ some separator)
    (hback : '\\' ∉ front ++ separator :: last) (hne : last ≠ [])
    (hlast : separator ∉ last) (hfragment : fragment ≠ []) :
    append (dirname (front ++ separator :: last)) fragment
      = front ++ separator :: fragment := by
  rw [dirname_append front hback hne hlast, append, if_neg hfragment]
  by_cases hroot : front = []
  · subst hroot
    rfl
  · rw [if_neg hroot]
    by_cases hdrive : isDriveName front = true
    · rw [if_pos hdrive, if_pos (.inr List.getLast?_concat), List.append_assoc,
        List.singleton_append]
    · rw [if_neg hdrive, if_neg]
      rintro (hnil | hend)
      · exact hroot hnil
      · exact hfront hend

theorem view_append_separator_nil {p : Path} (h : isRooted p = true) :
    view (p ++ [separator]) = view p := by
  rw [view_append_separator h, normalizeSeparators, List.map_nil,
    List.splitOn_nil, collapse_append_nil_cons, List.append_nil,
    collapse_of_isPlain (isPlace_view h).isPlain]

theorem isDriveName_of_isAlpha {letter : Char} (h : letter.isAlpha = true) :
    isDriveName [letter, ':'] = true := by
  simp only [isDriveName, decide_eq_true_eq]
  rcases Bool.or_eq_true_iff.1 h with hupper | hlower
  · have hrange : 'A'.val ≤ letter.val ∧ letter.val ≤ 'Z'.val :=
      of_decide_eq_true hupper
    exact Nat.lt_of_le_of_lt hrange.2 (by decide)
  · have hrange : letter.val ≤ 'z'.val :=
      of_decide_eq_true (Bool.and_eq_true_iff.1 hlower).2
    exact Nat.lt_of_le_of_lt hrange (by decide)

theorem dirname_render_singleton {root : Root} {last : Path}
    (h : IsPlace root [last]) :
    dirname (render root [last]) = render root [] := by
  have hlast : IsPlain last := h.isPlain last (by simp)
  have hback := backslash_notMem_render h.isReadable h.isCollapsed
  rw [render_of_isRooted h.isRooted, List.intercalate_singleton] at hback ⊢
  cases root with
  | none => exact absurd h.isRooted (by decide)
  | slash => exact dirname_append [] hback hlast.ne_nil hlast.separator_notMem
  | drive letter =>
      have hdrive : isDriveName [letter, ':'] = true :=
        isDriveName_of_isAlpha h.isReadable
      have hdir := dirname_append [letter, ':'] hback hlast.ne_nil
        hlast.separator_notMem
      rw [if_neg (by simp), if_pos hdrive] at hdir
      exact hdir

/-- The directory of a place is read without the last segment, also where it is
spelled with a separator at its end. -/
theorem IsPlace.dirname_render {root : Root} {segments : List Path}
    {last : Path} (h : IsPlace root (segments ++ [last])) :
    Path.isRooted (dirname (render root (segments ++ [last]))) = true ∧
      view (dirname (render root (segments ++ [last]))) = (root, segments) := by
  have hdir : IsPlace root segments := h.of_append
  have hlast : IsPlain last := h.isPlain last (by simp)
  by_cases hne : segments = []
  · subst hne
    rw [List.nil_append] at h ⊢
    rw [dirname_render_singleton h]
    exact ⟨hdir.isRooted_render, hdir.view_render⟩
  · have hback := backslash_notMem_render h.isReadable h.isCollapsed
    rw [render_append h.isRooted hne (by simp), List.intercalate_singleton]
      at hback ⊢
    rw [dirname_append _ hback hlast.ne_nil hlast.separator_notMem]
    split
    next hnil =>
      have := hdir.isRooted_render
      rw [hnil] at this
      exact absurd this (by decide)
    next =>
      split
      next =>
        exact ⟨isRooted_append hdir.isRooted_render _,
          (view_append_separator_nil hdir.isRooted_render).trans
            hdir.view_render⟩
      next => exact ⟨hdir.isRooted_render, hdir.view_render⟩

theorem view_dirname {p : Path} (hp : IsNormal p) (hr : isRooted p = true)
    (hne : (view p).2 ≠ []) :
    isRooted (dirname p) = true ∧
      view (dirname p) = ((view p).1, (view p).2.dropLast) := by
  have hplace := isPlace_view hr
  have hsplit := List.dropLast_concat_getLast hne
  rw [← hsplit] at hplace
  have hdir := hplace.dirname_render
  rw [hsplit, hp.render_view hr] at hdir
  exact hdir

theorem dirname_drive {letter : Char} (h : letter.isAlpha = true) :
    dirname (Root.drive letter).text = here := by
  have hsep : letter ≠ separator := ne_separator_of_isAlpha h
  have hback : '\\' ∉ (Root.drive letter).text := by
    have hne : '\\' ≠ letter := by
      rintro rfl
      cases h
    simp [Root.text, hne]
  have htrimmed : dropTrailing (Root.drive letter).text = [letter, ':'] := by
    simp [dropTrailing, Root.text, separator]
  have hcut : cutLast? [letter, ':'] = none := by
    simp [cutLast?, List.span_eq_takeWhile_dropWhile, hsep,
      show ':' ≠ separator by decide]
  rw [dirname, normalizeSeparators_eq_self hback]
  simp only [htrimmed, hcut]
  rfl

/-- A root is its own directory, and a drive has none: its text is cut like that
of a relative path. -/
theorem dirname_of_view_eq_nil {p : Path} (hp : IsNormal p)
    (hr : isRooted p = true) (h : (view p).2 = []) :
    (p = Root.slash.text ∧ dirname p = p) ∨
      ∃ letter, (view p).1 = .drive letter ∧ dirname p = here := by
  have hplace := isPlace_view hr
  have htext := hp.render_view hr
  rw [h, render_of_isRooted hplace.isRooted, List.intercalate_nil,
    List.append_nil] at htext
  cases hroot : (view p).1 with
  | none => exact absurd hplace.isRooted (by rw [hroot]; decide)
  | slash =>
      rw [hroot] at htext
      subst htext
      exact .inl ⟨rfl, by decide⟩
  | drive letter =>
      have hreadable := hplace.isReadable
      rw [hroot] at hreadable htext
      exact .inr ⟨letter, rfl, htext ▸ dirname_drive hreadable⟩

end Path
end BuildHost
