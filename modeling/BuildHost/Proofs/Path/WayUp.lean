import BuildHost.Proofs.Path.Dirname

/-!
# The way up from any path

However a path is spelled, its directory is shorter than the path, unless it is
`/` or `.` (`length_dirname_lt`), and these two are the only paths that are
their own directories (`dirname_eq_self_iff`).  So the way up from a path ends
at one of them, and the directories on it are the ones that `ancestors` lists
(`isWayUp_ancestors`).
-/

namespace BuildHost
namespace Path

variable {p top : Path} {dirs : List Path}

/-! ## One step -/

theorem cutLast?_eq_some {front last : Path}
    (h : cutLast? p = some (front, last)) :
    p = front ++ separator :: last := by
  rw [cutLast?, List.span_eq_takeWhile_dropWhile] at h
  have hsplit := List.takeWhile_append_dropWhile (p := (· ≠ separator))
    (l := p.reverse)
  have hhead := List.head?_dropWhile_not (· ≠ separator) p.reverse
  cases hrest : p.reverse.dropWhile (· ≠ separator) with
  | nil =>
      rw [hrest] at h
      cases h
  | cons c before =>
      rw [hrest] at h hhead hsplit
      obtain rfl : c = separator := by
        simpa using hhead
      rw [Option.some.injEq, Prod.mk.injEq] at h
      rw [← h.1, ← h.2]
      have htext := congrArg List.reverse hsplit
      rw [List.reverse_reverse, List.reverse_append, List.reverse_cons,
        List.append_assoc, List.singleton_append] at htext
      exact htext.symm

theorem length_dropTrailing_le (p : Path) :
    (dropTrailing p).length ≤ p.length := by
  rw [dropTrailing, List.length_reverse]
  exact le_of_le_of_eq (List.dropWhile_suffix _).length_le List.length_reverse

theorem getLast?_dropTrailing_ne (p : Path) :
    (dropTrailing p).getLast? ≠ some separator := by
  have hhead := List.head?_dropWhile_not (· = separator) p.reverse
  rw [dropTrailing, List.getLast?_reverse]
  intro hlast
  rw [hlast] at hhead
  simp at hhead

theorem length_dirname_lt (p : Path) :
    dirname p = Root.slash.text ∨ dirname p = here ∨
      (dirname p).length < p.length := by
  have hlength : (dropTrailing (normalizeSeparators p)).length ≤ p.length :=
    le_of_le_of_eq (length_dropTrailing_le _) (List.length_map _)
  have hends := getLast?_dropTrailing_ne (normalizeSeparators p)
  simp only [dirname]
  generalize dropTrailing (normalizeSeparators p) = trimmed at hlength hends
  split
  · split
    · exact .inl rfl
    · exact .inr (.inl rfl)
  · split
    next => exact .inr (.inl rfl)
    next => exact .inl rfl
    next front last _ hcut =>
      have htext := cutLast?_eq_some hcut
      have hlast : last ≠ [] := by
        rintro rfl
        exact hends (by rw [htext, List.getLast?_concat])
      have hpos := List.length_pos_iff.2 hlast
      have htotal := congrArg List.length htext
      rw [List.length_append, List.length_cons] at htotal
      right
      right
      -- the directory of a drive has its separator back, in place of the name
      -- that was cut off
      split
      · rw [List.length_append, List.length_singleton]
        omega
      · omega

theorem dirname_eq_self_iff :
    dirname p = p ↔ p = Root.slash.text ∨ p = here := by
  constructor
  · intro h
    rcases length_dirname_lt p with htop | htop | hshorter
    · exact .inl (h ▸ htop)
    · exact .inr (h ▸ htop)
    · rw [h] at hshorter
      exact absurd hshorter (Nat.lt_irrefl _)
  · rintro (rfl | rfl)
    · decide
    · decide

/-! ## All steps -/

/-- The directories on the way up from a path, from the path itself to the first
that is its own directory. -/
inductive IsWayUp : Path → List Path → Prop where
  | top {p : Path} (h : dirname p = p) : IsWayUp p [p]
  | up {p : Path} {dirs : List Path} (h : dirname p ≠ p)
      (rest : IsWayUp (dirname p) dirs) :
    IsWayUp p (p :: dirs)

theorem IsWayUp.exists_top (h : IsWayUp p dirs) :
    ∃ top, dirs.getLast? = some top ∧ (top = Root.slash.text ∨ top = here) := by
  induction h with
  | @top p hp => exact ⟨p, rfl, dirname_eq_self_iff.1 hp⟩
  | @up p dirs _ _ ih =>
      rcases ih with ⟨top, hlast, htop⟩
      refine ⟨top, ?_, htop⟩
      rw [List.getLast?_cons, hlast]
      rfl

theorem IsWayUp.eq_singleton (h : IsWayUp p dirs) (htop : dirname p = p) :
    dirs = [p] := by
  cases h with
  | top _ => rfl
  | up hup _ => exact absurd htop hup

theorem length_dirname_lt_of_ne (h : dirname (dirname p) ≠ dirname p) :
    (dirname p).length < p.length := by
  rcases length_dirname_lt p with hslash | hhere | hshorter
  · exact absurd (dirname_eq_self_iff.2 (.inl hslash)) h
  · exact absurd (dirname_eq_self_iff.2 (.inr hhere)) h
  · exact hshorter

/-- The directories on the way up are shorter than the path, the one where the
way ends apart. -/
theorem IsWayUp.length_lt (h : IsWayUp p dirs) :
    ∀ dir ∈ dirs, dir = p ∨ dirname dir = dir ∨ dir.length < p.length := by
  induction h with
  | top _ =>
      intro dir hdir
      exact .inl (List.mem_singleton.1 hdir)
  | @up p dirs _ rest ih =>
      intro dir hdir
      rcases List.mem_cons.1 hdir with rfl | hdir
      · exact .inl rfl
      by_cases htop : dirname (dirname p) = dirname p
      · rw [rest.eq_singleton htop, List.mem_singleton] at hdir
        exact .inr (.inl (hdir ▸ htop))
      · have hshorter := length_dirname_lt_of_ne htop
        rcases ih dir hdir with rfl | hself | hlength
        · exact .inr (.inr hshorter)
        · exact .inr (.inl hself)
        · exact .inr (.inr (Nat.lt_trans hlength hshorter))

/-- What is left behind on the way up is not met again. -/
theorem IsWayUp.notMem (h : IsWayUp (dirname p) dirs) (hup : dirname p ≠ p) :
    p ∉ dirs := by
  intro hmem
  by_cases htop : dirname (dirname p) = dirname p
  · rw [h.eq_singleton htop, List.mem_singleton] at hmem
    exact hup hmem.symm
  · rcases h.length_lt p hmem with hself | hself | hlength
    · exact hup hself.symm
    · exact hup hself
    · exact Nat.lt_asymm hlength (length_dirname_lt_of_ne htop)

theorem isWayUp_ancestorsWithin {fuel : Nat} (h : p.length < fuel) :
    IsWayUp p (ancestorsWithin fuel p) := by
  induction fuel generalizing p with
  | zero => exact absurd h (Nat.not_lt_zero _)
  | succ fuel ih =>
      rw [ancestorsWithin]
      split
      next hp => exact .top hp
      next hp =>
        have htop : ∀ {q : Path}, dirname q = q →
            IsWayUp q (ancestorsWithin fuel q) := by
          intro q hq
          cases fuel with
          | zero => exact .top hq
          | succ fuel =>
              rw [ancestorsWithin, if_pos hq]
              exact .top hq
        refine .up hp ?_
        rcases length_dirname_lt p with hslash | hhere | hshorter
        · exact htop (dirname_eq_self_iff.2 (.inl hslash))
        · exact htop (dirname_eq_self_iff.2 (.inr hhere))
        · exact ih (by omega)

/-- From every path the way up ends, and passes what `ancestors` lists. -/
theorem isWayUp_ancestors (p : Path) : IsWayUp p (ancestors p) :=
  isWayUp_ancestorsWithin (Nat.lt_succ_of_lt (Nat.lt_succ_self _))

end Path
end BuildHost
