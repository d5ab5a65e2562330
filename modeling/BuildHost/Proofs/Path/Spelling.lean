import BuildHost.Proofs.Path.Dirname
import BuildHost.Proofs.Path.Name
import BuildHost.Proofs.Path.Origin
import Mathlib.Data.List.Induction

/-!
# Spellings of a path

A path can be spelled in many ways that are read alike.  Where the last segment
names a file, all of them agree on the directory (`view_dirname_of_namesFile`)
and on the path without its ending (`IsRespelling.view_withoutExtension_eq`),
since neither cuts anything but that segment.
-/

namespace BuildHost
namespace Path

variable {p q front name : Path}

/-! ## Separators -/

theorem normalizeSeparators_normalizeSeparators (p : Path) :
    normalizeSeparators (normalizeSeparators p) = normalizeSeparators p :=
  normalizeSeparators_eq_self (backslash_notMem_normalizeSeparators p)

theorem view_normalizeSeparators (p : Path) :
    view (normalizeSeparators p) = view p := by
  unfold view normalize
  rw [normalizeSeparators_normalizeSeparators]

theorem isRooted_normalizeSeparators (p : Path) :
    isRooted (normalizeSeparators p) = isRooted p := by
  unfold isRooted
  rw [normalizeSeparators_normalizeSeparators]

theorem dirname_normalizeSeparators (p : Path) :
    dirname (normalizeSeparators p) = dirname p := by
  unfold dirname
  rw [normalizeSeparators_normalizeSeparators]

theorem eq_of_normalizeSeparators_eq {ending : Path} (h : separator ∉ ending)
    (heq : normalizeSeparators p = ending) : p = ending := by
  have hkept : ∀ c ∈ p, c ≠ '\\' := by
    rintro c hc rfl
    apply h
    rw [← heq]
    exact List.mem_map.2 ⟨'\\', hc, rfl⟩
  rw [← heq]
  exact (normalizeSeparators_eq_self fun hmem => hkept _ hmem rfl).symm

theorem isSuffixOf?_normalizeSeparators {ending : Path} (h : separator ∉ ending)
    (hback : '\\' ∉ ending) (p : Path) :
    ending.isSuffixOf? (normalizeSeparators p)
      = (ending.isSuffixOf? p).map normalizeSeparators := by
  refine Option.ext fun stem => ?_
  rw [Option.map_eq_some_iff, List.isSuffixOf?_eq_some_iff_append_eq]
  constructor
  · intro heq
    rcases List.map_eq_append_iff.1 heq.symm with
      ⟨before, after, rfl, hbefore, hafter⟩
    obtain rfl := eq_of_normalizeSeparators_eq h hafter
    exact ⟨before, List.isSuffixOf?_eq_some_iff_append_eq.2 rfl, hbefore⟩
  · rintro ⟨before, hbefore, rfl⟩
    rw [List.isSuffixOf?_eq_some_iff_append_eq] at hbefore
    rw [← hbefore, normalizeSeparators_append,
      normalizeSeparators_eq_self hback]

theorem isSuffixOf_normalizeSeparators {ending : Path} (h : separator ∉ ending)
    (hback : '\\' ∉ ending) (p : Path) :
    ending.isSuffixOf (normalizeSeparators p) = ending.isSuffixOf p := by
  rw [Bool.eq_iff_iff, List.isSuffixOf_iff_suffix, List.isSuffixOf_iff_suffix]
  constructor
  · rintro ⟨stem, hstem⟩
    have hfound := isSuffixOf?_normalizeSeparators h hback p
    rw [List.isSuffixOf?_eq_some_iff_append_eq.2 hstem] at hfound
    rcases Option.map_eq_some_iff.1 hfound.symm with ⟨before, hbefore, -⟩
    exact ⟨before, List.isSuffixOf?_eq_some_iff_append_eq.1 hbefore⟩
  · rintro ⟨stem, rfl⟩
    rw [normalizeSeparators_append, normalizeSeparators_eq_self hback]
    exact List.suffix_append _ _

theorem withoutExtension_normalizeSeparators (p : Path) :
    (normalizeSeparators p).withoutExtension
      = normalizeSeparators p.withoutExtension := by
  have hback : ∀ ending ∈ sourceExtensions, '\\' ∉ ending := by
    decide
  have hfind : ∀ endings ⊆ sourceExtensions,
      (endings.findSome?
        fun ending => ending.isSuffixOf? (normalizeSeparators p))
        = (endings.findSome? fun ending => ending.isSuffixOf? p).map
          normalizeSeparators := by
    intro endings hendings
    induction endings with
    | nil => rfl
    | cons ending rest ih =>
        have hmem := hendings List.mem_cons_self
        rw [List.findSome?_cons, List.findSome?_cons,
          isSuffixOf?_normalizeSeparators
            (separator_notMem_of_mem_sourceExtensions ending hmem)
            (hback ending hmem), ih (List.subset_of_cons_subset hendings)]
        cases ending.isSuffixOf? p with
        | none => rfl
        | some stem => rfl
  rw [withoutExtension, withoutExtension, hfind _ (List.Subset.refl _)]
  cases sourceExtensions.findSome? fun ending => ending.isSuffixOf? p with
  | none => rfl
  | some stem => rfl

/-! ## Walks from a directory -/

theorem step_of_stays {root : Root} {visited : List Path} {s : Path}
    (h : s = [] ∨ s = here) :
    step root visited s = visited := by
  unfold step
  rw [if_pos h]

/-- A step of a relative walk is the same step when the walk is continued from a
rooted place. -/
theorem foldl_step_reverse_step (root : Root) {walked : List Path} {s : Path}
    (h : IsWalk .none walked) (hs : separator ∉ s) (visited : List Path) :
    (step .none walked s).reverse.foldl (step root) visited
      = step root (walked.reverse.foldl (step root) visited) s := by
  rcases h with ⟨entered, n, rfl, hentered, -⟩
  by_cases hstay : s = [] ∨ s = here
  · rw [step_of_stays hstay, step_of_stays hstay]
  by_cases hup : s = up
  · subst hup
    cases entered with
    | nil =>
        rw [List.nil_append, step_none_replicate_up, List.reverse_replicate,
          List.reverse_replicate, List.replicate_succ', List.foldl_append]
        rfl
    | cons last before =>
        have hlast := hentered last List.mem_cons_self
        rw [List.cons_append, step_up_of_isEntered hlast, List.reverse_cons,
          List.foldl_append, List.foldl_cons, List.foldl_nil,
          step_of_isEntered hlast, step_up_of_isEntered hlast]
  · have hs' : IsEntered s :=
      ⟨fun e => hstay (.inl e), fun e => hstay (.inr e), hup, hs⟩
    rw [step_of_isEntered hs', List.reverse_cons, List.foldl_append]
    rfl

/-- From a directory it makes no difference whether a relative walk is collapsed
first. -/
theorem collapse_append_collapse_none (root : Root) (before : List Path)
    {after : List Path} (h : ∀ s ∈ after, separator ∉ s) :
    collapse root (before ++ collapse .none after)
      = collapse root (before ++ after) := by
  have hwalk : ∀ visited,
      (collapse .none after).foldl (step root) visited
        = after.foldl (step root) visited := by
    intro visited
    induction after using List.reverseRecOn with
    | nil => rfl
    | append_singleton front s ih =>
        have hfront : ∀ t ∈ front, separator ∉ t :=
          fun t ht => h t (List.mem_append_left _ ht)
        have hfold := foldl_step_reverse_step root
          (isWalk_foldl hfront (isWalk_nil .none)) (h s (by simp)) visited
        rw [collapse, List.foldl_append, List.foldl_append, ← ih hfront]
        exact hfold
  show ((before ++ collapse .none after).foldl (step root) []).reverse
    = ((before ++ after).foldl (step root) []).reverse
  rw [List.foldl_append, List.foldl_append, hwalk]

/-! ## Paths of files -/

/-- The last segment of a path is the name of a file, however the segments
before it are spelled. -/
def NamesFile (p : Path) : Prop :=
  ∃ front name, normalizeSeparators p = front ++ separator :: name ∧
    IsPlain name

/-- The root of a path ends with its first separator. -/
theorem isRooted_append_separator_of_cons
    (h : isRooted (front ++ separator :: q) = true) :
    isRooted (front ++ [separator]) = true := by
  have hreadable :=
    isReadable_splitRoot (normalizeSeparators (front ++ separator :: q))
  have hspelled :=
    splitRoot_text_append (normalizeSeparators (front ++ separator :: q))
  rw [isRooted] at h
  rw [normalizeSeparators_append, normalizeSeparators_separator_cons]
    at h hreadable hspelled
  generalize splitRoot
    (normalizeSeparators front ++ separator :: normalizeSeparators q) = parts
    at h hreadable hspelled
  rcases parts with ⟨root, rest⟩
  rcases Root.exists_text_eq hreadable h with ⟨first, hfirst, htext⟩
  have hsplit : normalizeSeparators (front ++ [separator])
      = normalizeSeparators front ++ [separator] :=
    normalizeSeparators_append front [separator]
  rw [htext, List.append_assoc, List.singleton_append] at hspelled
  rcases List.append_eq_append_iff.1 hspelled with
    ⟨middle, hmiddle, hafter⟩ | ⟨middle, hmiddle, hafter⟩
  · cases middle with
    | nil =>
        refine isRooted_of_normalizeSeparators_eq (q := []) hreadable h ?_
        rw [hsplit, hmiddle, htext]
        simp
    | cons c others =>
        obtain ⟨rfl, -⟩ := List.cons.inj hafter
        refine isRooted_of_normalizeSeparators_eq (q := others ++ [separator])
          hreadable h ?_
        rw [hsplit, hmiddle, htext]
        simp
  · cases middle with
    | nil =>
        refine isRooted_of_normalizeSeparators_eq (q := []) hreadable h ?_
        rw [hsplit, htext, hmiddle]
        simp
    | cons c others =>
        obtain ⟨rfl, -⟩ := List.cons.inj hafter
        exact absurd (hmiddle ▸ List.mem_append_right _ List.mem_cons_self)
          hfirst

theorem isRooted_front (hr : isRooted p = true)
    (hp : normalizeSeparators p = front ++ separator :: name) :
    isRooted (front ++ [separator]) = true := by
  rw [← isRooted_normalizeSeparators, hp] at hr
  exact isRooted_append_separator_of_cons hr

/-- What stands behind the directory of a path is walked from there. -/
theorem view_front_append (h : isRooted (front ++ [separator]) = true)
    (q : Path) :
    view (front ++ separator :: q) = ((view (front ++ [separator])).1,
      collapse (view (front ++ [separator])).1
        ((view (front ++ [separator])).2
          ++ (normalizeSeparators q).splitOn separator)) := by
  rw [← view_append_separator h, ← view_append_of_getLast h (by simp)]
  simp

theorem view_front_append_of_isPlain
    (h : isRooted (front ++ [separator]) = true) (hname : IsPlain name) :
    view (front ++ separator :: name) = ((view (front ++ [separator])).1,
      (view (front ++ [separator])).2 ++ [name]) := by
  have hplain := (isPlace_view h).concat hname
  rw [view_front_append h, normalizeSeparators_eq_self hname.backslash_notMem,
    List.splitOn_eq_singleton hname.separator_notMem,
    collapse_of_isPlain hplain.isPlain]

theorem view_of_eq_front_append (hr : isRooted p = true)
    (hp : normalizeSeparators p = front ++ separator :: name)
    (hname : IsPlain name) :
    view p = ((view (front ++ [separator])).1,
      (view (front ++ [separator])).2 ++ [name]) := by
  rw [← view_normalizeSeparators, hp,
    view_front_append_of_isPlain (isRooted_front hr hp) hname]

theorem NamesFile.view_ne_nil (h : NamesFile p) (hr : isRooted p = true) :
    (view p).2 ≠ [] := by
  rcases h with ⟨front, name, hp, hname⟩
  rw [view_of_eq_front_append hr hp hname]
  exact List.concat_ne_nil _ _

theorem normalizeSeparators_normalize (p : Path) :
    normalizeSeparators (normalize p) = normalize p := by
  rcases exists_normalize_eq p with
    ⟨root, segments, hrender, hreadable, hcollapsed, -⟩
  rw [hrender]
  exact normalizeSeparators_eq_self
    (backslash_notMem_render hreadable hcollapsed)

theorem NamesFile.normalize (h : NamesFile p) (hr : isRooted p = true) :
    NamesFile (normalize p) := by
  rcases h with ⟨front, name, hp, hname⟩
  have hview := (view_normalize p).trans (view_of_eq_front_append hr hp hname)
  have hnormal : IsNormal (Path.normalize p) := normalize_normalize p
  rcases (exists_eq_append_last hnormal (isRooted_normalize hr) hview).2 with
    ⟨start, hstart, -⟩
  exact ⟨start, name, (normalizeSeparators_normalize p).trans hstart, hname⟩

theorem isRooted_of_append_separator
    (h : isRooted (front ++ [separator]) = true) (hne : front ≠ [])
    (hdrive : isDriveName front = false) : isRooted front = true := by
  have hreadable :=
    isReadable_splitRoot (normalizeSeparators (front ++ [separator]))
  have hspelled :=
    splitRoot_text_append (normalizeSeparators (front ++ [separator]))
  rw [isRooted] at h
  rw [normalizeSeparators_append] at h hreadable hspelled
  generalize splitRoot
    (normalizeSeparators front ++ normalizeSeparators [separator]) = parts
    at h hreadable hspelled
  rcases parts with ⟨root, rest⟩
  rcases List.eq_nil_or_concat rest with rfl | ⟨before, last, rfl⟩
  · -- the separator behind the front is the one that ends the root
    cases root with
    | none => cases h
    | slash =>
        have hnil : [] = normalizeSeparators front :=
          List.append_cancel_right
            (show [] ++ [separator] = _ ++ [separator] from hspelled)
        exact absurd (List.map_eq_nil_iff.1 hnil.symm) hne
    | drive letter =>
        have htext : [letter, ':'] = normalizeSeparators front :=
          List.append_cancel_right
            (show [letter, ':'] ++ [separator] = _ ++ [separator] from hspelled)
        have hsep : separator ∉ [letter, ':'] :=
          (Root.isPlain_segments hreadable _
            List.mem_cons_self).separator_notMem
        rw [eq_of_normalizeSeparators_eq hsep htext.symm,
          isDriveName_of_isAlpha hreadable] at hdrive
        cases hdrive
  · rw [List.concat_eq_append, ← List.append_assoc] at hspelled
    exact isRooted_of_normalizeSeparators_eq hreadable h
      (List.append_inj_left' hspelled rfl).symm

/-- The directory of a file is read without the last segment, however the file
is spelled. -/
theorem view_dirname_of_namesFile (hr : isRooted p = true) (h : NamesFile p) :
    isRooted (dirname p) = true ∧
      view (dirname p) = ((view p).1, (view p).2.dropLast) := by
  rcases h with ⟨front, name, hp, hname⟩
  have hfront := isRooted_front hr hp
  have hback : '\\' ∉ front ++ separator :: name := by
    rw [← hp]
    exact backslash_notMem_normalizeSeparators p
  have hdir : isRooted (dirname p) = true ∧
      view (dirname p) = view (front ++ [separator]) := by
    rw [← dirname_normalizeSeparators, hp,
      dirname_append front hback hname.ne_nil hname.separator_notMem]
    split
    next hnil => exact ⟨by decide, by rw [hnil]; rfl⟩
    next hne =>
      split
      next => exact ⟨hfront, rfl⟩
      next hdrive =>
        have hrooted :=
          isRooted_of_append_separator hfront hne (Bool.eq_false_iff.2 hdrive)
        exact ⟨hrooted, (view_append_separator_nil hrooted).symm⟩
  rw [view_of_eq_front_append hr hp hname, List.dropLast_concat]
  exact hdir

/-! ## Two spellings -/

/-- Two spellings of the path of one file. -/
structure IsRespelling (p q : Path) : Prop where
  isRooted_left : isRooted p = true
  isRooted_right : isRooted q = true
  namesFile_left : NamesFile p
  namesFile_right : NamesFile q
  view_eq : view p = view q

theorem isRespelling_normalize (hr : isRooted p = true) (h : NamesFile p) :
    IsRespelling p (normalize p) :=
  ⟨hr, isRooted_normalize hr, h, h.normalize hr, (view_normalize p).symm⟩

theorem view_withoutExtension_front (hr : isRooted p = true)
    (hp : normalizeSeparators p = front ++ separator :: name)
    (hname : IsPlain name) :
    view p.withoutExtension = ((view (front ++ [separator])).1,
      collapse (view (front ++ [separator])).1
        ((view (front ++ [separator])).2 ++ [name.withoutExtension])) := by
  have hstem := isPrefix_withoutExtension name
  have hback : '\\' ∉ name.withoutExtension :=
    fun hmem => hname.backslash_notMem (hstem.subset hmem)
  have hsep : separator ∉ name.withoutExtension :=
    fun hmem => hname.separator_notMem (hstem.subset hmem)
  rw [← view_normalizeSeparators, ← withoutExtension_normalizeSeparators, hp,
    withoutExtension_append_separator, view_front_append (isRooted_front hr hp),
    normalizeSeparators_eq_self hback, List.splitOn_eq_singleton hsep]

/-- Two spellings of a file agree on its name and on its directory. -/
theorem IsRespelling.exists_eq_append (h : IsRespelling p q) :
    ∃ front other name, normalizeSeparators p = front ++ separator :: name ∧
      normalizeSeparators q = other ++ separator :: name ∧ IsPlain name ∧
      view (front ++ [separator]) = view (other ++ [separator]) := by
  rcases h.namesFile_left with ⟨front, name, hp, hname⟩
  rcases h.namesFile_right with ⟨other, last, hq, hlast⟩
  have hview := h.view_eq
  rw [view_of_eq_front_append h.isRooted_left hp hname,
    view_of_eq_front_append h.isRooted_right hq hlast, Prod.mk.injEq] at hview
  have hparts := List.append_inj' hview.2 rfl
  obtain rfl := List.singleton_inj.1 hparts.2
  exact ⟨front, other, name, hp, hq, hname, Prod.ext hview.1 hparts.1⟩

theorem IsRespelling.view_withoutExtension_eq (h : IsRespelling p q) :
    view p.withoutExtension = view q.withoutExtension := by
  rcases h.exists_eq_append with ⟨front, other, name, hp, hq, hname, hdir⟩
  rw [view_withoutExtension_front h.isRooted_left hp hname,
    view_withoutExtension_front h.isRooted_right hq hname, hdir]

/-- Endings show neither the directory nor how it is spelled. -/
theorem IsRespelling.isSuffixOf_eq (h : IsRespelling p q) {ending : Path}
    (hseparator : separator ∉ ending) (hback : '\\' ∉ ending) :
    ending.isSuffixOf p = ending.isSuffixOf q := by
  rcases h.exists_eq_append with ⟨front, other, name, hp, hq, -, -⟩
  rw [← isSuffixOf_normalizeSeparators hseparator hback p,
    ← isSuffixOf_normalizeSeparators hseparator hback q, hp, hq,
    isSuffixOf_append_separator hseparator,
    isSuffixOf_append_separator hseparator]

/-! ## Targets -/

theorem normalize_congr (hp : isRooted p = true) (hq : isRooted q = true)
    (h : view p = view q) :
    normalize p = normalize q := by
  rw [← render_view hp, ← render_view hq, h]

theorem dotRelative_target_congr {source : Path} (hp : isRooted p = true)
    (hq : isRooted q = true) (h : view p = view q) :
    dotRelative source p = dotRelative source q := by
  rw [← dotRelative_normalize, normalize_congr hp hq h, dotRelative_normalize]

/-- A target below another root is spelled whole. -/
theorem dotRelative_eq_here_append {source target : Path}
    (htarget : isRooted target = true) (h : (view source).1 ≠ (view target).1) :
    dotRelative source target = here ++ separator :: normalize target := by
  have hrooted := isRooted_normalize htarget
  simp only [dotRelative, relative_of_root_ne h]
  rw [if_neg]
  rintro (hhere | hup | hprefix | hprefix)
  · rw [hhere] at hrooted
    cases hrooted
  · rw [hup] at hrooted
    cases hrooted
  · rcases List.isPrefixOf_iff_prefix.1 hprefix with ⟨rest, hrest⟩
    rw [← hrest] at hrooted
    cases hrooted
  · rcases List.isPrefixOf_iff_prefix.1 hprefix with ⟨rest, hrest⟩
    rw [← hrest] at hrooted
    cases hrooted

end Path
end BuildHost
