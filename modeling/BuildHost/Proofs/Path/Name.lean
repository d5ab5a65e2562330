import BuildHost.Proofs.Path.Ending

/-!
# The name at the end of a path

The last segment of a rooted path in normal form may be any plain name
(`exists_eq_append_last`), so that the path stays in normal form when an ending
is added to it (`isNormal_append_ending`) or replaced by another
(`isNormal_replace_ending`).  A plain name that is joined to a path stands at
its end (`isSuffix_join`).
-/

namespace BuildHost
namespace Path

/-! ## Endings that are added -/

theorem isPlain_append {name ending : Path} (hseparator : separator ∉ name)
    (hback : '\\' ∉ name) (h : IsPlain ending) (hlength : 2 < ending.length) :
    IsPlain (name ++ ending) := by
  have hlong : ∀ short : Path, short.length ≤ 2 → name ++ ending ≠ short := by
    intro short hshort heq
    have htotal := congrArg List.length heq
    rw [List.length_append] at htotal
    omega
  constructor
  · constructor
    · exact hlong [] (by decide)
    · exact hlong here (by decide)
    · exact hlong up (by decide)
    · intro hmem
      cases List.mem_append.1 hmem with
      | inl hname => exact hseparator hname
      | inr hending => exact h.separator_notMem hending
  · intro hmem
    cases List.mem_append.1 hmem with
    | inl hname => exact hback hname
    | inr hending => exact h.backslash_notMem hending

theorem exists_eq_append_last {p : Path} {root : Root} {front : List Path}
    {last : Path} (hp : IsNormal p) (hr : isRooted p = true)
    (hview : view p = (root, front ++ [last])) :
    IsPlain last ∧ ∃ start, p = start ++ separator :: last ∧
      ∀ name, IsPlain name → IsNormal (start ++ separator :: name) := by
  have hpath := isPlace_view hr
  rw [hview] at hpath
  refine ⟨hpath.isPlain last (by simp), ?_⟩
  rcases exists_withSeparator_intercalate_eq (render root []) front with
    ⟨start, hstart⟩
  refine ⟨start, ?_, ?_⟩
  · rw [← hstart]
    exact eq_root_append hp hr hview (by simp)
  · intro name hname
    have hplace : IsPlace root (front ++ [name]) := hpath.of_append.concat hname
    have hrender : withSeparator (render root [])
        ++ [separator].intercalate (front ++ [name])
        = render root ([] ++ (front ++ [name])) :=
      (isPlace_root_of_view hr hview).withSeparator_render (by simp)
    rw [← hstart, hrender]
    exact hplace.isNormal_render

theorem isNormal_append_ending {p ending : Path} (hp : IsNormal p)
    (hr : isRooted p = true) (h : IsPlain ending)
    (hlength : 2 < ending.length) : IsNormal (p ++ ending) := by
  cases hview : view p with
  | mk root segments =>
      cases List.eq_nil_or_concat segments with
      | inl hnil =>
          subst hnil
          have hroot := isPlace_root_of_view hr hview
          have hplace : IsPlace root [ending] := hroot.concat h
          have htext : p ++ ending = render root [ending] := by
            rw [← hp.render_view hr, hview, render_of_isRooted hroot.isRooted,
              render_of_isRooted hroot.isRooted, List.intercalate_nil,
              List.append_nil, List.intercalate_singleton]
          rw [htext]
          exact hplace.isNormal_render
      | inr hconcat =>
          rcases hconcat with ⟨front, last, rfl⟩
          rw [List.concat_eq_append] at hview
          rcases exists_eq_append_last hp hr hview with
            ⟨hlast, start, htext, hnormal⟩
          rw [htext, List.append_assoc, List.cons_append]
          exact hnormal _
            (isPlain_append hlast.separator_notMem hlast.backslash_notMem h
              hlength)

theorem isNormal_replace_ending {stem ending other : Path}
    (hp : IsNormal (stem ++ ending)) (hr : isRooted (stem ++ ending) = true)
    (hne : ending ≠ []) (hending : separator ∉ ending) (hother : IsPlain other)
    (hlength : 2 < other.length) : IsNormal (stem ++ other) := by
  have hsuffix : ending.isSuffixOf? (stem ++ ending) = some stem :=
    List.isSuffixOf?_eq_some_iff_append_eq.2 rfl
  cases hview : view (stem ++ ending) with
  | mk root segments =>
      cases List.eq_nil_or_concat segments with
      | inl hnil =>
          subst hnil
          have hroot := isPlace_root_of_view hr hview
          have htext : stem ++ ending = root.text := by
            rw [← hp.render_view hr, hview, render_of_isRooted hroot.isRooted,
              List.intercalate_nil, List.append_nil]
          have hlast : (stem ++ ending).getLast? = some separator := by
            rw [htext]
            exact Root.getLast?_text hroot.isRooted
          rw [List.getLast?_append_of_ne_nil _ hne] at hlast
          exact absurd (List.mem_of_getLast? hlast) hending
      | inr hconcat =>
          rcases hconcat with ⟨front, last, rfl⟩
          rw [List.concat_eq_append] at hview
          rcases exists_eq_append_last hp hr hview with
            ⟨hlast, start, htext, hnormal⟩
          rw [htext, isSuffixOf?_append_separator hending,
            Option.map_eq_some_iff] at hsuffix
          rcases hsuffix with ⟨name, hname, hstem⟩
          rw [List.isSuffixOf?_eq_some_iff_append_eq] at hname
          subst hname
          rw [← hstem, List.append_assoc, List.cons_append]
          apply hnormal
          apply isPlain_append
          · intro hmem
            exact hlast.separator_notMem (List.mem_append_left _ hmem)
          · intro hmem
            exact hlast.backslash_notMem (List.mem_append_left _ hmem)
          · exact hother
          · exact hlength

/-! ## Names that are joined -/

theorem exists_splitOn_eq_append (p : Path) :
    ∃ before, p.splitOn separator
      = before ++ (splitRoot p).2.splitOn separator := by
  have htext := splitRoot_text_append p
  cases hroot : (splitRoot p).1.isRooted with
  | false =>
      rw [Root.eq_none hroot] at htext
      refine ⟨[], ?_⟩
      rw [List.nil_append]
      exact congrArg (List.splitOn separator) htext.symm
  | true =>
      rcases Root.exists_text_eq (isReadable_splitRoot p) hroot with
        ⟨front, -, hfront⟩
      refine ⟨front.splitOn separator, ?_⟩
      rw [hfront, List.append_assoc, List.singleton_append] at htext
      rw [← List.splitOn_append_cons_self, htext]

theorem collapse_concat_of_isPlain {root : Root} (before : List Path)
    {name : Path} (h : IsPlain name) :
    collapse root (before ++ [name]) = collapse root before ++ [name] := by
  rw [collapse, List.foldl_append, List.foldl_cons, List.foldl_nil,
    step_of_isEntered h.toIsEntered, List.reverse_cons]
  rfl

theorem splitOn_normalizeSeparators_append (front : Path) {name : Path}
    (h : IsPlain name) :
    (normalizeSeparators (front ++ separator :: name)).splitOn separator
      = (normalizeSeparators front).splitOn separator ++ [name] := by
  rw [normalizeSeparators_append, normalizeSeparators_separator_cons,
    List.splitOn_append_cons_self,
    normalizeSeparators_eq_self h.backslash_notMem,
    List.splitOn_eq_singleton h.separator_notMem]

theorem exists_splitOn_append_eq (base : Path) {name : Path}
    (h : IsPlain name) :
    ∃ before, (normalizeSeparators (base.append name)).splitOn separator
      = before ++ [name] := by
  rw [append, if_neg h.ne_nil]
  split
  next hend =>
    cases hend with
    | inl hnil =>
        refine ⟨[], ?_⟩
        rw [hnil, List.nil_append, List.nil_append,
          normalizeSeparators_eq_self h.backslash_notMem,
          List.splitOn_eq_singleton h.separator_notMem]
    | inr hlast =>
        rcases List.getLast?_eq_some_iff.1 hlast with ⟨front, hfront⟩
        rw [hfront, List.append_assoc, List.singleton_append]
        exact ⟨_, splitOn_normalizeSeparators_append front h⟩
  next => exact ⟨_, splitOn_normalizeSeparators_append base h⟩

theorem isSuffix_join (base : Path) {name : Path} (h : IsPlain name) :
    name <:+ join base [name] := by
  have hbehind : ∃ front,
      (splitRoot (normalizeSeparators (base.append name))).2.splitOn separator
        = front ++ [name] := by
    rcases exists_splitOn_append_eq base h with ⟨before, hspelled⟩
    rcases exists_splitOn_eq_append (normalizeSeparators (base.append name))
      with ⟨outer, houter⟩
    rw [hspelled] at houter
    rcases List.eq_nil_or_concat
      ((splitRoot (normalizeSeparators (base.append name))).2.splitOn separator)
        with hnil | hconcat
    · exact absurd hnil (List.splitOn_ne_nil _ _)
    · rcases hconcat with ⟨front, last, hconcat⟩
      rw [List.concat_eq_append] at hconcat
      refine ⟨front, ?_⟩
      rw [hconcat, ← List.append_assoc] at houter
      rw [hconcat, (List.append_inj' houter rfl).2]
  rcases hbehind with ⟨front, hfront⟩
  rw [join, List.foldl_cons, List.foldl_nil, normalize]
  simp only [hfront, collapse_concat_of_isPlain front h]
  rcases exists_intercalate_eq_append
    (collapse (splitRoot (normalizeSeparators (base.append name))).1 front) name
      with ⟨start, hstart⟩
  rw [render, if_neg (by simp), hstart, ← List.append_assoc]
  exact List.suffix_append _ name

theorem join_append_ending {dir name ending : Path} (hdir : IsNormal dir)
    (hr : isRooted dir = true) (hname : IsPlain name)
    (hending : IsPlain (name ++ ending)) :
    join dir [name] ++ ending = join dir [name ++ ending] := by
  have hjoin : ∀ name, IsPlain name →
      join dir [name] = withSeparator dir ++ name := by
    intro name hname
    have htext := eq_withSeparator_append (isNormal_join dir _)
      (isRooted_join hr _) hdir hr (List.cons_ne_nil name [])
      (view_join_of_isPlain hr hname)
    rw [List.intercalate_singleton] at htext
    exact htext
  rw [hjoin name hname, hjoin _ hending, List.append_assoc]

end Path
end BuildHost
