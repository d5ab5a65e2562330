import BuildHost.Proofs.Path.Containment

/-!
# The ending of a path

The ending of a source file is taken off the last segment of a path, whatever
stands before it (`withoutExtension_append_separator`).  What is left is in
normal form when the last segment is still a plain name
(`view_withoutExtension`).
-/

namespace BuildHost
namespace Path

/-! ## Endings -/

theorem separator_notMem_of_mem_sourceExtensions :
    ∀ ending ∈ sourceExtensions, separator ∉ ending := by
  decide

theorem isSuffixOf?_append_separator {ending : Path} (h : separator ∉ ending)
    (front q : Path) :
    ending.isSuffixOf? (front ++ separator :: q)
      = (ending.isSuffixOf? q).map (front ++ separator :: ·) := by
  refine Option.ext fun stem => ?_
  rw [Option.map_eq_some_iff, List.isSuffixOf?_eq_some_iff_append_eq]
  constructor
  · intro heq
    rcases List.append_eq_append_iff.1 heq with
      ⟨middle, hfront, hending⟩ | ⟨middle, hstem, hq⟩
    · refine absurd ?_ h
      rw [hending]
      exact List.mem_append_right _ List.mem_cons_self
    · cases middle with
      | nil =>
          refine absurd ?_ h
          rw [List.nil_append] at hq
          rw [← hq]
          exact List.mem_cons_self
      | cons c rest =>
          rw [List.cons_append] at hq
          rcases List.cons.inj hq with ⟨rfl, rfl⟩
          exact ⟨rest, List.isSuffixOf?_eq_some_iff_append_eq.2 rfl, hstem.symm⟩
  · rintro ⟨rest, hrest, rfl⟩
    rw [List.isSuffixOf?_eq_some_iff_append_eq] at hrest
    rw [← hrest]
    simp

theorem isSuffixOf?_append_of_length_le {ending q : Path}
    (h : ending.length ≤ q.length) (front : Path) :
    ending.isSuffixOf? (front ++ q)
      = (ending.isSuffixOf? q).map (front ++ ·) := by
  refine Option.ext fun stem => ?_
  rw [Option.map_eq_some_iff, List.isSuffixOf?_eq_some_iff_append_eq]
  constructor
  · intro heq
    have hsuffix : ending <:+ q := by
      have hending : ending <:+ front ++ q := ⟨stem, heq⟩
      exact List.suffix_of_suffix_length_le hending
        (List.suffix_append front q) h
    rcases hsuffix with ⟨rest, rfl⟩
    rw [← List.append_assoc] at heq
    exact ⟨rest, List.isSuffixOf?_eq_some_iff_append_eq.2 rfl,
      (List.append_cancel_right heq).symm⟩
  · rintro ⟨rest, hrest, rfl⟩
    rw [List.isSuffixOf?_eq_some_iff_append_eq] at hrest
    rw [List.append_assoc, hrest]

/-- An ending is taken off the end of a text that decides about all endings. -/
theorem withoutExtension_append {front q : Path}
    (h : ∀ ending ∈ sourceExtensions,
      ending.isSuffixOf? (front ++ q)
        = (ending.isSuffixOf? q).map (front ++ ·)) :
    withoutExtension (front ++ q) = front ++ withoutExtension q := by
  have hfind : ∀ endings ⊆ sourceExtensions,
      (endings.findSome? fun ending => ending.isSuffixOf? (front ++ q))
        = (endings.findSome? fun ending => ending.isSuffixOf? q).map
          (front ++ ·) := by
    intro endings hendings
    induction endings with
    | nil => rfl
    | cons ending rest ih =>
        rw [List.findSome?_cons, List.findSome?_cons,
          h ending (hendings List.mem_cons_self),
          ih (List.subset_of_cons_subset hendings)]
        cases ending.isSuffixOf? q with
        | none => rfl
        | some stem => rfl
  rw [withoutExtension, withoutExtension, hfind _ (List.Subset.refl _)]
  cases sourceExtensions.findSome? fun ending => ending.isSuffixOf? q with
  | none => rfl
  | some stem => rfl

theorem withoutExtension_append_separator (front q : Path) :
    withoutExtension (front ++ separator :: q)
      = front ++ separator :: withoutExtension q := by
  have happend : withoutExtension ((front ++ [separator]) ++ q)
      = (front ++ [separator]) ++ withoutExtension q := by
    apply withoutExtension_append
    intro ending hending
    rw [List.append_assoc, List.singleton_append,
      isSuffixOf?_append_separator
        (separator_notMem_of_mem_sourceExtensions ending hending)]
    simp
  rw [List.append_assoc, List.append_assoc] at happend
  exact happend

theorem exists_withSeparator_eq (dir : Path) :
    ∃ front, withSeparator dir = front ++ [separator] := by
  rw [withSeparator]
  split
  next hlast => exact List.getLast?_eq_some_iff.1 hlast
  next => exact ⟨dir, rfl⟩

/-- The last segment of a path below a directory stands behind a separator. -/
theorem exists_withSeparator_intercalate_eq (dir : Path) (front : List Path) :
    ∃ start, ∀ last,
      withSeparator dir ++ [separator].intercalate (front ++ [last])
        = start ++ separator :: last := by
  rcases exists_withSeparator_eq dir with ⟨before, hbefore⟩
  rw [hbefore]
  by_cases hne : front = []
  · subst hne
    exact ⟨before, fun last => by simp⟩
  · refine ⟨before ++ separator :: [separator].intercalate front,
      fun last => ?_⟩
    rw [intercalate_append hne (by simp)]
    simp

theorem withoutExtension_withSeparator (dir q : Path) :
    withoutExtension (withSeparator dir ++ q)
      = withSeparator dir ++ withoutExtension q := by
  rcases exists_withSeparator_eq dir with ⟨front, hfront⟩
  rw [hfront, List.append_assoc, List.singleton_append,
    withoutExtension_append_separator, List.append_assoc, List.singleton_append]

theorem withoutExtension_intercalate (front : List Path) (last : Path) :
    withoutExtension ([separator].intercalate (front ++ [last]))
      = [separator].intercalate (front ++ [withoutExtension last]) := by
  by_cases hne : front = []
  · subst hne
    simp
  · rw [intercalate_append hne (by simp), intercalate_append hne (by simp),
      List.intercalate_singleton, List.intercalate_singleton,
      withoutExtension_append_separator]

theorem exists_withoutExtension_append (p : Path) :
    withoutExtension p = p ∨ ∃ ending ∈ sourceExtensions,
      withoutExtension p ++ ending = p := by
  rw [withoutExtension]
  cases hfind : sourceExtensions.findSome? fun ending =>
    ending.isSuffixOf? p with
  | none => exact .inl rfl
  | some stem =>
      rcases List.exists_of_findSome?_eq_some hfind with ⟨ending, hmem, hstem⟩
      exact .inr ⟨ending, hmem, List.isSuffixOf?_eq_some_iff_append_eq.1 hstem⟩

theorem isPrefix_withoutExtension (p : Path) : withoutExtension p <+: p := by
  rcases exists_withoutExtension_append p with heq | ⟨ending, -, heq⟩
  · exact ⟨[], by rw [heq, List.append_nil]⟩
  · exact ⟨ending, heq⟩

theorem isRooted_of_normalizeSeparators_eq {p q : Path} {root : Root}
    (hreadable : root.IsReadable) (hr : root.isRooted = true)
    (h : normalizeSeparators p = root.text ++ q) :
    isRooted p = true := by
  rw [isRooted, h, splitRoot_text hreadable hr]
  exact hr

theorem Root.getLast?_text {root : Root} (hr : root.isRooted = true) :
    root.text.getLast? = some separator := by
  cases root with
  | none => cases hr
  | slash => rfl
  | drive letter => rfl

theorem Root.exists_text_eq {root : Root} (hreadable : root.IsReadable)
    (hr : root.isRooted = true) :
    ∃ front, separator ∉ front ∧ root.text = front ++ [separator] := by
  cases root with
  | none => cases hr
  | slash => exact ⟨[], by simp, rfl⟩
  | drive letter =>
      exact ⟨[letter, ':'],
        (Root.isPlain_segments hreadable _ List.mem_cons_self).separator_notMem,
        rfl⟩

/-- Whether a path is rooted does not show in its ending. -/
theorem isRooted_of_isRooted_append {p ending : Path}
    (hending : separator ∉ normalizeSeparators ending)
    (h : isRooted (p ++ ending) = true) :
    isRooted p = true := by
  have hreadable := isReadable_splitRoot (normalizeSeparators (p ++ ending))
  have hspelled := splitRoot_text_append (normalizeSeparators (p ++ ending))
  rw [normalizeSeparators_append, eq_comm] at hspelled
  rw [isRooted] at h
  rw [normalizeSeparators_append] at h hreadable
  rcases List.append_eq_append_iff.1 hspelled with
    ⟨middle, hroot, hrest⟩ | ⟨middle, hstem, -⟩
  · cases middle with
    | nil =>
        rw [List.append_nil] at hroot
        exact isRooted_of_normalizeSeparators_eq (q := []) hreadable h
          (by simp [hroot])
    | cons c others =>
        -- the separator that ends the root would stand in the ending
        have hlast := Root.getLast?_text h
        rw [hroot, List.getLast?_append] at hlast
        have hmem : separator ∈ c :: others := by
          apply List.mem_of_getLast?
          simpa [List.getLast?_cons] using hlast
        refine absurd ?_ hending
        rw [hrest]
        exact List.mem_append_left _ hmem
  · exact isRooted_of_normalizeSeparators_eq hreadable h hstem

theorem isRooted_withoutExtension {p : Path} (h : isRooted p = true) :
    isRooted (withoutExtension p) = true := by
  have hnone : ∀ ending ∈ sourceExtensions,
      separator ∉ normalizeSeparators ending := by
    decide
  rcases exists_withoutExtension_append p with heq | ⟨ending, hending, heq⟩
  · rw [heq]
    exact h
  · apply isRooted_of_isRooted_append (hnone ending hending)
    rw [heq]
    exact h

theorem view_withoutExtension_fst {p : Path} (h : isRooted p = true) :
    (view p.withoutExtension).1 = (view p).1 := by
  have hstem := isRooted_withoutExtension h
  rw [view_of_isRooted hstem, view_of_isRooted h]
  rcases exists_withoutExtension_append p with heq | ⟨ending, -, heq⟩
  · rw [heq]
  · have hspelled := congrArg normalizeSeparators heq
    rw [normalizeSeparators_append] at hspelled
    rw [← hspelled, splitRoot_append hstem]

theorem isPlace_root_of_view {p : Path} {root : Root} {segments : List Path}
    (hr : isRooted p = true) (hview : view p = (root, segments)) :
    IsPlace root [] := by
  have hplace := isPlace_view hr
  rw [hview] at hplace
  exact hplace.withSegments (by simp)

/-- A path in normal form is spelled as its root and its segments behind it. -/
theorem eq_root_append {p : Path} {root : Root} {segments : List Path}
    (hp : IsNormal p) (hr : isRooted p = true)
    (hview : view p = (root, segments)) (hne : segments ≠ []) :
    p = withSeparator (render root []) ++ [separator].intercalate segments := by
  rw [(isPlace_root_of_view hr hview).withSeparator_render hne, List.nil_append,
    ← hp.render_view hr, hview]

/-- A file name that leaves a plain name without its ending leaves a path in
normal form. -/
theorem view_withoutExtension {p : Path} {root : Root} {segments : List Path}
    {last : Path} (hp : IsNormal p) (hr : isRooted p = true)
    (hview : view p = (root, segments ++ [last]))
    (hlast : IsPlain last.withoutExtension) :
    IsNormal p.withoutExtension ∧
      view p.withoutExtension
        = (root, segments ++ [last.withoutExtension]) := by
  have hplace := isPlace_view hr
  rw [hview] at hplace
  have hroot := isPlace_root_of_view hr hview
  have hstem : IsPlace root (segments ++ [last.withoutExtension]) :=
    hplace.of_append.concat hlast
  have htext : p.withoutExtension
      = render root (segments ++ [last.withoutExtension]) := by
    rw [eq_root_append hp hr hview (by simp), withoutExtension_withSeparator,
      withoutExtension_intercalate, hroot.withSeparator_render (by simp),
      List.nil_append]
  rw [htext]
  exact ⟨hstem.isNormal_render, hstem.view_render⟩

/-- The text after the last separator. -/
def lastSegment (p : Path) : Path :=
  (p.splitOn separator).getLastD []

theorem lastSegment_append_separator (front : Path) {q : Path}
    (h : separator ∉ q) :
    lastSegment (front ++ separator :: q) = q := by
  rw [lastSegment, List.splitOn_append_cons_self, List.splitOn_eq_singleton h,
    List.getLastD_concat]

theorem isSuffixOf_append_separator {ending : Path} (h : separator ∉ ending)
    (front q : Path) :
    ending.isSuffixOf (front ++ separator :: q) = ending.isSuffixOf q := by
  rw [← List.isSome_isSuffixOf?_eq_isSuffixOf,
    ← List.isSome_isSuffixOf?_eq_isSuffixOf, isSuffixOf?_append_separator h,
    Option.isSome_map]

theorem isSuffixOf_withSeparator_intercalate {ending : Path}
    (h : separator ∉ ending) (dir : Path) (front : List Path) (last : Path) :
    ending.isSuffixOf
      (withSeparator dir ++ [separator].intercalate (front ++ [last]))
      = ending.isSuffixOf last := by
  rcases exists_withSeparator_intercalate_eq dir front with ⟨start, hstart⟩
  rw [hstart, isSuffixOf_append_separator h]

/-- How a path ends is told by its last segment. -/
theorem isSuffixOf_of_view {p ending : Path} {root : Root} {front : List Path}
    {last : Path} (hp : IsNormal p) (hr : isRooted p = true)
    (hview : view p = (root, front ++ [last])) (h : separator ∉ ending) :
    ending.isSuffixOf p = ending.isSuffixOf last := by
  rw [eq_root_append hp hr hview (by simp),
    isSuffixOf_withSeparator_intercalate h]

/-- A path that ends like a source file is its stem and an ending that can be
compared with any other ending of it. -/
theorem exists_ending_of_isSuffix {p known ending : Path}
    (hmem : known ∈ sourceExtensions) (hknown : known <:+ p)
    (hending : ending <:+ p) :
    ∃ taken ∈ sourceExtensions, p.withoutExtension ++ taken = p ∧
      (taken <:+ ending ∨ ending <:+ taken) := by
  have htaken : ∃ taken ∈ sourceExtensions, p.withoutExtension ++ taken
      = p := by
    rw [withoutExtension]
    cases hfind : sourceExtensions.findSome? fun ending =>
      ending.isSuffixOf? p with
    | none =>
        rw [List.findSome?_eq_none_iff] at hfind
        rcases hknown with ⟨stem, hstem⟩
        have hsome : known.isSuffixOf? p = some stem :=
          List.isSuffixOf?_eq_some_iff_append_eq.2 hstem
        rw [hfind known hmem] at hsome
        cases hsome
    | some stem =>
        rcases List.exists_of_findSome?_eq_some hfind with
          ⟨taken, htaken, hstem⟩
        exact ⟨taken, htaken, List.isSuffixOf?_eq_some_iff_append_eq.1 hstem⟩
  rcases htaken with ⟨taken, htaken, heq⟩
  refine ⟨taken, htaken, heq, ?_⟩
  exact List.suffix_or_suffix_of_suffix ⟨_, heq⟩ hending

theorem withoutExtension_eq_self {p : Path}
    (h : ∀ ending ∈ sourceExtensions, ending.isSuffixOf p = false) :
    p.withoutExtension = p := by
  rcases exists_withoutExtension_append p with heq | ⟨ending, hmem, heq⟩
  · exact heq
  · have hsuffix : ending.isSuffixOf p = true := by
      rw [List.isSuffixOf_iff_suffix]
      exact ⟨_, heq⟩
    rw [h ending hmem] at hsuffix
    cases hsuffix

theorem withoutExtension_intercalate_self {segments : List Path}
    (h : ∀ s ∈ segments.getLast?, s.withoutExtension = s) :
    withoutExtension ([separator].intercalate segments)
      = [separator].intercalate segments := by
  rcases List.eq_nil_or_concat segments with rfl | ⟨front, last, rfl⟩
  · rfl
  · rw [List.concat_eq_append] at h ⊢
    rw [withoutExtension_intercalate, h last (by simp)]

/-- A specifier has no ending to leave off when the last segment of its target
has none. -/
theorem withoutExtension_dotRelative {source target : Path}
    (hroot : (view source).1 = (view target).1)
    (h : ∀ s ∈ (view target).2.getLast?, s.withoutExtension = s) :
    (dotRelative source target).withoutExtension
      = dotRelative source target := by
  have hrelative : (relative source target).withoutExtension
      = relative source target := by
    rw [relative_of_root_eq hroot]
    apply withoutExtension_intercalate_self
    intro s hs
    rw [List.getLast?_append] at hs
    cases hlast : ((view target).2.drop
        (sharedLength (view source).2 (view target).2)).getLast? with
    | none =>
        rw [hlast, Option.none_or] at hs
        rw [List.eq_of_mem_replicate (List.mem_of_getLast? hs)]
        decide
    | some last =>
        rw [hlast, Option.some_or] at hs
        rw [List.getLast?_drop] at hlast
        split at hlast
        · exact absurd hlast (by simp)
        · obtain rfl := Option.some.inj hs
          exact h _ hlast
  simp only [dotRelative]
  split
  · exact hrelative
  · rw [withoutExtension_append_separator, hrelative]

theorem withoutExtension_dotRelative_module {source module : Path}
    (hmodule : IsNormal module) (hrooted : isRooted module = true)
    (hroot : (view source).1 = (view module).1)
    (hends : ∀ ending ∈ sourceExtensions, ending.isSuffixOf module = false) :
    (dotRelative source module).withoutExtension
      = dotRelative source module := by
  apply withoutExtension_dotRelative hroot
  intro s hs
  rcases List.getLast?_eq_some_iff.1 hs with ⟨front, hfront⟩
  have hview : view module = ((view module).1, front ++ [s]) := by
    rw [← hfront]
  apply withoutExtension_eq_self
  intro ending hmem
  rw [← isSuffixOf_of_view hmodule hrooted hview
    (separator_notMem_of_mem_sourceExtensions ending hmem)]
  exact hends ending hmem

/-! ## Paths without their ending -/

theorem withoutExtension_below {p dir : Path} {rest : List Path}
    (hp : IsNormal p) (hr : isRooted p = true) (hdir : IsNormal dir)
    (hdirr : isRooted dir = true) (hne : rest ≠ [])
    (hrest : view p = ((view dir).1, (view dir).2 ++ rest)) :
    p.withoutExtension
      = withSeparator dir ++ withoutExtension ([separator].intercalate
        rest) := by
  rw [eq_withSeparator_append hp hr hdir hdirr hne hrest,
    withoutExtension_withSeparator]

/-- What is left of a file name is a plain name when it is not empty and not
made of dots alone. -/
theorem IsPlain.withoutExtension {last : Path} (h : IsPlain last)
    (hdots : last.withoutExtension ∉ [[], here, up]) :
    IsPlain last.withoutExtension := by
  have hsub := (isPrefix_withoutExtension last).subset
  refine ⟨⟨?_, ?_, ?_, fun hmem => h.separator_notMem (hsub hmem)⟩,
    fun hmem => h.backslash_notMem (hsub hmem)⟩
  · intro heq
    exact hdots (by simp [heq])
  · intro heq
    exact hdots (by simp [heq])
  · intro heq
    exact hdots (by simp [heq])

theorem isPlain_of_lastSegment {p dir : Path} {front : List Path} {last : Path}
    (hp : IsNormal p) (hr : isRooted p = true) (hdir : IsNormal dir)
    (hdirr : isRooted dir = true)
    (hview : view p = ((view dir).1, (view dir).2 ++ (front ++ [last])))
    (h : lastSegment p.withoutExtension ∉ [[], here, up]) :
    IsPlain last.withoutExtension := by
  have hplain : IsPlain last := isPlain_of_view hr hview last (by simp)
  have hseparator : separator ∉ last.withoutExtension :=
    fun hmem =>
      hplain.separator_notMem ((isPrefix_withoutExtension last).subset hmem)
  rcases exists_withSeparator_intercalate_eq dir front with ⟨start, hstart⟩
  rw [withoutExtension_below hp hr hdir hdirr (by simp) hview,
    withoutExtension_intercalate, hstart,
    lastSegment_append_separator start hseparator] at h
  exact hplain.withoutExtension h

/-- A file name that leaves more than dots leaves a path in normal form. -/
theorem view_withoutExtension_below {p dir : Path} {front : List Path}
    {last : Path} (hp : IsNormal p) (hr : isRooted p = true)
    (hdir : IsNormal dir) (hdirr : isRooted dir = true)
    (hview : view p = ((view dir).1, (view dir).2 ++ (front ++ [last])))
    (h : lastSegment p.withoutExtension ∉ [[], here, up]) :
    IsNormal p.withoutExtension ∧
      view p.withoutExtension
        = ((view dir).1,
          (view dir).2 ++ (front ++ [last.withoutExtension])) := by
  have hplain := isPlain_of_lastSegment hp hr hdir hdirr hview h
  rw [← List.append_assoc] at hview ⊢
  exact view_withoutExtension hp hr hview hplain

/-- The place of a module read from a directory: the walk along its segments,
the last of which may be anything that is left of a file name. -/
theorem view_join_withoutExtension {base : Path} {front : List Path}
    {last : Path} (hbase : isRooted base = true)
    (hplain : ∀ s ∈ front ++ [last], IsPlain s) :
    view
      (join base [withoutExtension ([separator].intercalate (front ++ [last]))])
      = ((view base).1,
        collapse (view base).1
          ((view base).2 ++ front ++ [last.withoutExtension])) := by
  have hlast := hplain last (by simp)
  have hsub := (isPrefix_withoutExtension last).subset
  have hseparator : ∀ s ∈ front ++ [last.withoutExtension], separator ∉ s := by
    intro s hs
    rcases List.mem_append.1 hs with hs | hs
    · exact (hplain s (List.mem_append_left _ hs)).separator_notMem
    · rw [List.mem_singleton.1 hs]
      exact fun hmem => hlast.separator_notMem (hsub hmem)
  have hback : ∀ s ∈ front ++ [last.withoutExtension], '\\' ∉ s := by
    intro s hs
    rcases List.mem_append.1 hs with hs | hs
    · exact (hplain s (List.mem_append_left _ hs)).backslash_notMem
    · rw [List.mem_singleton.1 hs]
      exact fun hmem => hlast.backslash_notMem (hsub hmem)
  rw [withoutExtension_intercalate, view_join hbase,
    normalizeSeparators_eq_self (backslash_notMem_intercalate hback),
    splitOn_intercalate_append hseparator, List.append_assoc]

/-- A module is at two different places when it is read from two directories, of
which one lies at least two segments below the other. -/
theorem join_withoutExtension_ne {dir below : Path} {more rest : List Path}
    (hdir : isRooted dir = true) (hbelow : isRooted below = true)
    (hmore : view below = ((view dir).1, (view dir).2 ++ more))
    (hlength : 2 ≤ more.length) (hne : rest ≠ [])
    (hplain : ∀ s ∈ rest, IsPlain s) :
    join below [withoutExtension ([separator].intercalate rest)]
      ≠ join dir [withoutExtension ([separator].intercalate rest)] := by
  rcases (List.eq_nil_or_concat rest).resolve_left hne with ⟨front, last, rfl⟩
  rw [List.concat_eq_append] at hplain ⊢
  intro heq
  have hfront : ∀ s ∈ front, IsPlain s :=
    fun s hs => hplain s (List.mem_append_left _ hs)
  have hreach : ∀ {base}, isRooted base = true →
      ∀ s ∈ (view base).2 ++ front, IsPlain s := by
    intro base hbase s hs
    rcases List.mem_append.1 hs with hs | hs
    · exact (isPlace_view hbase).isPlain s hs
    · exact hfront s hs
  have hsegments := congrArg (fun p => (view p).2.length) heq
  simp only [view_join_withoutExtension hbelow hplain,
    view_join_withoutExtension hdir hplain,
    length_collapse_concat (isRooted_view hbelow) (hreach hbelow),
    length_collapse_concat (isRooted_view hdir) (hreach hdir)] at hsegments
  rw [hmore] at hsegments
  simp only [List.length_append] at hsegments
  split at hsegments
  · omega
  · split at hsegments
    · omega
    · omega

end Path
end BuildHost
