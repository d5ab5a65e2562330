import BuildHost.Proofs.Path.Join

/-!
# The way from one directory to another

A relative path climbs out of what the two directories do not share and then
enters what is left of its target (`relative_of_root_eq`).  Taken from its own
source it leads to its target, and taken from another directory it leaves as
many segments there (`view_join_relative`).
-/

namespace BuildHost
namespace Path

/-! ## Shared segments -/

theorem sharedLength_append (common as bs : List Path) :
    sharedLength (common ++ as) (common ++ bs)
      = common.length + sharedLength as bs := by
  induction common with
  | nil => simp
  | cons s rest ih =>
      rw [List.cons_append, List.cons_append, sharedLength, if_pos rfl, ih,
        List.length_cons]
      omega

theorem sharedLength_append_right (as bs : List Path) :
    sharedLength as (as ++ bs) = as.length := by
  have h := sharedLength_append as [] bs
  rw [List.append_nil] at h
  rw [h, sharedLength]
  · rfl
  · intro a as b bs hnil
    exact absurd hnil (by simp)

theorem sharedLength_le_left (as bs : List Path) :
    sharedLength as bs ≤ as.length := by
  induction as generalizing bs with
  | nil => simp [sharedLength]
  | cons a as ih =>
      cases bs with
      | nil => simp [sharedLength]
      | cons b bs =>
          rw [sharedLength]
          split
          · exact Nat.succ_le_succ (ih bs)
          · exact Nat.zero_le _

theorem take_sharedLength (as bs : List Path) :
    as.take (sharedLength as bs) = bs.take (sharedLength as bs) := by
  induction as generalizing bs with
  | nil => simp [sharedLength]
  | cons a as ih =>
      cases bs with
      | nil => simp [sharedLength]
      | cons b bs =>
          rw [sharedLength]
          split
          next heq => rw [List.take_succ_cons, List.take_succ_cons, heq, ih]
          next => simp

/-! ## Relative paths -/

theorem relative_of_root_ne {source target : Path}
    (h : (view source).1 ≠ (view target).1) :
    relative source target = normalize target := by
  have hne : normalize source ≠ normalize target := by
    intro heq
    rw [← view_normalize source, heq, view_normalize] at h
    exact h rfl
  simp only [relative, if_neg hne, if_pos h]

theorem relative_of_root_eq {source target : Path}
    (h : (view source).1 = (view target).1) :
    relative source target = [separator].intercalate
      (List.replicate
        ((view source).2.length - sharedLength (view source).2 (view target).2)
          up
        ++ (view target).2.drop (sharedLength (view source).2
          (view target).2)) := by
  by_cases heq : normalize source = normalize target
  · have hview : view source = view target := by
      rw [← view_normalize source, heq, view_normalize]
    have hshared := sharedLength_append_right (view target).2 []
    rw [List.append_nil] at hshared
    rw [hview, hshared, Nat.sub_self, List.drop_length, relative, if_pos heq]
    rfl
  · simp only [relative, if_neg heq, h, ne_eq, not_true_eq_false, if_false]

theorem relative_of_view {dir p : Path} {rest : List Path}
    (h : view p = ((view dir).1, (view dir).2 ++ rest)) :
    relative dir p = [separator].intercalate rest := by
  rw [relative_of_root_eq (by rw [h]), h]
  simp only [sharedLength_append_right, Nat.sub_self, List.replicate_zero,
    List.nil_append, List.drop_left]

/-- The segments that the text of a root is read as below another root. -/
def Root.segments : Root → List Path
  | .drive letter => [[letter, ':']]
  | _ => []

theorem Root.isPlain_segments {root : Root} (h : root.IsReadable) :
    ∀ s ∈ root.segments, IsPlain s := by
  cases root with
  | none => simp [Root.segments]
  | slash => simp [Root.segments]
  | drive letter =>
      intro s hs
      obtain rfl : s = [letter, ':'] := by
        simpa [Root.segments] using hs
      have hsep : '/' ≠ letter := (ne_separator_of_isAlpha h).symm
      have hback : '\\' ≠ letter := by
        rintro rfl
        exact absurd h (by simp [Root.IsReadable])
      exact ⟨⟨by simp, by simp [here], by simp [up], by simp [separator, hsep]⟩,
        by simp [hback]⟩

theorem collapse_splitOn_text {root other : Root} (h : other.IsReadable)
    (before : List Path) (q : Path) :
    collapse root (before ++ (other.text ++ q).splitOn separator)
      = collapse root (before ++ (other.segments ++ q.splitOn separator)) := by
  cases other with
  | none => rfl
  | slash =>
      have hq : Root.slash.text ++ q = [] ++ separator :: q := rfl
      rw [hq, List.splitOn_append_cons_self]
      exact collapse_append_nil_cons root before _
  | drive letter =>
      have hq : (Root.drive letter).text ++ q
          = [letter, ':'] ++ separator :: q := rfl
      have hsep : separator ∉ [letter, ':'] :=
        (Root.isPlain_segments h _ List.mem_cons_self).separator_notMem
      rw [hq, List.splitOn_append_cons_self, List.splitOn_eq_singleton hsep]
      rfl

/-- A rooted path that is joined to another is entered with the segments of its
root. -/
theorem view_join_normalize {base p : Path} (h : isRooted base = true)
    (hp : isRooted p = true) :
    view (join base [normalize p])
      = ((view base).1,
        (view base).2 ++ ((view p).1.segments ++ (view p).2)) := by
  have hplace := isPlace_view hp
  have hback := backslash_notMem_render hplace.isReadable hplace.isCollapsed
  have hplain : ∀ s ∈ (view base).2 ++ ((view p).1.segments ++ (view p).2),
      IsPlain s := by
    intro s hs
    rcases List.mem_append.1 hs with hs | hs
    · exact (isPlace_view h).isPlain s hs
    · rcases List.mem_append.1 hs with hs | hs
      · exact Root.isPlain_segments hplace.isReadable s hs
      · exact hplace.isPlain s hs
  rw [view_join h, ← render_view hp, normalizeSeparators_eq_self hback,
    render_of_isRooted hplace.isRooted, collapse_splitOn_text hplace.isReadable,
    ← List.append_assoc,
    splitOn_intercalate_append (separator_notMem_of_isPlain hplace.isPlain),
    List.append_assoc, collapse_of_isPlain hplain]

/-- A relative path does not tell what comes before the segments that its two
ends share. -/
theorem relative_eq_of_common {source target other goal : Path}
    {root base : Root} {common start leaving entering : List Path}
    (hsource : view source = (root, common ++ leaving))
    (htarget : view target = (root, common ++ entering))
    (hother : view other = (base, start ++ leaving))
    (hgoal : view goal = (base, start ++ entering)) :
    relative source target = relative other goal := by
  rw [relative_of_root_eq (by rw [hsource, htarget]),
    relative_of_root_eq (by rw [hother, hgoal]), hsource, htarget,
    hother, hgoal]
  simp only [sharedLength_append, List.length_append, Nat.add_sub_add_left,
    List.drop_length_add_append]

/-! ## Following a relative path -/

/-- What the way from `source` to `target` leads to when it is taken from
`start`. -/
def followed (start source target : Path) : Root × List Path :=
  if (view source).1 = (view target).1 then
    let shared := sharedLength (view source).2 (view target).2
    let climbs := (view source).2.length - shared
    ((view start).1,
      (view start).2.take ((view start).2.length - climbs)
        ++ (view target).2.drop shared)
  else ((view start).1,
    (view start).2 ++ ((view target).1.segments ++ (view target).2))

theorem view_join_relative {start target : Path} (source : Path)
    (hstart : isRooted start = true) (htarget : isRooted target = true) :
    view (join start [relative source target])
      = followed start source target := by
  rw [followed]
  split
  next hroot =>
    have hafter :
        ∀ s ∈ (view target).2.drop (sharedLength (view source).2
          (view target).2),
        IsPlain s :=
      fun s hs => (isPlace_view htarget).isPlain s (List.mem_of_mem_drop hs)
    rw [relative_of_root_eq hroot, view_join_climbs hstart _ hafter]
  next hroot =>
    rw [relative_of_root_ne hroot, view_join_normalize hstart htarget]

/-- The same way leads from two directories to places that have a common end,
when its source and its target share what is left of the two directories. -/
theorem followed_eq_of_common {start source target : Path} {root other : Root}
    {before common leaving entering : List Path}
    (hstart : view start = (other, before ++ leaving))
    (hsource : view source = (root, common ++ leaving))
    (htarget : view target = (root, common ++ entering)) :
    followed start source target = (other, before ++ entering) := by
  rw [followed, hstart, hsource, htarget, if_pos rfl]
  have hle := sharedLength_le_left leaving entering
  have hclimbs : (before ++ leaving).length
      - ((common ++ leaving).length
        - (common.length + sharedLength leaving entering))
      = before.length + sharedLength leaving entering := by
    rw [List.length_append, List.length_append]
    omega
  simp only [sharedLength_append, hclimbs, List.take_length_add_append,
    List.drop_length_add_append, List.append_assoc]
  rw [take_sharedLength, List.take_append_drop]

theorem followed_self {source target : Path}
    (h : (view source).1 = (view target).1) :
    followed source source target = view target := by
  have hsource : view source = ((view source).1, [] ++ (view source).2) := rfl
  have htarget : view target = ((view source).1, [] ++ (view target).2) := by
    rw [h]
    rfl
  rw [followed_eq_of_common hsource hsource htarget]
  exact htarget.symm

/-! ## Specifiers that start with a dot -/

/-- Spelled so that it is never taken for the name of a package. -/
def IsDotted (s : Path) : Prop :=
  here ++ [separator] <+: s ∨ up ++ [separator] <+: s ∨ s = up

theorem eq_singleton_of_intercalate_eq {segments : List Path} {s : Path}
    (h : ∀ t ∈ segments, separator ∉ t) (hne : s ≠ []) (hs : separator ∉ s)
    (heq : [separator].intercalate segments = s) : segments = [s] := by
  have hsegments : segments ≠ [] := by
    rintro rfl
    exact hne heq.symm
  rw [← List.splitOn_intercalate separator h hsegments, heq,
    List.splitOn_eq_singleton hs]

theorem relative_ne_here (source : Path) {target : Path}
    (h : isRooted target = true) :
    relative source target ≠ here := by
  intro heq
  by_cases hroot : (view source).1 = (view target).1
  · rw [relative_of_root_eq hroot] at heq
    have hafter :
        ∀ s ∈ (view target).2.drop (sharedLength (view source).2
          (view target).2),
        IsPlain s :=
      fun s hs => (isPlace_view h).isPlain s (List.mem_of_mem_drop hs)
    have honly := eq_singleton_of_intercalate_eq
      (notMem_climbs (by decide) (separator_notMem_of_isPlain hafter) _)
      (by decide) (by decide) heq
    have hmem : here ∈ [here] := List.mem_singleton_self here
    rw [← honly] at hmem
    rcases List.mem_append.1 hmem with hmem | hmem
    · exact absurd (List.eq_of_mem_replicate hmem) (by decide)
    · exact (hafter here hmem).ne_here rfl
  · rw [relative_of_root_ne hroot] at heq
    have hrooted := isRooted_normalize h
    rw [heq] at hrooted
    cases hrooted

theorem isDotted_dotRelative (source : Path) {target : Path}
    (h : isRooted target = true) :
    IsDotted (dotRelative source target) := by
  simp only [dotRelative]
  split
  next hdotted =>
    rcases hdotted with hhere | hup | hhere | hup
    · exact absurd hhere (relative_ne_here source h)
    · exact .inr (.inr hup)
    · exact .inl (List.isPrefixOf_iff_prefix.1 hhere)
    · exact .inr (.inl (List.isPrefixOf_iff_prefix.1 hup))
  next => exact .inl ⟨relative source target, by simp⟩

theorem view_join_here {base : Path} (h : isRooted base = true) (p : Path) :
    view (join base [here ++ separator :: p]) = view (join base [p]) := by
  have hn : normalizeSeparators (here ++ separator :: p)
      = here ++ separator :: normalizeSeparators p := by
    rw [normalizeSeparators_append, normalizeSeparators_separator_cons]
    rfl
  have hhere : here.splitOn separator = [here] :=
    List.splitOn_eq_singleton (by decide)
  rw [view_join h, view_join h, hn, List.splitOn_append_cons_self, hhere,
    List.singleton_append, collapse_append_here_cons]

theorem view_join_dotRelative {start target : Path} (source : Path)
    (hstart : isRooted start = true) (htarget : isRooted target = true) :
    view (join start [dotRelative source target])
      = followed start source target := by
  rw [← view_join_relative source hstart htarget]
  simp only [dotRelative]
  split
  · rfl
  · exact view_join_here hstart _

/-- A dotted specifier leads from its own source to its target. -/
theorem join_dotRelative {source target : Path}
    (hsource : isRooted source = true) (htarget : isRooted target = true)
    (hroot : (view source).1 = (view target).1) :
    join source [dotRelative source target] = normalize target := by
  apply eq_of_view_eq (isNormal_join _ _) (normalize_normalize _)
    (isRooted_join hsource _) (isRooted_normalize htarget)
  rw [view_join_dotRelative source hsource htarget, followed_self hroot,
    view_normalize]

theorem dotRelative_eq_of_relative {source target other goal : Path}
    (h : relative source target = relative other goal) :
    dotRelative source target = dotRelative other goal := by
  simp only [dotRelative, h]

/-- A dotted specifier leads to a rooted path exactly when the way that it
spells ends there. -/
theorem join_dotRelative_eq_iff {start target goal : Path} (source : Path)
    (hstart : isRooted start = true) (htarget : isRooted target = true)
    (hgoal : isRooted goal = true) :
    join start [dotRelative source target] = goal ↔
      IsNormal goal ∧ followed start source target = view goal := by
  rw [← view_join_dotRelative source hstart htarget]
  constructor
  · intro heq
    rw [← heq]
    exact ⟨isNormal_join _ _, rfl⟩
  · rintro ⟨hnormal, hview⟩
    exact eq_of_view_eq (isNormal_join _ _) hnormal (isRooted_join hstart _)
      hgoal hview

end Path
end BuildHost
