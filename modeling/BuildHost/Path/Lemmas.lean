import BuildHost.Path.Basic

/-!
# The normal form of a path

The segments that a walk ends up with are a run of `..`, only in a relative
path, followed by segments that were entered and never left
(`exists_collapse_eq`).  Walking along such segments again changes nothing, so a
normal form is its own normal form (`normalize_normalize`), and a rooted path
stays rooted (`isRooted_normalize`).
-/

namespace BuildHost
namespace Path

/-- A segment that a walk enters: not empty, neither `.` nor `..`, and without a
separator. -/
structure IsEntered (s : Path) : Prop where
  ne_nil : s ≠ []
  ne_here : s ≠ here
  ne_up : s ≠ up
  separator_notMem : separator ∉ s

/-! ## Walks -/

theorem step_of_isEntered {root : Root} {visited : List Path} {s : Path}
    (h : IsEntered s) :
    step root visited s = s :: visited := by
  simp [step, h.ne_nil, h.ne_here, h.ne_up]

theorem foldl_step_of_isEntered {root : Root} {segments : List Path}
    (h : ∀ s ∈ segments, IsEntered s) (visited : List Path) :
    segments.foldl (step root) visited = segments.reverse ++ visited := by
  induction segments generalizing visited with
  | nil => rfl
  | cons s rest ih =>
      rw [List.foldl_cons, step_of_isEntered (h s (by simp)),
        ih (fun t ht => h t (List.mem_cons_of_mem s ht))]
      simp

theorem step_none_replicate_up (n : Nat) :
    step .none (List.replicate n up) up = List.replicate (n + 1) up := by
  cases n with
  | zero => rfl
  | succ n => simp [step, up, here, Root.isRooted, List.replicate_succ]

theorem foldl_step_replicate_up (n m : Nat) :
    (List.replicate n up).foldl (step .none) (List.replicate m up)
      = List.replicate (m + n) up := by
  induction n generalizing m with
  | zero => rfl
  | succ n ih =>
      rw [List.replicate_succ, List.foldl_cons, step_none_replicate_up, ih]
      congr 1
      omega

/-- What a walk has visited: entered segments, and before them the climbs of a
relative path. -/
def IsWalk (root : Root) (visited : List Path) : Prop :=
  ∃ entered n, visited = entered ++ List.replicate n up ∧
    (∀ s ∈ entered, IsEntered s) ∧
    (root.isRooted = true → n = 0)

theorem isWalk_nil (root : Root) : IsWalk root [] :=
  ⟨[], 0, rfl, by simp, fun _ => rfl⟩

theorem IsWalk.step {root : Root} {visited : List Path} {s : Path}
    (h : IsWalk root visited) (hs : separator ∉ s) :
    IsWalk root (step root visited s) := by
  rcases h with ⟨entered, n, rfl, hentered, hn⟩
  by_cases hstay : s = [] ∨ s = here
  · simpa [Path.step, hstay] using ⟨entered, n, rfl, hentered, hn⟩
  by_cases hup : s = up
  · subst hup
    cases entered with
    | nil =>
        cases hroot : root.isRooted with
        | true =>
            obtain rfl := hn hroot
            simpa [Path.step, hroot, up, here] using isWalk_nil root
        | false =>
            refine ⟨[], n + 1, ?_, by simp, by simp [hroot]⟩
            cases n with
            | zero => simp [Path.step, hroot, up, here]
            | succ n => simp [Path.step, hroot, up, here, List.replicate_succ]
    | cons last before =>
        have hlast := hentered last (by simp)
        refine ⟨before, n, ?_,
          fun t ht => hentered t (List.mem_cons_of_mem last ht), hn⟩
        simp [Path.step, hlast.ne_up,
          show up ≠ [] by decide, show up ≠ here by decide]
  · have hs' : IsEntered s :=
      ⟨fun e => hstay (.inl e), fun e => hstay (.inr e), hup, hs⟩
    refine ⟨s :: entered, n, by simp [step_of_isEntered hs'], ?_, hn⟩
    simpa using ⟨hs', hentered⟩

theorem isWalk_foldl {root : Root} {segments : List Path}
    (h : ∀ s ∈ segments, separator ∉ s) {visited : List Path}
    (hv : IsWalk root visited) :
    IsWalk root (segments.foldl (step root) visited) := by
  induction segments generalizing visited with
  | nil => exact hv
  | cons s rest ih =>
      exact ih (fun t ht => h t (List.mem_cons_of_mem s ht))
        (hv.step (h s (by simp)))

/-- Collapsed segments are a run of climbs, empty below a root, followed by
entered segments. -/
theorem exists_collapse_eq {root : Root} {segments : List Path}
    (h : ∀ s ∈ segments, separator ∉ s) :
    ∃ n entered, collapse root segments = List.replicate n up ++ entered ∧
      (∀ s ∈ entered, IsEntered s) ∧ (root.isRooted = true → n = 0) := by
  rcases isWalk_foldl h (isWalk_nil root) with ⟨entered, n, hv, hentered, hn⟩
  refine ⟨n, entered.reverse, ?_, by simpa using hentered, hn⟩
  simp [collapse, hv]

theorem collapse_entered {root : Root} {segments : List Path}
    (h : ∀ s ∈ segments, IsEntered s) :
    collapse root segments = segments := by
  simp [collapse, foldl_step_of_isEntered h]

theorem collapse_climbs (n : Nat) {segments : List Path}
    (h : ∀ s ∈ segments, IsEntered s) :
    collapse .none (List.replicate n up ++ segments)
      = List.replicate n up ++ segments := by
  have hclimb := foldl_step_replicate_up n 0
  simp only [List.replicate_zero, Nat.zero_add] at hclimb
  simp [collapse, List.foldl_append, hclimb, foldl_step_of_isEntered h]

/-! ## Splitting and joining -/

theorem separator_notMem_of_mem_splitOn {p s : Path}
    (h : s ∈ p.splitOn separator) :
    separator ∉ s := by
  induction p generalizing s with
  | nil => simp_all
  | cons c rest ih =>
      rw [List.splitOn_cons_eq_if_modifyHead] at h
      by_cases hc : c = separator
      · rw [if_pos (by simp [hc])] at h
        rcases List.mem_cons.1 h with rfl | h
        · simp
        · exact ih h
      · rw [if_neg (by simp [hc])] at h
        cases hrest : rest.splitOn separator with
        | nil => simp [hrest] at h
        | cons first others =>
            rw [hrest, List.modifyHead_cons] at h
            rcases List.mem_cons.1 h with rfl | h
            · have := ih (s := first) (by simp [hrest])
              simp [this, Ne.symm hc]
            · exact ih (by simp [hrest, h])

theorem collapse_splitOn_intercalate {root : Root} {segments : List Path}
    (h : ∀ s ∈ segments, separator ∉ s) :
    collapse root (([separator].intercalate segments).splitOn separator)
      = collapse root segments := by
  by_cases hne : segments = []
  · subst hne
    rfl
  · rw [List.splitOn_intercalate separator h hne]

theorem intercalate_cons_cons (a b : Path) (rest : List Path) :
    [separator].intercalate (a :: b :: rest)
      = a ++ separator :: [separator].intercalate (b :: rest) := by
  simp [List.intercalate]

/-! ## Separators -/

theorem normalizeSeparators_eq_self {p : Path} (h : '\\' ∉ p) :
    normalizeSeparators p = p := by
  induction p with
  | nil => rfl
  | cons c rest ih =>
      simp only [List.mem_cons, not_or] at h
      rw [normalizeSeparators, List.map_cons, if_neg (Ne.symm h.1)]
      exact congrArg (c :: ·) (ih h.2)

theorem backslash_notMem_normalizeSeparators (p : Path) :
    '\\' ∉ normalizeSeparators p := by
  intro h
  rcases List.mem_map.1 h with ⟨c, -, hc⟩
  split at hc <;> simp_all

theorem splitRoot_text_append (p : Path) :
    (splitRoot p).1.text ++ (splitRoot p).2 = p := by
  unfold splitRoot
  split
  · rfl
  · split <;> rfl
  · rfl

/-! ## Normal forms -/

theorem mem_of_mem_step {root : Root} {visited : List Path} {segment s : Path}
    (h : s ∈ step root visited segment) :
    s ∈ visited ∨ s = segment ∨ s = up := by
  unfold step at h
  split at h
  · exact .inl h
  · split at h
    · cases visited with
      | nil =>
          simp only at h
          split at h <;> simp_all
      | cons last before =>
          simp only at h
          split at h
          · exact .inl (List.mem_cons_of_mem last h)
          · split at h
            · exact .inl h
            · rcases List.mem_cons.1 h with rfl | h
              · exact .inr (.inr rfl)
              · exact .inl h
    · rcases List.mem_cons.1 h with rfl | h
      · exact .inr (.inl rfl)
      · exact .inl h

theorem mem_of_mem_collapse {root : Root} {segments : List Path} {s : Path}
    (h : s ∈ collapse root segments) : s ∈ segments ∨ s = up := by
  have key : ∀ (segments visited : List Path),
      s ∈ segments.foldl (step root) visited →
      s ∈ visited ∨ s ∈ segments ∨ s = up := by
    intro segments
    induction segments with
    | nil => exact fun visited h => .inl h
    | cons first rest ih =>
        intro visited h
        rcases ih _ h with h | h | h
        · rcases mem_of_mem_step h with h | h | h
          · exact .inl h
          · exact .inr (.inl (h ▸ List.mem_cons_self))
          · exact .inr (.inr h)
        · exact .inr (.inl (List.mem_cons_of_mem first h))
        · exact .inr (.inr h)
  rcases key segments [] (by simpa [collapse] using h) with h | h | h
  · simp at h
  · exact .inl h
  · exact .inr h

theorem mem_intercalate_of_mem {segments : List Path} {s : Path} {c : Char}
    (h : s ∈ segments) (hc : c ∈ s) : c ∈ [separator].intercalate segments := by
  induction segments with
  | nil => simp at h
  | cons first rest ih =>
      cases rest with
      | nil =>
          obtain rfl : s = first := by simpa using h
          simpa [List.intercalate] using hc
      | cons second others =>
          rw [intercalate_cons_cons, List.mem_append, List.mem_cons]
          rcases List.mem_cons.1 h with rfl | h
          · exact .inl hc
          · exact .inr (.inr (ih h))

theorem mem_of_mem_splitOn {p s : Path} {c : Char} (h : s ∈ p.splitOn separator)
    (hc : c ∈ s) :
    c ∈ p := by
  rw [← @List.intercalate_splitOn Char p _ _ separator]
  exact mem_intercalate_of_mem h hc

theorem mem_of_mem_intercalate {segments : List Path} {c : Char}
    (h : c ∈ [separator].intercalate segments) :
    c = separator ∨ ∃ s ∈ segments, c ∈ s := by
  induction segments with
  | nil => simp [List.intercalate] at h
  | cons first rest ih =>
      cases rest with
      | nil => exact .inr ⟨first, by simp, by simpa [List.intercalate] using h⟩
      | cons second others =>
          rw [intercalate_cons_cons, List.mem_append, List.mem_cons] at h
          rcases h with h | h | h
          · exact .inr ⟨first, by simp, h⟩
          · exact .inl h
          · rcases ih h with h | ⟨s, hs, hc⟩
            · exact .inl h
            · exact .inr ⟨s, List.mem_cons_of_mem first hs, hc⟩

def Root.IsReadable : Root → Prop
  | .drive letter => letter.isAlpha = true
  | _ => True

theorem isReadable_splitRoot (p : Path) : (splitRoot p).1.IsReadable := by
  unfold splitRoot
  split
  · trivial
  · split
    · assumption
    · trivial
  · trivial

theorem ne_separator_of_isAlpha {c : Char} (h : c.isAlpha = true) :
    c ≠ '/' := by
  rintro rfl
  cases h

theorem splitRoot_drive {letter : Char} (h : letter.isAlpha = true) (p : Path) :
    splitRoot (letter :: ':' :: '/' :: p) = (.drive letter, p) := by
  have hne := ne_separator_of_isAlpha h
  rw [splitRoot, if_pos h]
  exact hne

theorem Root.eq_none {root : Root} (h : root.isRooted = false) :
    root = .none := by
  cases root with
  | none => rfl
  | slash => cases h
  | drive letter => cases h

theorem splitRoot_text {root : Root} (h : root.IsReadable)
    (hr : root.isRooted = true) (p : Path) :
    splitRoot (root.text ++ p) = (root, p) := by
  cases root with
  | none => simp [Root.isRooted] at hr
  | slash => rfl
  | drive letter => exact splitRoot_drive h p

structure IsCollapsed (root : Root) (segments : List Path) : Prop where
  climbs : ∃ n entered, segments = List.replicate n up ++ entered ∧
    (∀ s ∈ entered, IsEntered s) ∧ (root.isRooted = true → n = 0)
  backslash_notMem : ∀ s ∈ segments, '\\' ∉ s

theorem IsCollapsed.separator_notMem {root : Root} {segments : List Path}
    (h : IsCollapsed root segments) : ∀ s ∈ segments, separator ∉ s := by
  rcases h.climbs with ⟨n, entered, rfl, hentered, -⟩
  intro s hs
  rcases List.mem_append.1 hs with hs | hs
  · rw [List.eq_of_mem_replicate hs]
    decide
  · exact (hentered s hs).separator_notMem

theorem IsCollapsed.ne_nil {root : Root} {segments : List Path}
    (h : IsCollapsed root segments) : ∀ s ∈ segments, s ≠ [] := by
  rcases h.climbs with ⟨n, entered, rfl, hentered, -⟩
  intro s hs
  rcases List.mem_append.1 hs with hs | hs
  · rw [List.eq_of_mem_replicate hs]
    decide
  · exact (hentered s hs).ne_nil

theorem IsCollapsed.collapse_eq {root : Root} {segments : List Path}
    (h : IsCollapsed root segments) : collapse root segments = segments := by
  rcases h.climbs with ⟨n, entered, rfl, hentered, hn⟩
  cases hroot : root.isRooted with
  | true =>
      obtain rfl := hn hroot
      simpa using collapse_entered hentered
  | false =>
      obtain rfl := Root.eq_none hroot
      exact collapse_climbs n hentered

theorem isCollapsed_collapse {root : Root} {p : Path} (h : '\\' ∉ p) :
    IsCollapsed root (collapse root (p.splitOn separator)) where
  climbs := exists_collapse_eq fun _ hs => separator_notMem_of_mem_splitOn hs
  backslash_notMem s hs := by
    rcases mem_of_mem_collapse hs with hs | rfl
    · exact fun hc => h (mem_of_mem_splitOn hs hc)
    · decide

/-- Every normal form is a readable root with collapsed segments. -/
theorem exists_normalize_eq (p : Path) :
    ∃ root segments, normalize p = render root segments ∧
      root.IsReadable ∧ IsCollapsed root segments ∧
      root.isRooted = isRooted p := by
  refine ⟨_, _, rfl, isReadable_splitRoot _,
    isCollapsed_collapse fun h => ?_, rfl⟩
  refine backslash_notMem_normalizeSeparators p ?_
  rw [← splitRoot_text_append (normalizeSeparators p)]
  exact List.mem_append_right _ h

theorem backslash_notMem_render {root : Root} {segments : List Path}
    (h : root.IsReadable) (hs : IsCollapsed root segments) :
    '\\' ∉ render root segments := by
  unfold render
  split
  · decide
  · intro hc
    rcases List.mem_append.1 hc with hc | hc
    · cases root with
      | none => simp [Root.text] at hc
      | slash => simp [Root.text] at hc
      | drive letter =>
          obtain rfl : '\\' = letter := by simpa [Root.text] using hc
          exact absurd h (by simp [Root.IsReadable])
    · rcases mem_of_mem_intercalate hc with hc | ⟨s, hmem, hc⟩
      · cases hc
      · exact hs.backslash_notMem s hmem hc

theorem normalize_render_of_isRooted {root : Root} {segments : List Path}
    (h : root.IsReadable) (hr : root.isRooted = true)
    (hs : IsCollapsed root segments) :
    normalize (render root segments) = render root segments := by
  have hne : ¬(root = .none ∧ segments = []) := by
    rintro ⟨rfl, -⟩
    simp [Root.isRooted] at hr
  unfold normalize
  rw [normalizeSeparators_eq_self (backslash_notMem_render h hs)]
  have htext : render root segments
      = root.text ++ [separator].intercalate segments := by
    rw [render, if_neg hne]
  rw [htext, splitRoot_text h hr]
  simp only
  rw [collapse_splitOn_intercalate hs.separator_notMem, hs.collapse_eq, htext]

theorem splitRoot_eq_none {p : Path} (h : separator ∉ p) :
    splitRoot p = (.none, p) := by
  unfold splitRoot
  split
  · simp [separator] at h
  · simp [separator] at h
  · rfl

/-- A relative path reads as one below a drive only when its first segment names
the drive. -/
theorem splitRoot_append_separator {s : Path} (hne : s ≠ [])
    (hsep : separator ∉ s) (p : Path) :
    splitRoot (s ++ separator :: p) = (.none, s ++ separator :: p) ∨
      ∃ letter, letter.isAlpha = true ∧ s = [letter, ':'] := by
  match s with
  | [] => exact absurd rfl hne
  | [a] =>
      refine .inl ?_
      unfold splitRoot
      split <;> simp_all [separator]
  | [a, b] =>
      by_cases hb : b = ':'
      · subst hb
        by_cases ha : a.isAlpha = true
        · exact .inr ⟨a, ha, rfl⟩
        · refine .inl ?_
          unfold splitRoot
          split <;> simp_all [separator]
      · refine .inl ?_
        unfold splitRoot
        split <;> simp_all [separator]
  | a :: b :: c :: more =>
      refine .inl ?_
      unfold splitRoot
      split <;> simp_all [separator]

theorem normalize_render_none {segments : List Path}
    (hs : IsCollapsed .none segments) :
    normalize (render .none segments) = render .none segments := by
  have htext : ∀ {segments}, segments ≠ [] →
      render .none segments = [separator].intercalate segments := by
    intro segments hne
    simp [render, Root.text, hne]
  have hplain : ∀ {p}, '\\' ∉ p → splitRoot p = (.none, p) →
      normalize p = render .none (collapse .none (p.splitOn separator)) := by
    intro p hp hroot
    unfold normalize
    rw [normalizeSeparators_eq_self hp, hroot]
  match segments, hs with
  | [], _ => decide
  | [only], hs =>
      have hsep : separator ∉ only := hs.separator_notMem only (by simp)
      have hback := hs.backslash_notMem only (by simp)
      have honly : render .none [only] = only := by
        simp [htext, List.intercalate]
      rw [honly, hplain hback (splitRoot_eq_none hsep),
        List.splitOn_eq_singleton hsep, hs.collapse_eq, honly]
  | first :: second :: others, hs =>
      have hback := @backslash_notMem_render .none _ trivial hs
      have hjoin := intercalate_cons_cons first second others
      have hrender := @htext (first :: second :: others) (by simp)
      rcases splitRoot_append_separator (hs.ne_nil first (by simp))
          (hs.separator_notMem first (by simp))
          ([separator].intercalate (second :: others)) with
            hroot | ⟨letter, hletter, rfl⟩
      · rw [← hjoin] at hroot
        rw [hrender] at hback ⊢
        rw [hplain hback hroot,
          collapse_splitOn_intercalate hs.separator_notMem, hs.collapse_eq,
          hrender]
      · rcases hs.climbs with ⟨n, entered, heq, hentered, -⟩
        obtain ⟨rfl, rfl⟩ : n = 0 ∧
            entered = [letter, ':'] :: second :: others := by
          cases n with
          | zero => exact ⟨rfl, by simpa using heq.symm⟩
          | succ n =>
              rw [List.replicate_succ, List.cons_append] at heq
              exact absurd (List.cons.inj heq).1 (by simp [up])
        have hbelow : IsCollapsed (.drive letter) (second :: others) :=
          ⟨⟨0, second :: others, rfl,
            fun s hmem => hentered s (List.mem_cons_of_mem _ hmem),
            fun _ => rfl⟩,
            fun s hmem => hs.backslash_notMem s (List.mem_cons_of_mem _ hmem)⟩
        have hsame : render .none ([letter, ':'] :: second :: others)
            = render (.drive letter) (second :: others) := by
          rw [hrender, hjoin]
          simp [render, Root.text, separator]
        rw [hsame]
        exact normalize_render_of_isRooted hletter rfl hbelow

theorem normalize_normalize (p : Path) :
    normalize (normalize p) = normalize p := by
  rcases exists_normalize_eq p with ⟨root, segments, hp, hroot, hs, -⟩
  rw [hp]
  cases hr : root.isRooted with
  | true => exact normalize_render_of_isRooted hroot hr hs
  | false =>
      obtain rfl := Root.eq_none hr
      exact normalize_render_none hs

theorem isRooted_normalize {p : Path} (h : isRooted p = true) :
    isRooted (normalize p) = true := by
  rcases exists_normalize_eq p with ⟨root, segments, hp, hroot, hs, hr⟩
  rw [h] at hr
  have hne : ¬(root = .none ∧ segments = []) := by
    rintro ⟨rfl, -⟩
    simp [Root.isRooted] at hr
  rw [isRooted, hp,
    normalizeSeparators_eq_self (backslash_notMem_render hroot hs), render,
    if_neg hne, splitRoot_text hroot hr]
  exact hr

end Path
end BuildHost
