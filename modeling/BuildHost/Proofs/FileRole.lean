import BuildHost.FileRole
import BuildHost.Proofs.Path.Ending

/-!
# What a path tells of its file

A file of the project has no module below a dependency folder, with or without
its ending (`dependencyModule?_withoutExtension`).  Whether a file is generated
is told by its last segment, which is a plain name also without its ending
(`view_module_of_isGenerated`).
-/

namespace BuildHost

open BuildHost.Path

/-! ## Dependency markers -/

theorem Path.cutAt?_eq_none_iff {marker : Path} (hne : marker ≠ []) (p : Path) :
    cutAt? marker p = none ↔ ¬ marker <:+: p := by
  induction p with
  | nil =>
      rw [cutAt?, if_neg (by simpa using hne)]
      simpa using hne
  | cons c rest ih =>
      rw [cutAt?, List.infix_cons_iff]
      cases hprefix : marker.isPrefixOf? (c :: rest) with
      | none =>
          have hnot : ¬ marker <+: c :: rest := by
            rintro ⟨after, hafter⟩
            rw [List.isPrefixOf?_eq_some_iff_append_eq.2 hafter] at hprefix
            exact absurd hprefix (by simp)
          simp [ih, hnot]
      | some after =>
          have hyes : marker <+: c :: rest :=
            ⟨after, List.isPrefixOf?_eq_some_iff_append_eq.1 hprefix⟩
          simp [hyes]

theorem dependencyModule?_eq_none {p : Path} (h : ¬ dependencyMarker <:+: p) :
    dependencyModule? p = none := by
  rw [dependencyModule?, (cutAt?_eq_none_iff (by decide) p).2 h]
  rfl

theorem dependencyModule?_withoutExtension {p : Path}
    (h : ¬ dependencyMarker <:+: p) :
    dependencyModule? p.withoutExtension = none :=
  dependencyModule?_eq_none fun hmarker =>
    h (hmarker.trans (isPrefix_withoutExtension p).isInfix)

theorem Path.eq_of_cutAt?_eq_some {marker p before after : Path}
    (h : cutAt? marker p = some (before, after)) :
    p = before ++ (marker ++ after) := by
  induction p generalizing before with
  | nil =>
      rw [cutAt?] at h
      split at h
      next hempty =>
        cases h
        rw [List.isEmpty_iff.1 hempty]
        rfl
      next => cases h
  | cons c rest ih =>
      rw [cutAt?] at h
      cases hstarts : marker.isPrefixOf? (c :: rest) with
      | some tail =>
          rw [hstarts] at h
          cases h
          exact (List.isPrefixOf?_eq_some_iff_append_eq.1 hstarts).symm
      | none =>
          rw [hstarts] at h
          rcases Option.map_eq_some_iff.1 h with ⟨⟨front, tail⟩, hcut, heq⟩
          cases heq
          rw [ih hcut, List.cons_append]

/-- A text is cut at the first marker, behind which no less is left than behind
any other. -/
theorem Path.length_le_of_cutAt?_eq_some
    {marker p before after front rest : Path}
    (h : cutAt? marker p = some (before, after))
    (hp : p = front ++ (marker ++ rest)) :
    rest.length ≤ after.length := by
  induction p generalizing before front with
  | nil =>
      have hlength := congrArg List.length hp
      simp only [List.length_nil, List.length_append] at hlength
      omega
  | cons c tail ih =>
      rw [cutAt?] at h
      cases hstarts : marker.isPrefixOf? (c :: tail) with
      | some found =>
          rw [hstarts] at h
          cases h
          have hfound := List.isPrefixOf?_eq_some_iff_append_eq.1 hstarts
          have hlength := congrArg List.length (hfound.trans hp)
          simp only [List.length_append] at hlength
          omega
      | none =>
          rw [hstarts] at h
          rcases Option.map_eq_some_iff.1 h with ⟨⟨start, found⟩, hcut, heq⟩
          cases heq
          cases front with
          | nil =>
              rw [List.nil_append] at hp
              rw [List.isPrefixOf?_eq_some_iff_append_eq.2 hp.symm] at hstarts
              cases hstarts
          | cons d others =>
              rw [List.cons_append] at hp
              exact ih hcut (List.cons.inj hp).2

theorem exists_eq_of_dependencyModule? {p module : Path}
    (h : dependencyModule? p = some module) :
    ∃ before,
      p = before ++ separator :: (dependencyFolder ++ separator :: module) := by
  rcases Option.map_eq_some_iff.1 h with ⟨⟨before, after⟩, hcut, rfl⟩
  exact ⟨before, eq_of_cutAt?_eq_some hcut⟩

theorem exists_dependencyModule?_of_infix {p : Path}
    (h : dependencyMarker <:+: p) :
    ∃ module, dependencyModule? p = some module := by
  cases hcut : cutAt? dependencyMarker p with
  | none => exact absurd h ((cutAt?_eq_none_iff (by decide) p).1 hcut)
  | some parts => exact ⟨parts.2, by rw [dependencyModule?, hcut]; rfl⟩

/-- A marker ends with a separator, so that it is not cut by taking an ending
off. -/
theorem dependencyMarker_infix_withoutExtension {p : Path}
    (h : dependencyMarker <:+: p) :
    dependencyMarker <:+: p.withoutExtension := by
  rcases h with ⟨before, after, rfl⟩
  have hmarker : dependencyMarker
      = (separator :: dependencyFolder) ++ [separator] := rfl
  have hsplit : before ++ dependencyMarker ++ after
      = (before ++ separator :: dependencyFolder) ++ separator :: after := by
    rw [hmarker]
    simp
  rw [hsplit, withoutExtension_append_separator]
  refine ⟨before, withoutExtension after, ?_⟩
  rw [hmarker]
  simp

/-- What follows a dependency folder in a path in normal form is a row of its
segments. -/
theorem exists_view_of_dependencyModule? {p module : Path} (hp : IsNormal p)
    (hr : Path.isRooted p = true) (h : dependencyModule? p = some module) :
    ∃ before, (view p).2
      = before ++ dependencyFolder :: module.splitOn separator := by
  have hplace := isPlace_view hr
  have htext := hp.render_view hr
  rw [render_of_isRooted hplace.isRooted] at htext
  rcases Root.exists_text_eq hplace.isReadable hplace.isRooted with
    ⟨front, hfront, hroot⟩
  rcases exists_eq_of_dependencyModule? h with ⟨before, hbefore⟩
  have hfolder : separator ∉ dependencyFolder := by decide
  have hsplit := congrArg (List.splitOn separator) (htext.trans hbefore)
  rw [hroot, List.append_assoc, List.singleton_append,
    List.splitOn_append_cons_self, List.splitOn_append_cons_self,
    List.splitOn_append_cons_self, List.splitOn_eq_singleton hfront,
    List.splitOn_eq_singleton hfolder] at hsplit
  cases hstart : before.splitOn separator with
  | nil => exact absurd hstart (List.splitOn_ne_nil separator before)
  | cons first others =>
      rw [hstart, List.singleton_append, List.cons_append] at hsplit
      have hrest := (List.cons.inj hsplit).2
      have hne : (view p).2 ≠ [] := by
        intro hnil
        rw [hnil, List.intercalate_nil, List.splitOn_nil] at hrest
        have hlength := congrArg List.length hrest
        have hpos := List.length_pos_of_ne_nil
          (List.splitOn_ne_nil separator module)
        simp only [List.length_append, List.length_singleton] at hlength
        omega
      rw [List.splitOn_intercalate separator
        (separator_notMem_of_isPlain hplace.isPlain) hne] at hrest
      exact ⟨others, hrest⟩

theorem isPlain_of_dependencyModule? {p module : Path} (hp : IsNormal p)
    (hr : Path.isRooted p = true) (h : dependencyModule? p = some module) :
    ∀ s ∈ module.splitOn separator, IsPlain s := by
  rcases exists_view_of_dependencyModule? hp hr h with ⟨before, hview⟩
  intro s hs
  apply (isPlace_view hr).isPlain s
  rw [hview]
  exact List.mem_append_right _ (List.mem_cons_of_mem _ hs)

/-- A dependency folder among the segments of a path in normal form stands in
its text as a marker, when it is not the last segment. -/
theorem exists_eq_append_dependencyMarker {p : Path} {before after : List Path}
    (hp : IsNormal p) (hr : Path.isRooted p = true)
    (hview : (view p).2 = before ++ dependencyFolder :: after)
    (hafter : after ≠ []) :
    ∃ front,
      p = front ++ (dependencyMarker ++ [separator].intercalate after) := by
  have hplace := isPlace_view hr
  have htext := hp.render_view hr
  rcases Root.exists_text_eq hplace.isReadable hplace.isRooted with
    ⟨front, -, hroot⟩
  rw [render_of_isRooted hplace.isRooted, hroot, hview] at htext
  have htail : [separator].intercalate (dependencyFolder :: after)
      = dependencyFolder ++ separator :: [separator].intercalate after := by
    rw [List.intercalate_cons_of_ne_nil hafter]
    simp
  have hmarker : dependencyMarker
      = separator :: dependencyFolder ++ [separator] := rfl
  by_cases hbefore : before = []
  · refine ⟨front, ?_⟩
    rw [← htext, hbefore, List.nil_append, htail, hmarker]
    simp
  · refine ⟨front ++ separator :: [separator].intercalate before, ?_⟩
    rw [← htext, intercalate_append hbefore (List.cons_ne_nil _ _), htail,
      hmarker]
    simp

theorem dependencyMarker_infix_of_view {p : Path} {before after : List Path}
    (hp : IsNormal p) (hr : Path.isRooted p = true)
    (hview : (view p).2 = before ++ dependencyFolder :: after)
    (hafter : after ≠ []) : dependencyMarker <:+: p := by
  rcases exists_eq_append_dependencyMarker hp hr hview hafter with
    ⟨front, hfront⟩
  exact ⟨front, [separator].intercalate after,
    by rw [hfront, List.append_assoc]⟩

/-- The module of a file is what follows the first dependency folder among its
segments. -/
theorem dependencyFolder_notMem_of_dependencyModule? {p module : Path}
    {before : List Path} (hp : IsNormal p) (hr : Path.isRooted p = true)
    (h : dependencyModule? p = some module)
    (hview : (view p).2
      = before ++ dependencyFolder :: module.splitOn separator) :
    dependencyFolder ∉ before := by
  intro hmem
  rcases List.append_of_mem hmem with ⟨outer, inner, rfl⟩
  rw [List.append_assoc, List.cons_append] at hview
  rcases exists_eq_append_dependencyMarker hp hr hview (by simp) with
    ⟨front, hfront⟩
  rcases Option.map_eq_some_iff.1 h with ⟨⟨start, after⟩, hcut, rfl⟩
  have hlength := length_le_of_cutAt?_eq_some hcut hfront
  have htail : [separator].intercalate
      (dependencyFolder :: after.splitOn separator)
      = dependencyFolder ++ separator :: after := by
    rw [List.intercalate_cons_of_ne_nil (List.splitOn_ne_nil separator after),
      List.intercalate_splitOn]
    simp
  by_cases hinner : inner = []
  · rw [hinner, List.nil_append, htail, List.length_append,
      List.length_cons] at hlength
    omega
  · rw [intercalate_append hinner (List.cons_ne_nil _ _), htail] at hlength
    simp only [List.length_append, List.length_cons] at hlength
    omega

/-! ## Generated files -/

theorem isGeneratedFile_congr {p q : Path}
    (h : ∀ ending : Path, separator ∉ ending →
      ending.isSuffixOf p = ending.isSuffixOf q) :
    isGeneratedFile p = isGeneratedFile q := by
  have hnone : ∀ ending ∈ generatedExtensions, separator ∉ ending := by
    decide
  rw [Bool.eq_iff_iff, isGeneratedFile, isGeneratedFile, List.any_eq_true,
    List.any_eq_true]
  constructor
  · rintro ⟨ending, hmem, hending⟩
    rw [h ending (hnone ending hmem)] at hending
    exact ⟨ending, hmem, hending⟩
  · rintro ⟨ending, hmem, hending⟩
    rw [← h ending (hnone ending hmem)] at hending
    exact ⟨ending, hmem, hending⟩

theorem isGeneratedFile_append_separator (front q : Path) :
    isGeneratedFile (front ++ separator :: q) = isGeneratedFile q := by
  apply isGeneratedFile_congr
  intro ending h
  exact isSuffixOf_append_separator h front q

theorem isGeneratedFile_withSeparator_intercalate (dir : Path)
    (front : List Path) (last : Path) :
    isGeneratedFile
      (withSeparator dir ++ [separator].intercalate (front ++ [last]))
      = isGeneratedFile last := by
  apply isGeneratedFile_congr
  intro ending h
  exact isSuffixOf_withSeparator_intercalate h dir front last

theorem FileRole.isGenerated_classify (p : Path) :
    (FileRole.classify p).isGenerated = isGeneratedFile p := by
  rw [FileRole.classify]
  split
  next h => rw [h]; rfl
  next h =>
    rw [Bool.eq_false_iff.2 h]
    split
    · rfl
    · split
      · rfl
      · rfl

/-- The name of a generated module is more than dots. -/
theorem isPlain_withoutExtension_of_isGeneratedFile {last : Path}
    (h : IsPlain last)
    (hgenerated : isGeneratedFile last.withoutExtension = true) :
    IsPlain last.withoutExtension := by
  apply h.withoutExtension
  intro hdots
  have hnone : ∀ name ∈ [[], here, up], isGeneratedFile name = false := by
    decide
  rw [hnone _ hdots] at hgenerated
  cases hgenerated

theorem view_ne_nil_of_isGenerated {p : Path} (hp : IsNormal p)
    (hr : Path.isRooted p = true)
    (hgenerated : (FileRole.classify p.withoutExtension).isGenerated = true) :
    (view p).2 ≠ [] := by
  intro hnil
  have htext := hp.render_view hr
  have hrooted := isRooted_view hr
  rw [hnil, render_of_isRooted hrooted, List.intercalate_nil,
    List.append_nil] at htext
  rw [← htext, FileRole.isGenerated_classify] at hgenerated
  cases hroot : (view p).1 with
  | none =>
      rw [hroot] at hrooted
      cases hrooted
  | slash =>
      rw [hroot] at hgenerated
      cases hgenerated
  | drive letter =>
      have hsplit : (Root.drive letter).text
          = [letter, ':'] ++ separator :: [] := rfl
      rw [hroot, hsplit, withoutExtension_append_separator,
        isGeneratedFile_append_separator] at hgenerated
      cases hgenerated

theorem isPlain_withoutExtension_of_isGenerated {p : Path} {root : Root}
    {front : List Path} {last : Path} (hp : IsNormal p)
    (hr : Path.isRooted p = true) (hview : view p = (root, front ++ [last]))
    (hgenerated : (FileRole.classify p.withoutExtension).isGenerated = true) :
    IsPlain last.withoutExtension := by
  have hplace := isPlace_view hr
  rw [hview] at hplace
  have hlast : IsPlain last := hplace.isPlain last (by simp)
  rw [eq_root_append hp hr hview (by simp), withoutExtension_withSeparator,
    withoutExtension_intercalate, FileRole.isGenerated_classify,
    isGeneratedFile_withSeparator_intercalate] at hgenerated
  exact isPlain_withoutExtension_of_isGeneratedFile hlast hgenerated

/-- A generated file and its module are read alike but for the ending of the
last segment. -/
theorem view_module_of_isGenerated {p : Path} {root : Root}
    {before front : List Path} {last : Path} (hp : IsNormal p)
    (hr : Path.isRooted p = true)
    (hview : view p = (root, before ++ (front ++ [last])))
    (hgenerated : (FileRole.classify p.withoutExtension).isGenerated = true) :
    IsNormal p.withoutExtension ∧
      view p.withoutExtension
        = (root, before ++ (front ++ [last.withoutExtension])) := by
  rw [← List.append_assoc] at hview ⊢
  have hlast := isPlain_withoutExtension_of_isGenerated hp hr hview hgenerated
  exact view_withoutExtension hp hr hview hlast

theorem isNormal_module_of_isGenerated {p : Path} (hp : IsNormal p)
    (hr : Path.isRooted p = true)
    (hgenerated : (FileRole.classify p.withoutExtension).isGenerated = true) :
    IsNormal p.withoutExtension := by
  have hne := view_ne_nil_of_isGenerated hp hr hgenerated
  have hview : view p
      = ((view p).1,
        [] ++ ((view p).2.dropLast ++ [(view p).2.getLast hne])) := by
    rw [List.nil_append, List.dropLast_concat_getLast hne]
  exact (view_module_of_isGenerated hp hr hview hgenerated).1

/-! ## Names of packages -/

theorem isWord_eq_false {p : Path} {c : Char} (hmem : c ∈ p)
    (hc : Unicode.isWordChar c = false) :
    isWord p = false := by
  rw [isWord, Bool.and_eq_false_iff, List.all_eq_false]
  exact .inr ⟨c, hmem, by simp [hc]⟩

theorem isShallowImport_of_head_ne {c : Char} {p : Path}
    (hword : isWord (c :: p) = false) (hc : c ≠ '@') :
    isShallowImport (c :: p) = false := by
  rw [isShallowImport, hword, Bool.false_or]
  intro rest heq
  exact hc (List.cons.inj heq).1

/-- A rooted path is never taken for the name of a package. -/
theorem isShallowImport_of_isRooted {p : Path} (h : isRooted p = true) :
    isShallowImport p = false := by
  have htext := splitRoot_text_append (normalizeSeparators p)
  have hreadable := isReadable_splitRoot (normalizeSeparators p)
  rw [isRooted] at h
  cases hroot : (splitRoot (normalizeSeparators p)).1 with
  | none =>
      rw [hroot] at h
      cases h
  | slash =>
      rw [hroot] at htext
      cases p with
      | nil => exact absurd htext (by simp [normalizeSeparators, Root.text])
      | cons c rest =>
          have hc : (if c = '\\' then '/' else c) = '/' :=
            (List.cons.inj htext).1.symm
          have hseparator : Unicode.isWordChar c = false ∧ c ≠ '@' := by
            split at hc
            next hback =>
              subst hback
              decide
            next =>
              subst hc
              decide
          exact isShallowImport_of_head_ne
            (isWord_eq_false List.mem_cons_self hseparator.1) hseparator.2
  | drive letter =>
      rw [hroot] at htext hreadable
      have halpha : letter.isAlpha = true := hreadable
      cases p with
      | nil => exact absurd htext (by simp [normalizeSeparators, Root.text])
      | cons c others =>
          rcases List.cons.inj htext with ⟨hc, htext⟩
          cases others with
          | nil => exact absurd htext (by simp)
          | cons d rest =>
              have hd : ':' = (if d = '\\' then '/' else d) :=
                (List.cons.inj htext).1
              have hcolon : d = ':' := by
                split at hd
                · cases hd
                · exact hd.symm
              have hat : c ≠ '@' := by
                rintro rfl
                rw [hc] at halpha
                cases halpha
              subst hcolon
              exact isShallowImport_of_head_ne
                (isWord_eq_false (List.mem_cons_of_mem _ List.mem_cons_self)
                  (by decide)) hat

end BuildHost
