import BuildHost.Proofs.Glob.Tokens
import Mathlib.Data.List.Forall2

/-!
# Patterns by component

Where wildcards pass no separator, the tokens of a whole pattern stand for the
names that its components lead along (`reads_joined_iff`): one name each, and
any names for `**`.
-/

namespace BuildHost
namespace Glob

open BuildHost.Path

variable {text name : Path} {texts names : List Path} {tokens : List Token}
  {tokenized : List (List Token)} {component : Component}
  {components : List Component}

/-! ## Tokens of components -/

/-- Tokens that one component may have. -/
structure IsComponent (tokens : List Token) : Prop where
  ne_nil : tokens ≠ []
  separator_notMem : .char separator ∉ tokens
  eq_of_mem : .anyDirectories ∈ tokens → tokens = [.anyDirectories]

theorem isComponent_of_parse (h : parse text = .ok tokens) (hne : text ≠ [])
    (hseparator : separator ∉ text) :
    IsComponent tokens := by
  have htokens := parse_eq_ok_iff.1 h
  exact ⟨htokens.ne_nil hne,
    fun hmem => hseparator (htokens.mem_of_char_mem hmem),
    fun hmem => (htokens.eq_directories hseparator hmem).2⟩

/-- The tokens of components with separators between them, which `**` has in
it. -/
def joined : List (List Token) → List Token
  | [] => []
  | [tokens] => tokens
  | tokens :: next :: rest =>
    if tokens = [.anyDirectories] then .anyDirectories :: joined (next :: rest)
    else tokens ++ .char separator :: joined (next :: rest)

theorem joined_ne_nil (h : ∀ tokens ∈ tokenized, IsComponent tokens)
    (hne : tokenized ≠ []) :
    joined tokenized ≠ [] := by
  cases tokenized with
  | nil => exact absurd rfl hne
  | cons tokens rest =>
      cases rest with
      | nil => exact (h tokens List.mem_cons_self).ne_nil
      | cons next rest =>
          rw [joined]
          split
          · exact List.cons_ne_nil _ _
          · exact List.append_ne_nil_of_right_ne_nil _ (List.cons_ne_nil _ _)

theorem getLast?_joined (h : ∀ tokens ∈ tokenized, IsComponent tokens) :
    (joined tokenized).getLast? = some .anyDirectories ↔
      tokenized.getLast? = some [.anyDirectories] := by
  induction tokenized with
  | nil => simp [joined]
  | cons tokens rest ih =>
      cases rest with
      | nil =>
          rw [joined, List.getLast?_singleton, Option.some.injEq]
          constructor
          · exact fun hlast =>
              (h tokens List.mem_cons_self).eq_of_mem
              (List.mem_of_getLast? hlast)
          · rintro rfl
            rfl
      | cons next rest =>
          have hrest : ∀ tokens ∈ next :: rest,
              IsComponent tokens := fun other hother =>
            h other (List.mem_cons_of_mem tokens hother)
          have hlast : (joined (tokens :: next :: rest)).getLast?
              = (joined (next :: rest)).getLast? := by
            have hne := joined_ne_nil hrest (List.cons_ne_nil next rest)
            rw [joined]
            split
            · rw [List.getLast?_cons, List.getLast?_eq_some_getLast hne]
              rfl
            · rw [List.getLast?_append_of_ne_nil _ (List.cons_ne_nil _ _),
                List.getLast?_cons, List.getLast?_eq_some_getLast hne]
              rfl
          rw [hlast, ih hrest, List.getLast?_cons_cons]

theorem tokenizes_intercalate {previous : Option Char}
    (h : List.Forall₂ (fun text tokens => parse text = .ok tokens) texts
      tokenized)
    (hseparator : ∀ text ∈ texts, separator ∉ text)
    (hprevious : previous.any (· ≠ separator) = false) :
    Tokenizes previous ([separator].intercalate texts) (joined tokenized) := by
  induction h generalizing previous with
  | nil => exact .nil previous
  | @cons text tokens texts tokenized hparse hrest ih =>
      have htokens := parse_eq_ok_iff.1 hparse
      have htext := hseparator text List.mem_cons_self
      have hothers : Tokenizes (some separator) ([separator].intercalate texts)
          (joined tokenized) :=
        ih
          (fun other hother =>
            hseparator other (List.mem_cons_of_mem text hother)) rfl
      cases hrest with
      | nil =>
          rw [List.intercalate_singleton]
          exact htokens.of_any hprevious
      | cons hnext hrest =>
          rw [intercalate_cons_cons, joined]
          split
          next hdirectories =>
            obtain rfl := (htokens.eq_directories htext
              (hdirectories ▸ List.mem_cons_self)).1
            exact tokenizes_directories hprevious hothers
          next hdirectories =>
            refine htokens.append (fun hmem => ?_) hothers previous
            exact hdirectories (htokens.eq_directories htext hmem).2

/-! ## Components of tokens -/

namespace Component

def ofTokens (tokens : List Token) : Component :=
  if tokens = [.anyDirectories] then .directories
  else
    match nameOf? tokens with
    | some name => .exactly name
    | none => .pattern tokens

theorem parse_eq_map (text : Path) :
    Component.parse text = (Glob.parse text).map ofTokens := by
  unfold Component.parse ofTokens
  cases Glob.parse text with
  | error fault => rfl
  | ok tokens =>
      dsimp only [bind, Except.bind, Except.map]
      split
      · rfl
      · cases nameOf? tokens <;> rfl

theorem nameOf?_char_cons (c : Char) (tokens : List Token) :
    nameOf? (.char c :: tokens) = (nameOf? tokens).map (c :: ·) := by
  rw [nameOf?, nameOf?, List.mapM_cons]
  generalize List.mapM (m := Option) _ tokens = rest
  cases rest <;> rfl

theorem eq_map_char_of_nameOf? (h : nameOf? tokens = some name) :
    tokens = name.map Token.char := by
  induction tokens generalizing name with
  | nil =>
      cases h
      rfl
  | cons token tokens ih =>
      cases token with
      | char c =>
          rw [nameOf?_char_cons, Option.map_eq_some_iff] at h
          rcases h with ⟨rest, hrest, rfl⟩
          exact congrArg (Token.char c :: ·) (ih hrest)
      | anyChar => cases h
      | charClass negated ranges => cases h
      | anySequence => cases h
      | anyDirectories => cases h

end Component

theorem reads_map_char_iff {passes : Char → Prop} :
    Reads passes (text.map Token.char) name ↔ name = text := by
  induction text generalizing name with
  | nil =>
      constructor
      · intro h
        cases h
        rfl
      · rintro rfl
        exact .nil
  | cons c rest ih =>
      rw [List.map_cons, reads_cons_char_iff]
      simp only [ih]
      constructor
      · rintro ⟨_, rfl, rfl⟩
        rfl
      · exact fun h => ⟨rest, h, rfl⟩

theorem ofTokens_eq_exactly (h : Component.ofTokens tokens = .exactly name) :
    tokens = name.map Token.char := by
  rw [Component.ofTokens] at h
  split at h
  · cases h
  · split at h
    next htext =>
      cases h
      exact Component.eq_map_char_of_nameOf? htext
    next => cases h

/-- A component accepts the names that its tokens stand for. -/
theorem accepts_ofTokens (h : tokens ≠ [.anyDirectories]) :
    (Component.ofTokens tokens).accepts name = true ↔
      accepts tokens name = true := by
  rw [Component.ofTokens, if_neg h]
  split
  next text htext =>
    rw [Component.eq_map_char_of_nameOf? htext, accepts_iff_reads,
      reads_map_char_iff, Component.accepts, decide_eq_true_eq]
    exact eq_comm
  next => exact Iff.rfl

theorem ofTokens_eq_directories_iff :
    Component.ofTokens tokens = .directories ↔ tokens = [.anyDirectories] := by
  rw [Component.ofTokens]
  split
  next h => exact ⟨fun _ => h, fun _ => rfl⟩
  next h =>
    constructor
    · intro heq
      split at heq <;> cases heq
    · exact fun heq => absurd heq h

theorem exists_of_mapM_parse (h : texts.mapM Component.parse = .ok components) :
    ∃ tokenized,
      List.Forall₂ (fun text tokens => parse text = .ok tokens) texts
        tokenized ∧
      components = tokenized.map Component.ofTokens := by
  induction texts generalizing components with
  | nil =>
      cases h
      exact ⟨[], .nil, rfl⟩
  | cons text rest ih =>
      rw [List.mapM_cons, Component.parse_eq_map] at h
      rcases exists_of_bind_eq_ok h with ⟨component, hcomponent, h⟩
      rcases exists_of_bind_eq_ok h with ⟨others, hothers, h⟩
      cases h
      rcases exists_of_map_eq_ok hcomponent with ⟨tokens, hparse, rfl⟩
      rcases ih hothers with ⟨tokenized, htokenized, rfl⟩
      exact ⟨tokens :: tokenized, .cons hparse htokenized, rfl⟩

/-! ## Names that components lead along -/

/-- The components lead along the names: each along one that it accepts, and
`**` along any, if others follow it, else along one or more. -/
inductive Leads : List Component → List Path → Prop
  | nil : Leads [] []
  | name {component : Component} {components : List Component} {name : Path}
      {names : List Path}
      (hne : component ≠ .directories)
      (haccepts : component.accepts name = true) (h : Leads components names) :
      Leads (component :: components) (name :: names)
  | all {names : List Path} (hne : names ≠ []) : Leads [.directories] names
  | directories {components : List Component} {names : List Path}
      (way : List Path) (hne : components ≠ [])
      (h : Leads components names) :
      Leads (.directories :: components) (way ++ names)

theorem Leads.ne_nil (h : Leads components names)
    (hcomponents : components ≠ []) : names ≠ [] := by
  induction h with
  | nil => exact absurd rfl hcomponents
  | name => exact List.cons_ne_nil _ _
  | all hne => exact hne
  | directories way hne h ih =>
      exact List.append_ne_nil_of_right_ne_nil way (ih hne)

/-- A component other than `**` leads along one name. -/
theorem leads_cons_iff (hne : component ≠ .directories) :
    Leads (component :: components) names ↔
      ∃ name rest, names = name :: rest ∧ component.accepts name = true ∧
        Leads components rest := by
  constructor
  · intro h
    cases h with
    | name _ haccepts h => exact ⟨_, _, rfl, haccepts, h⟩
    | all => exact absurd rfl hne
    | directories => exact absurd rfl hne
  · rintro ⟨name, rest, rfl, haccepts, h⟩
    exact .name hne haccepts h

theorem leads_ofTokens_iff (h : tokens ≠ [.anyDirectories]) :
    Leads (Component.ofTokens tokens :: components) names ↔
      ∃ name rest, names = name :: rest ∧ accepts tokens name = true ∧
        Leads components rest := by
  rw [leads_cons_iff fun heq => h (ofTokens_eq_directories_iff.1 heq)]
  simp only [accepts_ofTokens h]

theorem leads_directories_iff (hne : components ≠ []) :
    Leads (.directories :: components) names ↔
      ∃ way rest, names = way ++ rest ∧ Leads components rest := by
  constructor
  · intro h
    cases h with
    | name hdirectories => exact absurd rfl hdirectories
    | all => exact absurd rfl hne
    | directories way _ h => exact ⟨way, _, rfl, h⟩
  · rintro ⟨way, rest, rfl, h⟩
    exact .directories way hne h

theorem leads_singleton_directories_iff :
    Leads [.directories] names ↔ names ≠ [] := by
  constructor
  · exact fun h => h.ne_nil (List.cons_ne_nil _ _)
  · exact .all

theorem Leads.prepend (way : List Path)
    (h : Leads (.directories :: components) names) :
    Leads (.directories :: components) (way ++ names) := by
  by_cases hne : components = []
  · subst hne
    have hnames := leads_singleton_directories_iff.1 h
    exact .all (List.append_ne_nil_of_right_ne_nil way hnames)
  · rcases (leads_directories_iff hne).1 h with ⟨further, rest, rfl, hrest⟩
    rw [← List.append_assoc]
    exact .directories (way ++ further) hne hrest

/-! ## Several `**` in a row -/

theorem collapse_cons (h : component ≠ .directories)
    (components : List Component) :
    collapse (component :: components) = component :: collapse components := by
  rw [collapse]
  exact h

theorem collapse_directories (components : List Component) :
    (∃ rest, collapse components = .directories :: rest ∧
        collapse (.directories :: components) = .directories :: rest) ∨
      ((collapse components).head? ≠ some .directories ∧
        collapse (.directories :: components)
          = .directories :: collapse components) := by
  rw [collapse]
  split
  next rest heq => exact .inl ⟨rest, heq, rfl⟩
  next hrest =>
    refine .inr ⟨fun hhead => ?_, rfl⟩
    rcases List.head?_eq_some_iff.1 hhead with ⟨rest, heq⟩
    exact hrest rest heq

theorem collapse_eq_nil_iff : collapse components = [] ↔ components = [] := by
  cases components with
  | nil => exact Iff.rfl
  | cons component rest =>
      refine iff_of_false ?_ (List.cons_ne_nil _ _)
      by_cases hdirectories : component = .directories
      · subst hdirectories
        rcases collapse_directories rest with ⟨others, _, heq⟩ | ⟨_, heq⟩ <;>
          rw [heq] <;> exact List.cons_ne_nil _ _
      · rw [collapse_cons hdirectories]
        exact List.cons_ne_nil _ _

theorem getLast?_collapse (components : List Component) :
    (collapse components).getLast? = components.getLast? := by
  induction components with
  | nil => rfl
  | cons component rest ih =>
      have hlast : (component :: collapse rest).getLast?
          = (component :: rest).getLast? := by
        rw [List.getLast?_cons, List.getLast?_cons, ih]
      by_cases hdirectories : component = .directories
      · subst hdirectories
        rcases collapse_directories rest with ⟨others, hrest, heq⟩ | ⟨_, heq⟩
        · rw [heq, ← hlast, hrest]
          simp [List.getLast?_cons]
        · rw [heq, hlast]
      · rw [collapse_cons hdirectories, hlast]

theorem mem_of_mem_collapse (h : component ∈ collapse components) :
    component ∈ components := by
  induction components with
  | nil => exact h
  | cons first rest ih =>
      by_cases hdirectories : first = .directories
      · subst hdirectories
        rcases collapse_directories rest with ⟨others, hrest, heq⟩ | ⟨_, heq⟩
        · rw [heq, ← hrest] at h
          exact List.mem_cons_of_mem _ (ih h)
        · rw [heq] at h
          rcases List.mem_cons.1 h with rfl | hmem
          · exact List.mem_cons_self
          · exact List.mem_cons_of_mem _ (ih hmem)
      · rw [collapse_cons hdirectories] at h
        rcases List.mem_cons.1 h with rfl | hmem
        · exact List.mem_cons_self
        · exact List.mem_cons_of_mem _ (ih hmem)

/-- No `**` stands behind another one. -/
def IsReduced : List Component → Prop
  | [] => True
  | component :: rest =>
    (component = .directories → rest.head? ≠ some .directories) ∧ IsReduced rest

theorem isReduced_collapse (components : List Component) :
    IsReduced (collapse components) := by
  induction components with
  | nil => trivial
  | cons component rest ih =>
      by_cases hdirectories : component = .directories
      · subst hdirectories
        rcases collapse_directories rest with
          ⟨others, hrest, heq⟩ | ⟨hhead, heq⟩
        · rw [heq, ← hrest]
          exact ih
        · rw [heq]
          exact ⟨fun _ => hhead, ih⟩
      · rw [collapse_cons hdirectories]
        exact ⟨fun heq => absurd heq hdirectories, ih⟩

theorem leads_collapse_iff :
    Leads (collapse components) names ↔ Leads components names := by
  induction components generalizing names with
  | nil => exact Iff.rfl
  | cons component rest ih =>
      by_cases hdirectories : component = .directories
      · subst hdirectories
        by_cases hnil : rest = []
        · subst hnil
          exact Iff.rfl
        · rw [leads_directories_iff hnil]
          rcases collapse_directories rest with ⟨others, hrest, heq⟩ | ⟨_, heq⟩
          · rw [heq, ← hrest, ih]
            constructor
            · exact fun h => ⟨[], names, rfl, h⟩
            · rintro ⟨way, further, rfl, h⟩
              have hfurther := ih.2 h
              rw [hrest] at hfurther
              exact ih.1 (hrest ▸ hfurther.prepend way)
          · rw [heq, leads_directories_iff
              fun hrest => hnil (collapse_eq_nil_iff.1 hrest)]
            simp only [ih]
      · rw [collapse_cons hdirectories, leads_cons_iff hdirectories,
          leads_cons_iff hdirectories]
        simp only [ih]

/-! ## Readings that pass no separator -/

theorem Reads.separator_notMem (h : Reads (· ≠ separator) tokens text)
    (hchar : .char separator ∉ tokens)
    (hdirectories : .anyDirectories ∉ tokens) : separator ∉ text := by
  induction h with
  | nil => exact List.not_mem_nil
  | one hadmits hpasses h ih =>
      refine List.not_mem_cons_of_ne_of_not_mem ?_
        (ih (List.not_mem_of_not_mem_cons hchar)
          (List.not_mem_of_not_mem_cons hdirectories))
      rintro rfl
      rcases hpasses with rfl | hpasses
      · exact hchar List.mem_cons_self
      · exact hpasses rfl
  | sequence part hpart h ih =>
      rw [List.mem_append, not_or]
      exact ⟨fun hmem => hpart _ hmem rfl,
        ih (List.not_mem_of_not_mem_cons hchar)
          (List.not_mem_of_not_mem_cons hdirectories)⟩
  | anything => exact absurd List.mem_cons_self hdirectories
  | stay => exact absurd List.mem_cons_self hdirectories
  | enter => exact absurd List.mem_cons_self hdirectories

/-- Names that are cut at a separator of their text. -/
theorem exists_append_of_intercalate_eq {front back : Path}
    (hnames : names ≠ []) (hseparator : ∀ name ∈ names, separator ∉ name)
    (h : [separator].intercalate names = front ++ separator :: back) :
    names = front.splitOn separator ++ back.splitOn separator ∧
      [separator].intercalate (front.splitOn separator) = front ∧
      [separator].intercalate (back.splitOn separator) = back := by
  have hsplit := congrArg (List.splitOn separator) h
  rw [List.splitOn_intercalate separator hseparator hnames,
    List.splitOn_append_cons_self] at hsplit
  exact ⟨hsplit, List.intercalate_splitOn separator,
    List.intercalate_splitOn separator⟩

theorem eq_singleton_of_separator_notMem (hnames : names ≠ [])
    (hseparator : separator ∉ [separator].intercalate names) :
    names = [[separator].intercalate names] := by
  cases names with
  | nil => exact absurd rfl hnames
  | cons name rest =>
      cases rest with
      | nil => rw [List.intercalate_singleton]
      | cons next rest =>
          rw [intercalate_cons_cons] at hseparator
          exact absurd (List.mem_append_right _ List.mem_cons_self) hseparator

theorem accepts_of_reads {passes : Char → Prop} (h : Reads passes tokens text) :
    accepts tokens text = true :=
  (h.of_forall fun _ _ => trivial).accepts

theorem reads_of_separator_notMem (h : accepts tokens name = true)
    (hseparator : separator ∉ name) :
    Reads (· ≠ separator) tokens name := by
  apply (reads_of_accepts h).of_forall
  rintro c hc rfl
  exact hseparator hc

section step

variable {more : List Token}

theorem reads_directories_iff (hmore : more ≠ []) (hnames : names ≠ [])
    (hseparator : ∀ name ∈ names, separator ∉ name) :
    Reads (· ≠ separator) (.anyDirectories :: more)
      ([separator].intercalate names) ↔
      ∃ way back, names = way ++ back ∧ back ≠ [] ∧
        Reads (· ≠ separator) more ([separator].intercalate back) := by
  constructor
  · intro h
    generalize htext : [separator].intercalate names = text at h
    cases h with
    | one hadmits => cases hadmits
    | anything => exact absurd rfl hmore
    | stay h => exact ⟨[], names, rfl, hnames, htext ▸ h⟩
    | enter part h =>
        rcases exists_append_of_intercalate_eq hnames hseparator htext with
          ⟨hsplit, _, hback⟩
        exact ⟨_, _, hsplit, List.splitOn_ne_nil _ _, hback.symm ▸ h⟩
  · rintro ⟨way, back, rfl, hback, h⟩
    by_cases hway : way = []
    · rw [hway]
      exact .stay h
    · rw [intercalate_append hway hback]
      exact .enter _ h

theorem reads_component_iff (h : IsComponent tokens)
    (hdirectories : .anyDirectories ∉ tokens) (hnames : names ≠ [])
    (hseparator : ∀ name ∈ names, separator ∉ name) :
    Reads (· ≠ separator) (tokens ++ .char separator :: more)
      ([separator].intercalate names) ↔
      ∃ name back, names = name :: back ∧ back ≠ [] ∧
        accepts tokens name = true ∧
        Reads (· ≠ separator) more ([separator].intercalate back) := by
  rw [reads_append_iff hdirectories]
  constructor
  · rintro ⟨front, behind, htext, hfront, hbehind⟩
    rcases reads_cons_char_iff.1 hbehind with ⟨back, rfl, hback⟩
    rcases exists_append_of_intercalate_eq hnames hseparator htext with
      ⟨hsplit, _, hjoin⟩
    rw [List.splitOn_eq_singleton
      (hfront.separator_notMem h.separator_notMem hdirectories)] at hsplit
    exact ⟨front, _, hsplit, List.splitOn_ne_nil _ _, accepts_of_reads hfront,
      hjoin.symm ▸ hback⟩
  · rintro ⟨name, back, rfl, hback, haccepts, hreads⟩
    refine ⟨name, separator :: [separator].intercalate back, ?_, ?_, ?_⟩
    · rw [List.intercalate_cons_of_ne_nil hback, List.append_assoc]
      rfl
    · exact reads_of_separator_notMem haccepts
        (hseparator name List.mem_cons_self)
    · exact reads_cons_char_iff.2 ⟨_, rfl, hreads⟩

theorem reads_last_iff (h : IsComponent tokens)
    (hdirectories : .anyDirectories ∉ tokens) (hnames : names ≠ [])
    (hseparator : ∀ name ∈ names, separator ∉ name) :
    Reads (· ≠ separator) tokens ([separator].intercalate names) ↔
      ∃ name, names = [name] ∧ accepts tokens name = true := by
  constructor
  · intro hreads
    have hname := eq_singleton_of_separator_notMem hnames
      (hreads.separator_notMem h.separator_notMem hdirectories)
    exact ⟨_, hname, accepts_of_reads hreads⟩
  · rintro ⟨name, rfl, haccepts⟩
    rw [List.intercalate_singleton]
    exact reads_of_separator_notMem haccepts
      (hseparator name List.mem_cons_self)

theorem reads_last_iff_leads (h : IsComponent tokens) (hnames : names ≠ [])
    (hseparator : ∀ name ∈ names, separator ∉ name) :
    Reads (· ≠ separator) tokens ([separator].intercalate names) ↔
      Leads [Component.ofTokens tokens] names := by
  by_cases hdirectories : tokens = [.anyDirectories]
  · rw [hdirectories, ofTokens_eq_directories_iff.2 rfl,
      leads_singleton_directories_iff]
    exact iff_of_true (.anything _) hnames
  · have hmem : .anyDirectories ∉ tokens :=
      fun hmem => hdirectories (h.eq_of_mem hmem)
    rw [reads_last_iff h hmem hnames hseparator,
      leads_ofTokens_iff hdirectories]
    constructor
    · rintro ⟨name, rfl, haccepts⟩
      exact ⟨name, [], rfl, haccepts, .nil⟩
    · rintro ⟨name, others, rfl, haccepts, hnil⟩
      cases hnil
      exact ⟨name, rfl, haccepts⟩

end step

/-- Where wildcards pass no separator, the tokens of a pattern stand for the
names that its components lead along. -/
theorem reads_joined_iff (h : ∀ tokens ∈ tokenized, IsComponent tokens)
    (hne : tokenized ≠ []) (hnames : names ≠ [])
    (hseparator : ∀ name ∈ names, separator ∉ name) :
    Reads (· ≠ separator) (joined tokenized) ([separator].intercalate names) ↔
      Leads (tokenized.map Component.ofTokens) names := by
  induction tokenized generalizing names with
  | nil => exact absurd rfl hne
  | cons tokens rest ih =>
      have htokens := h tokens List.mem_cons_self
      have hothers : ∀ tokens ∈ rest, IsComponent tokens :=
        fun other hother => h other (List.mem_cons_of_mem _ hother)
      cases rest with
      | nil =>
          rw [joined, List.map_singleton]
          exact reads_last_iff_leads htokens hnames hseparator
      | cons next rest =>
          have hmore := joined_ne_nil hothers (List.cons_ne_nil next rest)
          have hcomponents : (next :: rest).map Component.ofTokens ≠ [] :=
            List.cons_ne_nil _ _
          have hbehind : ∀ way back, names = way ++ back → back ≠ [] →
              (Reads (· ≠ separator) (joined (next :: rest))
                ([separator].intercalate back) ↔
                Leads ((next :: rest).map Component.ofTokens) back) := by
            rintro way back rfl hback
            exact ih hothers (List.cons_ne_nil _ _) hback fun name hname =>
              hseparator name (List.mem_append_right way hname)
          rw [joined, List.map_cons]
          by_cases hdirectories : tokens = [.anyDirectories]
          · rw [if_pos hdirectories, ofTokens_eq_directories_iff.2 hdirectories,
              reads_directories_iff hmore hnames hseparator,
              leads_directories_iff hcomponents]
            constructor
            · rintro ⟨way, back, heq, hback, hreads⟩
              exact ⟨way, back, heq, (hbehind way back heq hback).1 hreads⟩
            · rintro ⟨way, back, heq, hleads⟩
              have hback := hleads.ne_nil hcomponents
              exact ⟨way, back, heq, hback,
                (hbehind way back heq hback).2 hleads⟩
          · have hmem : .anyDirectories ∉ tokens :=
              fun hmem => hdirectories (htokens.eq_of_mem hmem)
            rw [if_neg hdirectories,
              reads_component_iff htokens hmem hnames hseparator,
              leads_ofTokens_iff hdirectories]
            constructor
            · rintro ⟨name, back, heq, hback, haccepts, hreads⟩
              exact ⟨name, back, heq, haccepts,
                (hbehind [name] back heq hback).1 hreads⟩
            · rintro ⟨name, back, heq, haccepts, hleads⟩
              have hback := hleads.ne_nil hcomponents
              exact ⟨name, back, heq, hback, haccepts,
                (hbehind [name] back heq hback).2 hleads⟩

end Glob
end BuildHost
