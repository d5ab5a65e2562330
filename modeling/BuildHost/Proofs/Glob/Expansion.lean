import BuildHost.Proofs.FileSystem.Normal
import BuildHost.Proofs.Glob.Listing

/-!
# Patterns that are resolved

What the pattern at a place lists (`mem_map_asWritten_iff`): the existing paths
that its tokens stand for without a wildcard passing a separator, and
directories alone where the pattern ends in `**`.
-/

namespace BuildHost
namespace Glob

open BuildHost.Path BuildHost.Disk

variable {disk : Disk} {location : DiskLocation} {dir p pattern : Path}
  {names texts found : List Path} {components : List Component}
  {tokens : List Token} {tokenized : List (List Token)} {root : Root}
  {segments : List Path}

/-! ## Texts of walks -/

theorem getLast?_child_ne {name : Path} (hne : name ≠ [])
    (hseparator : separator ∉ name) (dir : Path) :
    (child dir name).getLast? ≠ some separator := by
  rcases exists_child_eq dir name with ⟨more, hchild, hmore⟩
  have hlast : (child dir name).getLast? = name.getLast? := by
    rcases hmore with rfl | rfl
    · rw [hchild, List.getLast?_append_of_ne_nil _ hne]
    · rw [hchild, List.getLast?_append_of_ne_nil _ (List.cons_ne_nil _ _),
        List.getLast?_cons, List.getLast?_eq_some_getLast hne]
      rfl
  rw [hlast]
  exact fun heq => hseparator (List.mem_of_getLast? heq)

theorem foldl_child_eq (hdir : dir.getLast? ≠ some separator)
    (hnames : names ≠ [])
    (hlegal : ∀ name ∈ names, name ≠ [] ∧ separator ∉ name) :
    names.foldl child dir
      = dir ++ separator :: [separator].intercalate names := by
  induction names generalizing dir with
  | nil => exact absurd rfl hnames
  | cons name rest ih =>
      rcases hlegal name List.mem_cons_self with ⟨hne, hseparator⟩
      have hchild : child dir name = dir ++ separator :: name := if_neg hdir
      by_cases hrest : rest = []
      · rw [hrest, List.intercalate_singleton]
        exact hchild
      · rw [List.foldl_cons,
          ih (getLast?_child_ne hne hseparator dir) hrest fun other hother =>
          hlegal other (List.mem_cons_of_mem _ hother), hchild,
            List.intercalate_cons_of_ne_nil hrest,
          List.append_assoc, List.append_assoc]
        rfl

/-- The text of a root that no name spells. -/
def lead : Root → Path
  | .slash => [separator]
  | _ => []

theorem render_eq_lead_append (hroot : root.isRooted = true)
    (hne : segments ≠ []) :
    render root segments
      = lead root ++ [separator].intercalate (root.segments ++ segments) := by
  rw [render_of_isRooted hroot]
  cases root with
  | none => cases hroot
  | slash => rfl
  | drive letter =>
      have hsegments : (Root.drive letter).segments ++ segments
          = [letter, ':'] :: segments := rfl
      rw [hsegments, List.intercalate_cons_of_ne_nil hne]
      rfl

/-- A listed path as it is written: where a walk starts at the working folder,
without the dot for it. -/
def asWritten : Path → Path
  | '.' :: '/' :: rest => rest
  | p => p

theorem asWritten_foldl_child (root : Root) (hnames : names ≠ [])
    (hlegal : ∀ name ∈ names, name ≠ [] ∧ separator ∉ name) :
    asWritten (names.foldl child (walkStart root))
      = lead root ++ [separator].intercalate names := by
  have hhere : asWritten (names.foldl child here)
      = [separator].intercalate names := by
    rw [foldl_child_eq (by decide) hnames hlegal]
    rfl
  cases root with
  | none => exact hhere
  | drive letter => exact hhere
  | slash =>
      cases names with
      | nil => exact absurd rfl hnames
      | cons name rest =>
          rcases hlegal name List.mem_cons_self with ⟨hne, hseparator⟩
          have hchild : child Root.slash.text name = separator :: name := rfl
          have htext : (name :: rest).foldl child Root.slash.text
              = separator :: [separator].intercalate (name :: rest) := by
            by_cases hrest : rest = []
            · rw [hrest, List.intercalate_singleton]
              exact hchild
            · rw [List.foldl_cons,
                foldl_child_eq (getLast?_child_ne hne hseparator _) hrest
                  fun other hother =>
                hlegal other (List.mem_cons_of_mem _ hother), hchild,
                  List.intercalate_cons_of_ne_nil hrest,
                List.append_assoc]
              rfl
          exact congrArg asWritten htext

/-! ## Components of places -/

/-- Where the walk along a pattern starts, and the text that its components are
read from. -/
def startAndRest : Path → Path × Path
  | '/' :: rest => (Root.slash.text, rest)
  | rest => (here, rest)

theorem startAndRest_lead_append {names : List Path}
    (hroot : root.isRooted = true)
    (hhead : (([separator].intercalate names).head?) ≠ some separator) :
    startAndRest (lead root ++ [separator].intercalate names)
      = (walkStart root, [separator].intercalate names) := by
  cases root with
  | none => cases hroot
  | slash => rfl
  | drive letter =>
      show startAndRest ([separator].intercalate names)
        = (here, [separator].intercalate names)
      unfold startAndRest
      split
      next heq =>
        rw [heq] at hhead
        exact absurd rfl hhead
      next => rfl

theorem of_find_eq_ok (h : find disk pattern = .ok found) :
    ∃ tokens components, parse pattern = .ok tokens ∧
      (componentTexts (startAndRest pattern).2).mapM Component.parse
        = .ok components ∧
      found = walk disk (collapse components) (startAndRest pattern).1 := by
  have hwalk : parseWalk pattern = (do
      let _ ← parse pattern
      let components ← (componentTexts (startAndRest pattern).2).mapM
          Component.parse
      return ((startAndRest pattern).1, collapse components)) := by
    unfold parseWalk
    split
    next start rest heq =>
      have hstart : startAndRest pattern = (start, rest) := heq
      rw [hstart]
  rw [find, hwalk] at h
  rcases exists_of_bind_eq_ok h with ⟨_, hparts, h⟩
  rcases exists_of_bind_eq_ok hparts with ⟨tokens, hparse, hparts⟩
  rcases exists_of_bind_eq_ok hparts with ⟨components, hcomponents, hparts⟩
  cases hparts
  cases h
  exact ⟨tokens, components, hparse, hcomponents, rfl⟩

theorem componentTexts_intercalate (hne : names ≠ [])
    (hlegal : ∀ name ∈ names, name ≠ [] ∧ separator ∉ name) :
    componentTexts ([separator].intercalate names) = names := by
  have hlast : names.getLast? ≠ some [] :=
    fun heq => (hlegal [] (List.mem_of_getLast? heq)).1 rfl
  rw [componentTexts,
    List.splitOn_intercalate separator
      (fun name hname => (hlegal name hname).2) hne]
  exact if_neg hlast

/-- A segment of a place is a name that can be read back. -/
theorem isPlain_of_place (h : IsPlace root segments) :
    ∀ name ∈ root.segments ++ segments, IsPlain name :=
  List.forall_mem_append.2 ⟨Root.isPlain_segments h.isReadable, h.isPlain⟩

theorem legal_of_place (h : IsPlace root segments) :
    ∀ name ∈ root.segments ++ segments, name ≠ [] ∧ separator ∉ name :=
  fun name hname =>
    ⟨(isPlain_of_place h name hname).ne_nil,
      (isPlain_of_place h name hname).separator_notMem⟩

theorem isComponent_of_forall₂
    (h : List.Forall₂ (fun text tokens => parse text = .ok tokens) texts
      tokenized)
    (hlegal : ∀ text ∈ texts, text ≠ [] ∧ separator ∉ text) :
    ∀ tokens ∈ tokenized, IsComponent tokens := by
  induction h with
  | nil => exact List.forall_mem_nil _
  | cons hparse hrest ih =>
      rcases hlegal _ List.mem_cons_self with ⟨hne, hseparator⟩
      exact List.forall_mem_cons.2 ⟨isComponent_of_parse hparse hne hseparator,
        ih fun text htext => hlegal text (List.mem_cons_of_mem _ htext)⟩

/-- The tokens of a pattern at a place, and how it is walked along. -/
structure IsResolved (root : Root) (segments : List Path) (tokens : List Token)
    (tokenized : List (List Token)) : Prop where
  parts : List.Forall₂ (fun text tokens => parse text = .ok tokens)
    (root.segments ++ segments) tokenized
  isComponent : ∀ tokens ∈ tokenized, IsComponent tokens
  ne_nil : tokenized ≠ []
  tokens_eq : tokens = (lead root).map Token.char ++ joined tokenized

theorem exists_isResolved (h : IsPlace root segments) (hne : segments ≠ [])
    (hparse : parse (render root segments) = .ok tokens)
    (hfound : find disk (render root segments) = .ok found) :
    ∃ tokenized, IsResolved root segments tokens tokenized ∧
      found
        = walk disk (collapse (tokenized.map Component.ofTokens))
          (walkStart root) := by
  have hlegal := legal_of_place h
  have hnames : root.segments ++ segments ≠ [] :=
    List.append_ne_nil_of_right_ne_nil _ hne
  have hseparator : ∀ name ∈ root.segments ++ segments, separator ∉ name :=
    fun name hname => (hlegal name hname).2
  rw [render_eq_lead_append h.isRooted hne] at hparse hfound
  rcases of_find_eq_ok hfound with ⟨_, components, _, hcomponents, rfl⟩
  rw [startAndRest_lead_append h.isRooted (head?_intercalate_ne hlegal)]
    at hcomponents ⊢
  rw [componentTexts_intercalate hnames hlegal] at hcomponents
  rcases exists_of_mapM_parse hcomponents with ⟨tokenized, htokenized, rfl⟩
  refine ⟨tokenized,
    ⟨htokenized, isComponent_of_forall₂ htokenized hlegal, ?_, ?_⟩, rfl⟩
  · rintro rfl
    cases hsegments : root.segments ++ segments with
    | nil => exact hnames hsegments
    | cons name rest =>
        rw [hsegments] at htokenized
        cases htokenized
  · have hwhole : parse
        (lead root ++ [separator].intercalate (root.segments ++ segments))
        = .ok ((lead root).map Token.char ++ joined tokenized) := by
      rw [parse_eq_ok_iff]
      cases hroot : root with
      | none => cases hroot ▸ h.isRooted
      | slash =>
          rw [hroot] at htokenized hseparator
          exact tokenizes_cons_literal (by decide)
            (tokenizes_intercalate htokenized hseparator rfl) none
      | drive letter =>
          rw [hroot] at htokenized hseparator
          exact tokenizes_intercalate htokenized hseparator rfl
    exact Except.ok.inj (hparse.symm.trans hwhole)

theorem reads_map_char_append_iff {passes : Char → Prop} {front text : Path} :
    Reads passes (front.map Token.char ++ tokens) text ↔
      ∃ rest, text = front ++ rest ∧ Reads passes tokens rest := by
  have hdirectories : .anyDirectories ∉ front.map Token.char := by
    intro hmem
    rcases List.mem_map.1 hmem with ⟨c, _, heq⟩
    cases heq
  rw [reads_append_iff hdirectories]
  constructor
  · rintro ⟨_, rest, rfl, hfront, hrest⟩
    rw [reads_map_char_iff.1 hfront]
    exact ⟨rest, rfl, hrest⟩
  · rintro ⟨rest, rfl, hrest⟩
    exact ⟨front, rest, rfl, reads_map_char_iff.2 rfl, hrest⟩

theorem isLiteral_of_mem_text (h : root.IsReadable) :
    ∀ c ∈ root.text, IsLiteral c := by
  cases root with
  | none => exact List.forall_mem_nil _
  | slash => exact List.forall_mem_singleton.2 (by decide)
  | drive letter =>
      have hletter : IsLiteral letter := by
        have halpha : letter.isAlpha = true := h
        refine ⟨?_, ?_, ?_⟩ <;> rintro rfl <;> cases halpha
      have hrest : ∀ c ∈ [':', separator], IsLiteral c :=
        List.forall_mem_cons.2
          ⟨by decide, List.forall_mem_singleton.2 (by decide)⟩
      exact List.forall_mem_cons.2 ⟨hletter, hrest⟩

/-- What a pattern at a root stands for starts with the root. -/
theorem text_isPrefix_of_reads {passes : Char → Prop} {text : Path}
    (h : IsPlace root segments)
    (hparse : parse (render root segments) = .ok tokens)
    (hreads : Reads passes tokens text) : root.text <+: text := by
  rw [render_of_isRooted h.isRooted, parse_eq_ok_iff] at hparse
  rcases hparse.exists_of_literal (isLiteral_of_mem_text h.isReadable) with
    ⟨more, rfl⟩
  rcases reads_map_char_append_iff.1 hreads with ⟨rest, rfl, _⟩
  exact List.prefix_append _ rest

theorem eq_of_text_isPrefix {troot : Root} {tsegments : List Path}
    (h : IsPlace root segments) (ht : IsPlace troot tsegments)
    (htext : root.text <+: render troot tsegments) : root = troot := by
  rcases htext with ⟨rest, hrest⟩
  have hsplit := ht.splitRoot_render
  rw [← hrest, splitRoot_text h.isReadable h.isRooted] at hsplit
  exact congrArg Prod.fst hsplit

theorem legal_of_isMet {name : Path} (h : IsMet components name)
    (hexactly : ∀ name, .exactly name ∈ components →
      name ≠ [] ∧ separator ∉ name) : name ≠ [] ∧ separator ∉ name := by
  cases h with
  | entry h => exact ⟨h.ne_nil, h.separator_notMem⟩
  | dots h => rcases h with rfl | rfl <;> decide
  | spelled h => exact hexactly name h

theorem follow_foldl_child_iff (h : IsPlace root segments)
    (hne : segments ≠ []) :
    disk.follow ((root.segments ++ segments).foldl child (walkStart root))
      = .ok location ↔
      disk.follow (render root segments) = .ok location := by
  have hplain := isPlain_of_place h
  have hseparator : ∀ name ∈ root.segments ++ segments,
      separator ∉ name := fun name hname =>
    (hplain name hname).separator_notMem
  rw [follow_render_eq_ok_iff h hne]
  constructor
  · intro hfollow
    exact followNames_of_follow_foldl_child hseparator
      (moves_of_isPlain hplain) hfollow
  · rintro ⟨hzero, hnames⟩
    have hstart := isFolderAt_of_followNames hnames
      (List.append_ne_nil_of_right_ne_nil _ hne)
    exact follow_foldl_child (follow_walkStart hstart) hnames fun name hname =>
      ⟨hseparator name hname, hzero name hname⟩

theorem isDirectory_foldl_child_iff (h : IsPlace root segments)
    (hne : segments ≠ []) :
    disk.isDirectory ((root.segments ++ segments).foldl child (walkStart root))
      = true ↔
      disk.isDirectory (render root segments) = true := by
  rw [isDirectory_iff, isDirectory_iff]
  simp only [follow_foldl_child_iff h hne]

/-- An existing place is an entry behind the start of its walk. -/
theorem mem_entries_of_exists? (h : IsPlace root segments) (hne : segments ≠ [])
    (hexists : disk.exists? (render root segments) = true) :
    disk.follow (walkStart root) = .ok (disk.startAt root) ∧
      disk.startAt root ++ (root.segments ++ segments)
        ∈ disk.entries.map (·.1) := by
  have hnames : root.segments ++ segments ≠ [] :=
    List.append_ne_nil_of_right_ne_nil _ hne
  rcases exists?_iff.1 hexists with ⟨location, hfollow, hsome⟩
  have hreached := ((follow_render_eq_ok_iff h hne).1 hfollow).2
  rw [eq_append_of_followNames hreached (isPlain_of_place h)] at hsome
  exact ⟨follow_walkStart (isFolderAt_of_followNames hreached hnames),
    (isSome_entry?_iff (List.append_ne_nil_of_right_ne_nil _ hnames)).1 hsome⟩

/-! ## What is listed -/

section listing

variable {troot : Root} {tsegments : List Path}

theorem IsResolved.legal_of_exactly {name : Path}
    (h : IsResolved root segments tokens tokenized)
    (hname : .exactly name ∈ collapse (tokenized.map Component.ofTokens)) :
    name ≠ [] ∧ separator ∉ name := by
  rcases List.mem_map.1 (mem_of_mem_collapse hname) with ⟨part, hpart, heq⟩
  have hcomponent := h.isComponent part hpart
  rw [ofTokens_eq_exactly heq] at hcomponent
  constructor
  · rintro rfl
    exact hcomponent.ne_nil rfl
  · exact fun hmem => hcomponent.separator_notMem (List.mem_map_of_mem hmem)

theorem IsResolved.components_ne_nil
    (h : IsResolved root segments tokens tokenized) :
    tokenized.map Component.ofTokens ≠ [] :=
  fun hnil => h.ne_nil (List.map_eq_nil_iff.1 hnil)

/-- A pattern that ends in `**` is walked along with `**` at the end. -/
theorem IsResolved.getLast?_iff
    (h : IsResolved root segments tokens tokenized) :
    (collapse (tokenized.map Component.ofTokens)).getLast? = some .directories ↔
      tokens.getLast? = some .anyDirectories := by
  have hjoined := joined_ne_nil h.isComponent h.ne_nil
  rw [h.tokens_eq, List.getLast?_append_of_ne_nil _ hjoined,
    getLast?_joined h.isComponent, getLast?_collapse, List.getLast?_map,
    Option.map_eq_some_iff]
  constructor
  · rintro ⟨part, hpart, heq⟩
    rw [hpart, ofTokens_eq_directories_iff.1 heq]
  · exact fun hlast => ⟨_, hlast, ofTokens_eq_directories_iff.2 rfl⟩

theorem IsResolved.reads_iff (h : IsResolved root segments tokens tokenized)
    (hnames : names ≠ []) (hseparator : ∀ name ∈ names, separator ∉ name) :
    Reads (· ≠ separator) tokens (lead root ++ [separator].intercalate names) ↔
      Leads (collapse (tokenized.map Component.ofTokens)) names := by
  rw [leads_collapse_iff,
    ← reads_joined_iff h.isComponent h.ne_nil hnames hseparator, h.tokens_eq,
    reads_map_char_append_iff]
  constructor
  · rintro ⟨rest, heq, hreads⟩
    rw [List.append_cancel_left heq]
    exact hreads
  · exact fun hreads => ⟨_, rfl, hreads⟩

/-- A pattern lists the existing paths that its tokens stand for without a
wildcard passing a separator; one that ends in `**` lists directories alone. -/
theorem mem_map_asWritten_iff (htree : disk.IsTree) (h : IsPlace root segments)
    (hne : segments ≠ []) (hparse : parse (render root segments) = .ok tokens)
    (hfound : find disk (render root segments) = .ok found)
    (ht : IsPlace troot tsegments) (htne : tsegments ≠ [])
    (hexists : disk.exists? (render troot tsegments) = true) :
    render troot tsegments ∈ found.map asWritten ↔
      Reads (· ≠ separator) tokens (render troot tsegments) ∧
        (tokens.getLast? = some .anyDirectories →
          disk.isDirectory (render troot tsegments) = true) := by
  rcases exists_isResolved h hne hparse hfound with ⟨tokenized, hresolved, rfl⟩
  have htlegal := legal_of_place ht
  have htnames : troot.segments ++ tsegments ≠ [] :=
    List.append_ne_nil_of_right_ne_nil _ htne
  have htext := render_eq_lead_append ht.isRooted htne
  have hreduced := isReduced_collapse (tokenized.map Component.ofTokens)
  rw [List.mem_map]
  constructor
  · rintro ⟨q, hq, hwritten⟩
    rcases exists_isWay_of_mem_walk htree hreduced hq with ⟨names, hway, rfl⟩
    have hlegal : ∀ name ∈ names, name ≠ [] ∧
        separator ∉ name := fun name hname =>
      legal_of_isMet (hway.isMet name hname) fun _ => hresolved.legal_of_exactly
    have hnames := hway.leads.ne_nil fun hnil =>
      hresolved.components_ne_nil (collapse_eq_nil_iff.1 hnil)
    have hseparator : ∀ name ∈ names, separator ∉ name :=
      fun name hname => (hlegal name hname).2
    rw [asWritten_foldl_child root hnames hlegal, htext] at hwritten
    have hreads := (hresolved.reads_iff hnames hseparator).2 hway.leads
    rw [hwritten, ← htext] at hreads
    obtain rfl := eq_of_text_isPrefix h ht
      (text_isPrefix_of_reads h hparse hreads)
    have hsame := congrArg (List.splitOn separator)
      (List.append_cancel_left hwritten)
    rw [List.splitOn_intercalate separator hseparator hnames,
      List.splitOn_intercalate separator
        (fun name hname => (htlegal name hname).2) htnames] at hsame
    subst hsame
    refine ⟨hreads, fun hlast => (isDirectory_foldl_child_iff ht htne).1 ?_⟩
    exact hway.isDirectory (hresolved.getLast?_iff.2 hlast)
  · rintro ⟨hreads, hdirectory⟩
    obtain rfl := eq_of_text_isPrefix h ht
      (text_isPrefix_of_reads h hparse hreads)
    rcases mem_entries_of_exists? ht htne hexists with ⟨hstart, hentry⟩
    refine ⟨(root.segments ++ tsegments).foldl child (walkStart root), ?_, ?_⟩
    · rw [htext] at hreads
      have hleads := (hresolved.reads_iff htnames
        fun name hname => (htlegal name hname).2).1 hreads
      have halong : LeadsAlong disk
          (collapse (tokenized.map Component.ofTokens)) (disk.startAt root)
          (walkStart root) (root.segments ++ tsegments) := by
        refine ⟨hleads, hstart, fun _ => hentry, fun hlast => ?_⟩
        exact (isDirectory_foldl_child_iff ht htne).2
          (hdirectory (hresolved.getLast?_iff.1 hlast))
      exact halong.mem_walk htree hreduced
    · rw [asWritten_foldl_child root htnames htlegal, htext]

end listing

/-! ## What is listed exists -/

theorem mem_of_mem_componentTexts {rest text : Path}
    (h : text ∈ componentTexts rest) :
    text ∈ rest.splitOn separator := by
  unfold componentTexts at h
  dsimp only at h
  split at h
  · exact List.mem_of_mem_dropLast h
  · exact h

theorem exists_text_of_exactly {name : Path}
    (h : List.Forall₂ (fun text tokens => parse text = .ok tokens) texts
      tokenized)
    (hname : .exactly name ∈ tokenized.map Component.ofTokens) :
    ∃ text ∈ texts, ∀ c ∈ name, c ∈ text := by
  induction h with
  | nil => cases hname
  | @cons text tokens texts tokenized hparse hrest ih =>
      rcases List.mem_cons.1 hname with heq | hmem
      · refine ⟨text, List.mem_cons_self, fun c hc => ?_⟩
        rw [ofTokens_eq_exactly heq.symm, parse_eq_ok_iff] at hparse
        exact hparse.mem_of_char_mem (List.mem_map_of_mem hc)
      · rcases ih hmem with ⟨other, hother, hchars⟩
        exact ⟨other, List.mem_cons_of_mem _ hother, hchars⟩

theorem startAndRest_cases (pattern : Path) :
    ((startAndRest pattern).1 = Root.slash.text ∨
      (startAndRest pattern).1 = here) ∧
      ∀ c ∈ (startAndRest pattern).2, c ∈ pattern := by
  unfold startAndRest
  split
  · exact ⟨.inl rfl, fun c hc => List.mem_cons_of_mem _ hc⟩
  · exact ⟨.inr rfl, fun c hc => hc⟩

theorem backslash_notMem_foldl_child {start : Path} {names : List Path}
    (hstart : start = Root.slash.text ∨ start = here)
    (h : ∀ name ∈ names, separator ∉ name ∧ '\\' ∉ name) :
    '\\' ∉ names.foldl child start := by
  have hnone : moves (namesOf start) = [] := by
    rcases hstart with rfl | rfl <;> rfl
  rw [notMem_iff (by decide) (by decide),
    moves_namesOf_foldl_child start fun name hname => (h name hname).1, hnone,
    List.nil_append]
  exact fun name hname => (h name (List.mem_of_mem_filter hname)).2

/-- A way from the root or from the current directory does not start at a
drive. -/
theorem splitRoot_foldl_child {start : Path} (names : List Path)
    (hstart : start = Root.slash.text ∨ start = here) :
    (names.foldl child start).head? = some separator ∨
      splitRoot (names.foldl child start)
        = (.none, names.foldl child start) := by
  rcases exists_foldl_child_eq names start with ⟨more, hmore⟩
  rw [hmore]
  rcases hstart with rfl | rfl
  · exact .inl rfl
  · right
    show splitRoot ('.' :: more) = (.none, '.' :: more)
    unfold splitRoot
    split
    next heq => cases heq
    next letter rest heq =>
      cases heq
      rfl
    next => rfl

/-- What a pattern lists exists, in normal form too. -/
theorem exists?_normalize_of_mem_find (htree : disk.IsTree)
    (hback : '\\' ∉ pattern) (hfound : find disk pattern = .ok found) {q : Path}
    (hq : q ∈ found) :
    q = here ∨ disk.exists? (Path.normalize q) = true := by
  rcases of_find_eq_ok hfound with ⟨_, components, _, hcomponents, rfl⟩
  rcases exists_of_mapM_parse hcomponents with ⟨tokenized, htokenized, rfl⟩
  rcases startAndRest_cases pattern with ⟨hstart, hrest⟩
  generalize (startAndRest pattern).1 = start at hq hstart
  rcases exists_isWay_of_mem_walk htree (isReduced_collapse _) hq with
    ⟨names, hway, rfl⟩
  have hlegal : ∀ name ∈ names, separator ∉ name ∧ '\\' ∉ name := by
    intro name hname
    cases hway.isMet name hname with
    | entry h => exact ⟨h.separator_notMem, h.backslash_notMem⟩
    | dots h => rcases h with rfl | rfl <;> decide
    | spelled h =>
        rcases exists_text_of_exactly htokenized (mem_of_mem_collapse h) with
          ⟨text, htext, hchars⟩
        have hsplit := mem_of_mem_componentTexts htext
        exact ⟨fun hmem =>
          separator_notMem_of_mem_splitOn hsplit (hchars _ hmem),
          fun hmem =>
            hback (hrest _ (mem_of_mem_splitOn hsplit (hchars _ hmem)))⟩
  by_cases hnil : collapse (tokenized.map Component.ofTokens) = []
  · have hleads := hway.leads
    rw [hnil] at hleads
    cases hleads
    rcases hstart with rfl | rfl
    · exact .inr rfl
    · exact .inl rfl
  · have hwritten := backslash_notMem_foldl_child hstart hlegal
    exact .inr (exists?_normalize hwritten (splitRoot_foldl_child names hstart)
      (hway.exists? hnil))

end Glob
end BuildHost
