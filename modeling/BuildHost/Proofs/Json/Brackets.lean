import BuildHost.Proofs.Json.Answers

/-!
# Reading what stands in brackets

The elements of a list, or the members of an object, are read one after the
other (`PassesInOrder`), whatever blanks stand before them and before the
closing bracket (`passes_list`, `passes_object`).
-/

namespace BuildHost
namespace Json
namespace Reader

variable {α β σ : Type}

/-- The reader passes the text and answers `a`, whatever follows that does not
go on a number. -/
def Passes (read : Reader α) (text : List Char) (a : α) : Prop :=
  ∀ after, EndsNumber after → Answers read (text ++ after) a after

/-- Passes texts one after the other, each in the state that the one before has
left. -/
inductive PassesInOrder (read : σ → Reader σ) : List (List Char) → σ → σ → Prop
  | nil (s : σ) : PassesInOrder read [] s s
  | cons {text : List Char} {rest : List (List Char)} {s middle last : σ}
      (htext : Passes (read s) text middle)
      (hrest : PassesInOrder read rest middle last) : PassesInOrder read
      (text :: rest) s last

theorem PassesInOrder.append {read : σ → Reader σ}
    {texts others : List (List Char)} {s middle last : σ}
    (htexts : PassesInOrder read texts s middle)
    (hothers : PassesInOrder read others middle last) :
    PassesInOrder read (texts ++ others) s last := by
  induction htexts with
  | nil s => exact hothers
  | cons htext _ ih => exact .cons htext (ih hothers)

/-! ## Texts in brackets -/

/-- What stands behind the first of several texts: the others, each behind a
comma. -/
def others (inner : List Char) (texts : List (List Char)) : List Char :=
  texts.flatMap fun text => ',' :: (inner ++ text)

/-- The texts behind an opening bracket, up to the closing one: `inner` stands
before each of them, and `outer` before the bracket. -/
def bracketed (closing : Char) (inner outer : List Char) :
    List (List Char) → List Char
  | [] => [closing]
  | text :: rest => inner ++ text ++ others inner rest ++ outer ++ [closing]

theorem length_le_length_bracketed (closing : Char) (inner outer : List Char)
    (texts : List (List Char)) :
    texts.length ≤ (bracketed closing inner outer texts).length := by
  cases texts with
  | nil => exact Nat.zero_le _
  | cons text rest =>
      have hrest : rest.length ≤ (others inner rest).length :=
        length_le_length_flatMap fun _ _ => List.cons_ne_nil _ _
      simp only [bracketed, List.length_append, List.length_cons,
        List.length_nil]
      omega

theorem endsNumber_cons {c : Char}
    (h : c.isDigit = false ∧ c ≠ '.' ∧ c ≠ 'e' ∧ c ≠ 'E') (rest : List Char) :
    EndsNumber (c :: rest) := by
  rintro _ ⟨⟩
  exact h

theorem endsNumber_blanks {blanks : List Char} (hblanks : AreBlanks blanks)
    {rest : List Char} (hrest : EndsNumber rest) :
    EndsNumber (blanks ++ rest) := by
  cases blanks with
  | nil => exact hrest
  | cons c blanks =>
      apply endsNumber_cons
      rcases hblanks c List.mem_cons_self with rfl | rfl | rfl | rfl <;> decide

theorem endsNumber_others (inner : List Char) {outer : List Char}
    (houter : AreBlanks outer) (texts : List (List Char)) {rest : List Char}
    (hrest : EndsNumber rest) :
    EndsNumber (others inner texts ++ (outer ++ rest)) := by
  cases texts with
  | nil => exact endsNumber_blanks houter hrest
  | cons text texts => exact endsNumber_cons (by decide) _

/-! ## What stands next -/

theorem not_isBlank {c : Char} (h : c ≠ ' ' ∧ c ≠ '\n' ∧ c ≠ '\t' ∧ c ≠ '\r') :
    ¬ IsBlank c := by
  rintro (rfl | rfl | rfl | rfl)
  · exact h.1 rfl
  · exact h.2.1 rfl
  · exact h.2.2.1 rfl
  · exact h.2.2.2 rfl

theorem answers_peekToken_cons {blanks : List Char} (hblanks : AreBlanks blanks)
    {c : Char} (hc : ¬ IsBlank c) (rest : List Char) :
    Answers peekToken (blanks ++ c :: rest) (some c) (c :: rest) := by
  apply answers_peekToken hblanks
  intro d hd
  cases hd
  exact hc

/-- What is asked before each of the texts in brackets: whether another one
stands next, `true` before the first one. -/
structure Asks (more : Bool → Reader Bool) (closing : Char)
    (Starts : List Char → Prop) : Prop where
  ends : ∀ {outer}, AreBlanks outer → ∀ first rest,
    Answers (more first) (outer ++ closing :: rest) false (closing :: rest)
  first : ∀ {inner text}, AreBlanks inner → Starts text → ∀ rest,
    Answers (more true) (inner ++ (text ++ rest)) true (text ++ rest)
  next : ∀ {inner text}, AreBlanks inner → Starts text → ∀ rest,
    Answers (more false) (',' :: (inner ++ (text ++ rest))) true (text ++ rest)

/-- Whether an element of a list may start so. -/
def StartsElement (text : List Char) : Prop :=
  ∃ c rest, text = c :: rest ∧ ¬ IsBlank c ∧ c ≠ ']'

theorem asks_hasElement : Asks hasElement ']' StartsElement where
  ends houter first rest :=
    (answers_peekToken_cons houter (not_isBlank (by decide)) rest).bind
      (answers_pure false _)
  first := by
    rintro inner _ hinner ⟨c, text, rfl, hblank, hend⟩ rest
    refine (answers_peekToken_cons hinner hblank _).bind ?_
    split
    next heq => cases heq
    next heq => exact absurd (Option.some.inj heq) hend
    next => exact answers_pure true _
  next := by
    rintro inner _ hinner ⟨c, text, rfl, hblank, hend⟩ rest
    refine (answers_peekToken_cons areBlanks_nil (not_isBlank (by decide))
      _).bind ?_
    refine (answers_skip ',' _).bind
      ((answers_peekToken_cons hinner hblank _).bind ?_)
    split
    next heq => cases heq
    next heq => exact absurd (Option.some.inj heq) hend
    next => exact answers_pure true _

/-- A member of an object starts with its name. -/
def StartsMember (text : List Char) : Prop :=
  ∃ rest, text = '"' :: rest

/-- The text of a member, whose value has the text `text`. -/
def memberText (gap : List Char) (text : α → List Char) (member : String × α) :
    List Char :=
  stringText member.1 ++ ':' :: (gap ++ text member.2)

theorem startsMember_of_mem_map {gap : List Char} {text : α → List Char}
    {members : List (String × α)} {member : List Char}
    (h : member ∈ members.map (memberText gap text)) : StartsMember member := by
  rcases List.mem_map.1 h with ⟨entry, _, rfl⟩
  exact ⟨_, rfl⟩

theorem asks_hasMember : Asks hasMember '\x7d' StartsMember where
  ends houter first rest :=
    (answers_peekToken_cons houter (not_isBlank (by decide)) rest).bind
      (answers_pure false _)
  first := by
    rintro inner _ hinner ⟨text, rfl⟩ rest
    exact (answers_peekToken_cons hinner (not_isBlank (by decide)) _).bind
      (answers_pure true _)
  next := by
    rintro inner _ hinner ⟨text, rfl⟩ rest
    refine (answers_peekToken_cons areBlanks_nil (not_isBlank (by decide))
      _).bind ?_
    refine (answers_skip ',' _).bind ?_
    exact (answers_peekToken_cons hinner (not_isBlank (by decide)) _).bind
      (answers_pure true _)

/-! ## Rounds -/

/-- Runs `read` as long as `more` says that there is more; `fuel` bounds the
rounds. -/
def rounds (more : Bool → Reader Bool) (read : σ → Reader σ) :
    Nat → Bool → σ → Reader σ
  | 0, _, s => return s
  | fuel + 1, first, s => do
    if ← more first then rounds more read fuel false (← read s) else return s

theorem elements_eq_rounds (read : σ → Reader σ) (fuel : Nat) (first : Bool)
    (s : σ) :
    elements read fuel first s = rounds hasElement read fuel first s := by
  induction fuel generalizing first s with
  | zero => rfl
  | succ fuel ih => simp only [elements, rounds, ih]

/-- Reads the name of a member, and what it names by the name. -/
def named (read : String → σ → Reader σ) (s : σ) : Reader σ := do
  read (← string) s

theorem members_eq_rounds (read : String → σ → Reader σ) (fuel : Nat)
    (first : Bool) (s : σ) :
    members read fuel first s = rounds hasMember (named read) fuel first s := by
  induction fuel generalizing first s with
  | zero => rfl
  | succ fuel ih => simp only [members, rounds, named, ih, bind_assoc]

section Rounds

variable {more : Bool → Reader Bool} {closing : Char}
  {Starts : List Char → Prop} {read : σ → Reader σ} {inner outer : List Char}

theorem answers_rounds (hmore : Asks more closing Starts)
    (hclosing : closing.isDigit = false ∧ closing ≠ '.' ∧ closing ≠ 'e' ∧
      closing ≠ 'E')
    (hinner : AreBlanks inner) (houter : AreBlanks outer)
    {texts : List (List Char)} (htexts : ∀ text ∈ texts, Starts text)
    {s last : σ} (h : PassesInOrder read texts s last) {fuel : Nat}
    (hfuel : texts.length < fuel) (after : List Char) :
    Answers (rounds more read fuel false s)
      (others inner texts ++ (outer ++ closing :: after)) last
      (closing :: after) := by
  induction h generalizing fuel with
  | nil s =>
      cases fuel with
      | zero => cases hfuel
      | succ fuel =>
          exact (hmore.ends houter false after).bind (answers_pure s _)
  | @cons text rest s middle last htext _ ih =>
      cases fuel with
      | zero => cases hfuel
      | succ fuel =>
          have hrest := ih
            (fun other hother =>
              htexts other (List.mem_cons_of_mem text hother))
            (Nat.lt_of_succ_lt_succ hfuel)
          have hread := htext _ (endsNumber_others inner houter rest
            (endsNumber_cons hclosing after))
          have hnext := hmore.next hinner (htexts text List.mem_cons_self)
            (others inner rest ++ (outer ++ closing :: after))
          have hshape : others inner (text :: rest)
              ++ (outer ++ closing :: after)
              = ',' :: (inner
                ++ (text
                  ++ (others inner rest ++ (outer ++ closing :: after)))) := by
            simp only [others, List.flatMap_cons, List.cons_append,
              List.append_assoc]
          rw [hshape]
          exact hnext.bind (hread.bind hrest)

theorem answers_rounds_bracketed (hmore : Asks more closing Starts)
    (hclosing : closing.isDigit = false ∧ closing ≠ '.' ∧ closing ≠ 'e' ∧
      closing ≠ 'E')
    (hinner : AreBlanks inner) (houter : AreBlanks outer)
    {texts : List (List Char)} (htexts : ∀ text ∈ texts, Starts text)
    {s last : σ} (h : PassesInOrder read texts s last) {fuel : Nat}
    (hfuel : texts.length < fuel) (after : List Char) :
    Answers (rounds more read fuel true s)
      (bracketed closing inner outer texts ++ after) last
      (closing :: after) := by
  cases fuel with
  | zero => cases hfuel
  | succ fuel =>
      cases h with
      | nil =>
          exact (hmore.ends areBlanks_nil true after).bind (answers_pure s _)
      | @cons text rest _ middle _ htext hrest =>
          have hothers := answers_rounds hmore hclosing hinner houter
            (fun other hother =>
              htexts other (List.mem_cons_of_mem text hother)) hrest
            (Nat.lt_of_succ_lt_succ hfuel) after
          have hread := htext _ (endsNumber_others inner houter rest
            (endsNumber_cons hclosing after))
          have hfirst := hmore.first hinner (htexts text List.mem_cons_self)
            (others inner rest ++ (outer ++ closing :: after))
          simp only [bracketed, List.append_assoc]
          exact hfirst.bind (hread.bind hothers)

end Rounds

/-! ## Lists and objects -/

theorem Answers.enclosed {close : Reader Unit} {body : Reader α}
    {before middle after : List Char} {a : α}
    (hbody : Answers body before a middle)
    (hclose : Answers close middle () after) (c : Char) :
    Answers (enclosed close body) (c :: before) a after := by
  have hskip : Answers (skip >>= fun _ => body) (c :: before) a middle :=
    (answers_skip c before).bind hbody
  have hwhole : Answers (skip *> body) (c :: before) a middle := hskip
  intro place
  rcases hwhole place with ⟨reached, hread⟩
  rcases hclose reached with ⟨last, hlast⟩
  refine ⟨last, ?_⟩
  unfold Reader.enclosed
  rw [hread]
  dsimp only
  rw [hlast]

theorem answers_closeList (after : List Char) :
    Answers closeList (']' :: after) () after :=
  (answers_peekToken_cons areBlanks_nil (not_isBlank (by decide)) after).bind
    (answers_skip ']' after)

theorem answers_closeObject (after : List Char) :
    Answers closeObject ('\x7d' :: after) () after :=
  (answers_peekToken_cons areBlanks_nil (not_isBlank (by decide)) after).bind
    (answers_skip '\x7d' after)

section Enclosed

variable {inner outer : List Char} {texts : List (List Char)} {s last : σ}
  {finish : σ → Reader α} {a : α}

theorem passes_list {read : σ → Reader σ} (hinner : AreBlanks inner)
    (houter : AreBlanks outer) (htexts : ∀ text ∈ texts, StartsElement text)
    (h : PassesInOrder read texts s last)
    (hfinish : ∀ text, Answers (finish last) text a text) :
    Passes (enclosed closeList (do finish (← elements read (← bound) true s)))
      ('[' :: bracketed ']' inner outer texts) a := by
  intro after _
  have hfuel : texts.length
      < (bracketed ']' inner outer texts ++ after).length + 1 := by
    have := length_le_length_bracketed ']' inner outer texts
    rw [List.length_append]
    omega
  have hread := answers_rounds_bracketed asks_hasElement
    (by decide) hinner houter htexts h hfuel after
  rw [← elements_eq_rounds] at hread
  exact ((answers_bound _).bind (hread.bind (hfinish _))).enclosed
    (answers_closeList after) '['

theorem passes_object {read : String → σ → Reader σ} (hinner : AreBlanks inner)
    (houter : AreBlanks outer) (htexts : ∀ text ∈ texts, StartsMember text)
    (h : PassesInOrder (named read) texts s last)
    (hfinish : ∀ text, Answers (finish last) text a text) :
    Passes (enclosed closeObject (do finish (← members read (← bound) true s)))
      ('\x7b' :: bracketed '\x7d' inner outer texts) a := by
  intro after _
  have hfuel : texts.length
      < (bracketed '\x7d' inner outer texts ++ after).length + 1 := by
    have := length_le_length_bracketed '\x7d' inner outer texts
    rw [List.length_append]
    omega
  have hread := answers_rounds_bracketed asks_hasMember
    (by decide) hinner houter htexts h hfuel after
  rw [← members_eq_rounds] at hread
  exact ((answers_bound _).bind (hread.bind (hfinish _))).enclosed
    (answers_closeObject after) '\x7b'

end Enclosed

end Reader
end Json
end BuildHost
