import BuildHost.Json.Printer
import BuildHost.Json.Reader
import Mathlib.Data.List.TakeDrop
import Mathlib.Data.Nat.Digits.Defs

/-!
# What readers answer

Where a reader stands does not change what it answers, so its places are left
out: `Answers read before a after` says that the reader, at the start of
`before`, answers `a` and stops at the start of `after`.  The strings and the
integers that are written are read as they were (`answers_string`,
`answers_number`).
-/

namespace BuildHost
namespace Json
namespace Reader

variable {α β : Type}

/-- From any place, the reader passes what stands before `after` and answers
`a`. -/
def Answers (read : Reader α) (before : List Char) (a : α)
    (after : List Char) : Prop :=
  ∀ place, ∃ next, read ⟨before, place⟩ = .ok a ⟨after, next⟩

theorem answers_pure (a : α) (text : List Char) :
    Answers (pure a) text a text :=
  fun place => ⟨place, rfl⟩

theorem Answers.bind {read : Reader α} {next : α → Reader β}
    {before middle after : List Char} {a : α} {b : β}
    (h : Answers read before a middle)
    (hnext : Answers (next a) middle b after) :
    Answers (read >>= next) before b after := by
  intro place
  rcases h place with ⟨reached, hread⟩
  rcases hnext reached with ⟨last, hlast⟩
  refine ⟨last, ?_⟩
  change EStateM.bind read next _ = _
  unfold EStateM.bind
  rw [hread]
  exact hlast

/-- A choice between two readers with the same reader behind them. -/
theorem Answers.ite_bind {p : Prop} [Decidable p] {first second : Reader α}
    {next : α → Reader β} {before middle after : List Char} {a : α} {b : β}
    (h : Answers (if p then first else second) before a middle)
    (hnext : Answers (next a) middle b after) :
    Answers (if p then first >>= next else second >>= next) before b after := by
  split
  next hp =>
    rw [if_pos hp] at h
    exact h.bind hnext
  next hp =>
    rw [if_neg hp] at h
    exact h.bind hnext

theorem answers_peek (text : List Char) : Answers peek text text.head? text :=
  fun place => ⟨place, rfl⟩

theorem answers_skip (c : Char) (rest : List Char) :
    Answers skip (c :: rest) () rest :=
  fun _ => ⟨_, rfl⟩

theorem answers_bound (text : List Char) :
    Answers bound text (text.length + 1) text :=
  fun place => ⟨place, rfl⟩

/-! ## Blanks -/

def IsBlank (c : Char) : Prop :=
  c = ' ' ∨ c = '\n' ∨ c = '\t' ∨ c = '\r'

def AreBlanks (blanks : List Char) : Prop :=
  ∀ c ∈ blanks, IsBlank c

theorem areBlanks_nil : AreBlanks [] := by
  intro c hc
  cases hc

theorem answers_skipBlanks {blanks rest : List Char}
    (hblanks : AreBlanks blanks) (hrest : ∀ c ∈ rest.head?, ¬ IsBlank c) :
    Answers skipBlanks (blanks ++ rest) () rest := by
  have hgo : ∀ place, ∃ next,
      skipBlanks.go ⟨blanks ++ rest, place⟩ (blanks ++ rest)
        = ⟨rest, next⟩ := by
    induction blanks with
    | nil =>
        intro place
        cases rest with
        | nil => exact ⟨place, rfl⟩
        | cons c rest => exact ⟨place, if_neg (hrest c rfl)⟩
    | cons c blanks ih =>
        intro place
        rcases ih (fun d hd => hblanks d (List.mem_cons_of_mem c hd)) _ with
          ⟨next, hnext⟩
        exact ⟨next, (if_pos (hblanks c List.mem_cons_self)).trans hnext⟩
  intro place
  rcases hgo place with ⟨next, hnext⟩
  refine ⟨next, ?_⟩
  show EStateM.Result.ok _ (skipBlanks.go _ _) = _
  rw [hnext]

theorem answers_peekToken {blanks : List Char} (hblanks : AreBlanks blanks)
    {rest : List Char} (hrest : ∀ c ∈ rest.head?, ¬ IsBlank c) :
    Answers peekToken (blanks ++ rest) rest.head? rest :=
  (answers_skipBlanks hblanks hrest).bind (answers_peek rest)

theorem answers_word (letters rest : List Char) :
    Answers (word letters) (letters ++ rest) () rest := by
  induction letters with
  | nil => exact answers_pure () rest
  | cons letter letters ih =>
      refine (answers_peek _).bind ?_
      show Answers (if letter = letter then (do skip; word letters)
        else _) _ _ _
      rw [if_pos rfl]
      exact (answers_skip letter _).bind ih

/-! ## Strings -/

theorem hexValue?_hexDigit {n : Nat} (h : n < 16) :
    hexValue? (hexDigit n) = some n := by
  revert n
  decide

theorem utf8Size_hexDigit {n : Nat} (h : n < 16) :
    (hexDigit n).utf8Size = 1 := by
  revert n
  decide

/-- The digits that a control character is written with. -/
theorem answers_hexDigits {n : Nat} (h : n < 256) (rest : List Char) :
    Answers hexDigits
      ('0' :: '0' :: hexDigit (n / 16) :: hexDigit (n % 16) :: rest) n
        rest := by
  have hhigh : n / 16 < 16 := by omega
  have hlow : n % 16 < 16 := by omega
  have hvalue : ((0 * 16 + 0) * 16 + n / 16) * 16 + n % 16 = n := by omega
  have hlength : ¬ Utf8.byteLength ['0', '0', hexDigit (n / 16),
      hexDigit (n % 16)] < 4 := by
    simp only [Utf8.byteLength, List.foldl_cons, List.foldl_nil,
      utf8Size_hexDigit hhigh, utf8Size_hexDigit hlow]
    decide
  have hdigits : List.mapM hexValue?
      ['0', '0', hexDigit (n / 16), hexDigit (n % 16)]
      = some [0, 0, n / 16, n % 16] := by
    simp only [List.mapM_cons, List.mapM_nil, hexValue?_hexDigit hhigh,
      hexValue?_hexDigit hlow]
    rfl
  intro place
  refine ⟨⟨place.line, place.column + 4⟩, ?_⟩
  have htake : ('0' :: '0' :: hexDigit (n / 16) :: hexDigit (n % 16)
      :: rest).take 4 = ['0', '0', hexDigit (n / 16), hexDigit (n % 16)] :=
    rfl
  unfold hexDigits
  dsimp only [bind, EStateM.bind, get, getThe, MonadStateOf.get, EStateM.get]
  rw [htake, if_neg hlength, hdigits]
  show EStateM.Result.ok _ _ = _
  rw [hvalue]
  rfl

theorem answers_unicodeEscape {c : Char} (h : c.toNat < 0x20)
    (rest : List Char) :
    Answers unicodeEscape
      ('0' :: '0' :: hexDigit (c.toNat / 16) :: hexDigit (c.toNat % 16) :: rest)
        c rest := by
  have htrailing : isTrailing c.toNat = false := by
    simp only [isTrailing, Bool.and_eq_false_iff, decide_eq_false_iff_not]
    omega
  have hleading : isLeading c.toNat = false := by
    simp only [isLeading, Bool.and_eq_false_iff, decide_eq_false_iff_not]
    omega
  refine (answers_hexDigits (by omega) rest).bind ?_
  rw [htrailing, hleading]
  show Answers (pure (Char.ofNat c.toNat)) rest c rest
  rw [Char.ofNat_toNat]
  exact answers_pure c rest

theorem answers_simpleEscape {letter c : Char}
    (h : simpleEscape? letter = some c) (hletter : letter ≠ 'u')
    (rest : List Char) : Answers escape (letter :: rest) c rest := by
  refine (answers_peek _).bind ?_
  rw [List.head?_cons]
  split
  next hnone => cases hnone
  next hu => exact absurd (Option.some.inj hu) hletter
  next d hd =>
    cases hd
    rw [h]
    exact (answers_skip letter rest).bind (answers_pure c rest)

/-- A character is read as it is written, whatever the reader does behind it. -/
theorem answers_stringTail_cons {c : Char} {fuel : Nat}
    {before rest after : List Char} {s : String}
    (h : Answers (stringTail fuel (c :: before)) rest s after) :
    Answers (stringTail (fuel + 1) before) (escapeChar c ++ rest) s after := by
  have hescape : ∀ letters, Answers escape (letters ++ rest) c rest →
      Answers (stringTail (fuel + 1) before) (('\\' :: letters) ++ rest) s
        after := by
    intro letters hletters
    exact (answers_peek _).bind ((answers_skip '\\' _).bind (hletters.bind h))
  unfold escapeChar
  split
  · exact hescape ['"'] (answers_simpleEscape rfl (by decide) rest)
  · exact hescape ['\\'] (answers_simpleEscape rfl (by decide) rest)
  · exact hescape ['b'] (answers_simpleEscape rfl (by decide) rest)
  · exact hescape ['f'] (answers_simpleEscape rfl (by decide) rest)
  · exact hescape ['n'] (answers_simpleEscape rfl (by decide) rest)
  · exact hescape ['r'] (answers_simpleEscape rfl (by decide) rest)
  · exact hescape ['t'] (answers_simpleEscape rfl (by decide) rest)
  next hquote hbackslash _ _ _ _ _ =>
    split
    next hcontrol =>
      exact hescape _
        ((answers_peek _).bind
          ((answers_skip 'u' _).bind (answers_unicodeEscape hcontrol rest)))
    next hcontrol =>
      refine (answers_peek _).bind ?_
      rw [List.cons_append, List.head?_cons]
      split
      next hnone => cases hnone
      next heq => exact absurd (Option.some.inj heq) hquote
      next heq => exact absurd (Option.some.inj heq) hbackslash
      next d hd =>
        cases hd
        rw [if_neg hcontrol]
        exact (answers_skip c rest).bind h

theorem answers_stringTail (letters : List Char) {fuel : Nat}
    (hfuel : letters.length < fuel) (before rest : List Char) :
    Answers (stringTail fuel before) (letters.flatMap escapeChar ++ '"' :: rest)
      (String.ofList (before.reverse ++ letters)) rest := by
  induction letters generalizing fuel before with
  | nil =>
      cases fuel with
      | zero => cases hfuel
      | succ fuel =>
          rw [List.append_nil]
          exact (answers_peek _).bind
            ((answers_skip '"' rest).bind (answers_pure _ rest))
  | cons c letters ih =>
      cases fuel with
      | zero => cases hfuel
      | succ fuel =>
          have htail := ih (Nat.lt_of_succ_lt_succ hfuel) (c :: before)
          rw [List.reverse_cons, List.append_assoc] at htail
          rw [List.flatMap_cons, List.append_assoc]
          exact answers_stringTail_cons htail

theorem escapeChar_ne_nil (c : Char) : escapeChar c ≠ [] := by
  unfold escapeChar
  split
  · exact List.cons_ne_nil _ _
  · exact List.cons_ne_nil _ _
  · exact List.cons_ne_nil _ _
  · exact List.cons_ne_nil _ _
  · exact List.cons_ne_nil _ _
  · exact List.cons_ne_nil _ _
  · exact List.cons_ne_nil _ _
  · split
    · exact List.cons_ne_nil _ _
    · exact List.cons_ne_nil _ _

/-- Texts that are not empty are no longer together than they are many. -/
theorem length_le_length_flatMap {items : List α} {f : α → List β}
    (h : ∀ item ∈ items, f item ≠ []) :
    items.length ≤ (items.flatMap f).length := by
  induction items with
  | nil => exact Nat.le_refl 0
  | cons item rest ih =>
      have hitem := List.length_pos_iff.2 (h item List.mem_cons_self)
      have hrest := ih fun other hother =>
        h other (List.mem_cons_of_mem item hother)
      rw [List.flatMap_cons, List.length_append, List.length_cons]
      omega

theorem answers_string (s : String) (rest : List Char) :
    Answers string (stringText s ++ rest) s rest := by
  have hlength : s.toList.length
      < (s.toList.flatMap escapeChar ++ '"' :: rest).length + 1 := by
    have := length_le_length_flatMap fun c (_ : c ∈ s.toList) =>
      escapeChar_ne_nil c
    rw [List.length_append]
    omega
  have htail := answers_stringTail s.toList hlength [] rest
  rw [List.reverse_nil, List.nil_append, String.ofList_toList] at htail
  have htext : stringText s ++ rest
      = '"' :: (s.toList.flatMap escapeChar ++ '"' :: rest) := by
    simp only [stringText, List.cons_append, List.append_assoc, List.nil_append]
  rw [htext]
  refine (answers_skip '"' _).bind ?_
  intro place
  exact htail place

/-! ## Numbers -/

/-- Whether a number does not go on here. -/
def EndsNumber (after : List Char) : Prop :=
  ∀ c ∈ after.head?, c.isDigit = false ∧ c ≠ '.' ∧ c ≠ 'e' ∧ c ≠ 'E'

theorem EndsNumber.any_isDigit {after : List Char} (h : EndsNumber after) :
    after.head?.any Char.isDigit = false := by
  cases after with
  | nil => rfl
  | cons c rest => exact (h c rfl).1

theorem answers_atExponent {after : List Char} (h : EndsNumber after) :
    Answers atExponent after false after := by
  refine (answers_peek after).bind ?_
  split
  next heq => exact absurd rfl (h 'e' heq).2.2.1
  next heq => exact absurd rfl (h 'E' heq).2.2.2
  next => exact answers_pure false after

theorem answers_digits {ds after : List Char} (hds : ∀ c ∈ ds, c.isDigit)
    (hafter : EndsNumber after) :
    Answers digits (ds ++ after) ds after := by
  have hnone : ∀ c ∈ after.head?, c.isDigit = false :=
    fun c hc => (hafter c hc).1
  have hspan : (ds ++ after).span Char.isDigit = (ds, after) := by
    rw [List.span_eq_takeWhile_dropWhile, List.takeWhile_append_of_pos hds,
      List.dropWhile_append_of_pos hds]
    cases after with
    | nil => simp
    | cons c after => simp [hnone c rfl]
  intro place
  refine ⟨⟨place.line, place.column + ds.length⟩, ?_⟩
  show EStateM.Result.ok ((ds ++ after).span Char.isDigit).1
    (Cursor.mk ((ds ++ after).span Char.isDigit).2
      ⟨place.line, place.column + ((ds ++ after).span Char.isDigit).1.length⟩)
        = _
  rw [hspan]

theorem le_ofDigitChars (ds : List Char) (n : Nat) :
    n ≤ Nat.ofDigitChars 10 ds n := by
  rw [Nat.ofDigitChars_eq_ofDigitChars_zero]
  exact Nat.le_add_right_of_le
    (Nat.le_mul_of_pos_left n (Nat.pow_pos (by decide)))

theorem takeDigits_of_lt {ds : List Char} {n : Nat}
    (h : Nat.ofDigitChars 10 ds n < UInt64.size) :
    takeDigits n ds = (Nat.ofDigitChars 10 ds n, []) := by
  induction ds generalizing n with
  | nil => rfl
  | cons c rest ih =>
      rw [Nat.ofDigitChars_cons] at h ⊢
      have hnext := Nat.lt_of_le_of_lt (le_ofDigitChars rest _) h
      unfold takeDigits
      rw [if_pos hnext]
      exact ih h

theorem digitChar_ne_zero : ∀ n < 10, 0 < n → n.digitChar ≠ '0' := by
  decide

theorem head?_toDigits_ne_zero {n : Nat} (h : 0 < n) :
    (Nat.toDigits 10 n).head? ≠ some '0' := by
  induction n using Nat.strongRecOn with
  | ind n ih =>
      rw [Nat.toDigits_eq_if (by decide)]
      split
      next hsmall => exact fun heq =>
        digitChar_ne_zero n hsmall h (Option.some.inj heq)
      next hlarge =>
        have hfirst := ih (n / 10) (by omega) (by omega)
        cases hdigits : Nat.toDigits 10 (n / 10) with
        | nil => exact absurd hdigits Nat.toDigits_ne_nil
        | cons c ds =>
            rw [hdigits] at hfirst
            exact hfirst

/-- The digits of a natural number are read up to their end: a number that
starts with zero is zero. -/
theorem answers_number {n : Nat} (hn : n < UInt64.size) {negative : Bool}
    {m : Number} (hinteger : integerNumber? negative n = some m)
    {after : List Char} (hafter : EndsNumber after) :
    Answers (number negative) (Nat.toDigits 10 n ++ after) m after := by
  have hall : ∀ c ∈ Nat.toDigits 10 n, c.isDigit := fun c hc =>
    Nat.isDigit_of_mem_toDigits (by decide) (by decide) hc
  cases hdigits : Nat.toDigits 10 n with
  | nil => exact absurd hdigits Nat.toDigits_ne_nil
  | cons c ds =>
      have hc : c.isDigit := hall c (hdigits ▸ List.mem_cons_self)
      have hstart : Answers (if c = '0' then (do skip; pure ['0']) else digits)
          (c :: (ds ++ after)) (c :: ds) after := by
        by_cases hzero : c = '0'
        · subst hzero
          have hn : n = 0 := by
            by_contra hne
            exact head?_toDigits_ne_zero (Nat.pos_of_ne_zero hne)
              (congrArg List.head? hdigits)
          subst hn
          cases hdigits
          exact (answers_skip '0' after).bind (answers_pure ['0'] after)
        · rw [if_neg hzero]
          have hds : ∀ d ∈ c :: ds, d.isDigit := hdigits ▸ hall
          exact answers_digits hds hafter
      have htake : takeDigits 0 (c :: ds) = (n, []) := by
        have hvalue : Nat.ofDigitChars 10 (c :: ds) 0 = n := by
          rw [← hdigits, Nat.ofDigitChars_ten_toDigits]
        rw [takeDigits_of_lt (hvalue.trans_lt hn), hvalue]
      refine (answers_peek _).bind ?_
      rw [List.cons_append, List.head?_cons]
      dsimp only
      rw [hc]
      refine Answers.ite_bind hstart ?_
      refine (answers_peek after).bind ?_
      rw [hafter.any_isDigit, if_neg (by simp), htake]
      refine (answers_peek after).bind ?_
      rw [if_neg fun hpoint : after.head? = some '.' =>
        (hafter '.' hpoint).2.1 rfl]
      refine (answers_atExponent hafter).bind ?_
      simp only [List.isEmpty_nil, if_true, hinteger]
      exact answers_pure m after

end Reader
end Json
end BuildHost
