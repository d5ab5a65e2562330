import BuildHost.Proofs.Glob.Matching
import BuildHost.Proofs.Results
import Mathlib.Data.List.TakeWhile

/-!
# Tokens of patterns

Which token stands next in a pattern depends on what is behind it, and before it
only on whether a component starts there (`nextToken_eq_ok_iff`).  So the tokens
of a component stay what they are with another component behind it
(`Tokenizes.append`), and `**` is a component by itself
(`Tokenizes.eq_directories`).
-/

namespace BuildHost
namespace Glob

open BuildHost.Path

variable {previous : Option Char} {c : Char} {rest after text more : List Char}
  {token : Token} {tokens others : List Token}

/-! ## The next token -/

/-- What can stand next in a pattern, and what is left behind it. -/
inductive IsNext (previous : Option Char) :
    Char → List Char → Token → List Char → Prop
  | literal {c : Char} {rest : List Char} (h : IsLiteral c) :
      IsNext previous c rest (.char c) rest
  | anyChar {rest : List Char} : IsNext previous '?' rest .anyChar rest
  | charClass {rest after : List Char} {token : Token}
      (h : charClass? rest = some (token, after)) :
      IsNext previous '[' rest token after
  | anySequence {rest : List Char} (h : rest.head? ≠ some '*') :
      IsNext previous '*' rest .anySequence rest
  | anyDirectories {rest after : List Char}
      (hprevious : previous.any (· ≠ separator) = false)
      (h : rest = [] ∧ after = [] ∨ rest = separator :: after) :
      IsNext previous '*' ('*' :: rest) .anyDirectories after

theorem takeWhile_asterisk (h : rest.head? ≠ some '*') :
    rest.takeWhile (· = '*') = [] ∧ rest.dropWhile (· = '*') = rest := by
  cases rest with
  | nil => exact ⟨rfl, rfl⟩
  | cons d rest =>
      have hd : ¬ decide (d = '*') = true := by
        intro heq
        exact h (congrArg some (of_decide_eq_true heq))
      exact ⟨List.takeWhile_cons_of_neg hd, List.dropWhile_cons_of_neg hd⟩

theorem nextToken_asterisk (position : Nat) (previous : Option Char)
    (h : rest.head? ≠ some '*') :
    nextToken position previous '*' rest = .ok (.anySequence, rest) := by
  have hspan : rest.span (· = '*') = ([], rest) := by
    rw [List.span_eq_takeWhile_dropWhile, (takeWhile_asterisk h).1,
      (takeWhile_asterisk h).2]
  unfold nextToken
  dsimp only
  rw [hspan]
  rfl

theorem nextToken_asterisks (position : Nat) (previous : Option Char)
    (h : rest.head? ≠ some '*') :
    nextToken position previous '*' ('*' :: rest)
      = asterisks position previous 2 rest := by
  have hspan : ('*' :: rest).span (· = '*') = (['*'], rest) := by
    simp [List.span_eq_takeWhile_dropWhile, takeWhile_asterisk h]
  unfold nextToken
  dsimp only
  rw [hspan]
  rfl

theorem nextToken_more_asterisks (position : Nat) (previous : Option Char)
    (rest : List Char) :
    nextToken position previous '*' ('*' :: '*' :: rest)
      = .error ⟨.wildcards, position + 2⟩ := by
  have hspan : ('*' :: '*' :: rest).span (· = '*')
      = ('*' :: '*' :: rest.takeWhile (· = '*'), rest.dropWhile (· = '*')) := by
    simp [List.span_eq_takeWhile_dropWhile]
  unfold nextToken
  dsimp only
  rw [hspan]
  exact if_pos (by rw [List.length_cons, List.length_cons]; omega)

theorem asterisks_two_eq_ok_iff {position : Nat} :
    asterisks position previous 2 rest = .ok (token, after) ↔
      previous.any (· ≠ separator) = false ∧ token = .anyDirectories ∧
        (rest = [] ∧ after = [] ∨ rest = separator :: after) := by
  unfold asterisks
  rw [if_neg (Nat.lt_irrefl 2), if_neg (Nat.lt_irrefl 2)]
  cases hprevious : previous.any (· ≠ separator) with
  | true => simp
  | false =>
      rw [if_neg Bool.false_ne_true]
      cases rest with
      | nil =>
          simp only [Except.ok.injEq, Prod.mk.injEq, true_and, reduceCtorEq,
            or_false]
          exact ⟨fun h => ⟨h.1.symm, h.2.symm⟩, fun h => ⟨h.1.symm, h.2.symm⟩⟩
      | cons d rest =>
          by_cases hd : d = separator
          · subst hd
            dsimp only
            rw [if_pos rfl]
            simp only [Except.ok.injEq, Prod.mk.injEq, List.cons.injEq,
              true_and, reduceCtorEq, false_and, false_or]
            exact ⟨fun h => ⟨h.1.symm, h.2⟩, fun h => ⟨h.1.symm, h.2⟩⟩
          · simp [hd]

theorem nextToken_bracket (position : Nat) (previous : Option Char)
    (rest : List Char) :
    nextToken position previous '[' rest
      = match charClass? rest with
        | some found => .ok found
        | none => .error ⟨.range, position⟩ :=
  rfl

theorem isNext_of_asterisk {position : Nat}
    (h : nextToken position previous '*' rest = .ok (token, after)) :
    IsNext previous '*' rest token after := by
  by_cases hone : rest.head? = some '*'
  · rcases List.head?_eq_some_iff.1 hone with ⟨behind, rfl⟩
    by_cases htwo : behind.head? = some '*'
    · rcases List.head?_eq_some_iff.1 htwo with ⟨farther, rfl⟩
      rw [nextToken_more_asterisks] at h
      cases h
    · rw [nextToken_asterisks position previous htwo] at h
      rcases asterisks_two_eq_ok_iff.1 h with ⟨hprevious, rfl, hbehind⟩
      exact .anyDirectories hprevious hbehind
  · rw [nextToken_asterisk position previous hone] at h
    cases h
    exact .anySequence hone

theorem nextToken_eq_ok_iff {position : Nat} :
    nextToken position previous c rest = .ok (token, after) ↔
      IsNext previous c rest token after := by
  constructor
  · intro h
    by_cases hquestion : c = '?'
    · subst hquestion
      cases h
      exact .anyChar
    by_cases hbracket : c = '['
    · subst hbracket
      rw [nextToken_bracket] at h
      split at h
      next found hfound =>
        cases h
        exact .charClass hfound
      next => cases h
    by_cases hasterisk : c = '*'
    · subst hasterisk
      exact isNext_of_asterisk h
    · have hliteral : IsLiteral c := ⟨hasterisk, hquestion, hbracket⟩
      rw [nextToken_of_isLiteral hliteral] at h
      cases h
      exact .literal hliteral
  · intro h
    cases h with
    | literal h => exact nextToken_of_isLiteral h position previous rest
    | anyChar => rfl
    | charClass h => rw [nextToken_bracket, h]
    | anySequence h => exact nextToken_asterisk position previous h
    | anyDirectories hprevious h =>
        have htwo : ∀ behind,
            behind = [] ∧ after = [] ∨ behind = separator :: after →
            behind.head? ≠ some '*' := by
          rintro behind (⟨rfl, _⟩ | rfl)
          · exact (Option.some_ne_none _).symm
          · exact fun heq => absurd (Option.some.inj heq) (by decide)
        rw [nextToken_asterisks position previous (htwo _ h)]
        exact asterisks_two_eq_ok_iff.2 ⟨hprevious, rfl, h⟩

/-! ## Classes -/

theorem cutAtBracket?_eq_some_iff {inside : List Char} :
    cutAtBracket? text = some (inside, after) ↔
      text = inside ++ ']' :: after ∧ ']' ∉ inside := by
  rw [cutAtBracket?, List.span_eq_takeWhile_dropWhile]
  constructor
  · intro h
    have hsplit := List.takeWhile_append_dropWhile (p := (· ≠ ']')) (l := text)
    have hhead := List.head?_dropWhile_not (· ≠ ']') text
    have hinside : ']' ∉ text.takeWhile (· ≠ ']') := by
      intro hmem
      have hne := List.mem_takeWhile_imp hmem
      simp at hne
    cases hrest : text.dropWhile (· ≠ ']') with
    | nil =>
        rw [hrest] at h
        cases h
    | cons d behind =>
        rw [hrest] at h hhead hsplit
        obtain rfl : d = ']' := by
          simpa using hhead
        cases h
        exact ⟨hsplit.symm, hinside⟩
  · rintro ⟨rfl, hinside⟩
    have hpasses : ∀ d ∈ inside, decide (d ≠ ']') = true := by
      intro d hd
      apply decide_eq_true
      rintro rfl
      exact hinside hd
    rw [List.takeWhile_append_of_pos hpasses,
      List.dropWhile_append_of_pos hpasses]
    simp

/-- A class ends at a bracket, so what is behind the bracket does not matter. -/
theorem charClass?_append (h : charClass? text = some (token, after))
    (more : List Char) :
    charClass? (text ++ more) = some (token, after ++ more) := by
  have hcut {front inside behind : List Char}
      (hcut : cutAtBracket? front = some (inside, behind)) :
      cutAtBracket? (front ++ more) = some (inside, behind ++ more) := by
    rcases cutAtBracket?_eq_some_iff.1 hcut with ⟨rfl, hinside⟩
    exact cutAtBracket?_eq_some_iff.2 ⟨by rw [List.append_assoc]; rfl, hinside⟩
  unfold charClass? at h
  split at h
  next first rest =>
    rcases Option.map_eq_some_iff.1 h with ⟨⟨inside, behind⟩, hfound, heq⟩
    cases heq
    exact Option.map_eq_some_iff.2 ⟨_, hcut hfound, rfl⟩
  next => cases h
  next first rest hfirst hall =>
    rcases Option.map_eq_some_iff.1 h with ⟨⟨inside, behind⟩, hfound, heq⟩
    cases heq
    have hplain : first ≠ '!' := by
      rintro rfl
      cases rest with
      | nil => exact hall rfl rfl
      | cons d rest => exact hfirst d rest rfl rfl
    rw [List.cons_append]
    unfold charClass?
    split
    next heq => exact absurd (List.cons.inj heq).1 hplain
    next heq => exact absurd (List.cons.inj heq).1 hplain
    next heq =>
      cases heq
      exact Option.map_eq_some_iff.2 ⟨_, hcut hfound, rfl⟩
    next heq => cases heq
  next => cases h

/-! ## Tokens of a text -/

/-- The tokens of a text that stands behind a character. -/
inductive Tokenizes : Option Char → List Char → List Token → Prop
  | nil (previous : Option Char) : Tokenizes previous [] []
  | cons {previous : Option Char} {c : Char} {rest after : List Char}
      {token : Token} {tokens : List Token}
      (h : IsNext previous c rest token after)
      (hafter : Tokenizes
        ((c :: rest).take (rest.length + 1 - after.length)).getLast? after
          tokens) :
      Tokenizes previous (c :: rest) (token :: tokens)

theorem cutAtBracket?_isSuffix {inside : List Char}
    (h : cutAtBracket? text = some (inside, after)) : after <:+ text :=
  ⟨inside ++ [']'],
    by rw [(cutAtBracket?_eq_some_iff.1 h).1, List.append_assoc]; rfl⟩

theorem exists_of_charClass? (h : charClass? text = some (token, after)) :
    (∃ negated ranges, token = .charClass negated ranges) ∧ after <:+ text := by
  unfold charClass? at h
  split at h
  next first rest =>
    rcases Option.map_eq_some_iff.1 h with ⟨⟨inside, behind⟩, hfound, heq⟩
    cases heq
    have hsuffix : rest <:+ '!' :: first :: rest := ⟨['!', first], rfl⟩
    exact ⟨⟨_, _, rfl⟩, (cutAtBracket?_isSuffix hfound).trans hsuffix⟩
  next => cases h
  next first rest hfirst hall =>
    rcases Option.map_eq_some_iff.1 h with ⟨⟨inside, behind⟩, hfound, heq⟩
    cases heq
    exact ⟨⟨_, _, rfl⟩,
      (cutAtBracket?_isSuffix hfound).trans (List.suffix_cons first rest)⟩
  next => cases h

theorem IsNext.isSuffix (h : IsNext previous c rest token after) :
    after <:+ rest := by
  cases h with
  | literal => exact List.suffix_refl rest
  | anyChar => exact List.suffix_refl rest
  | charClass h => exact (exists_of_charClass? h).2
  | anySequence => exact List.suffix_refl rest
  | anyDirectories hprevious h =>
      rcases h with ⟨rfl, rfl⟩ | rfl
      · exact List.nil_suffix
      · exact ⟨['*', separator], rfl⟩

/-- A token that stands for a character is read off the character. -/
theorem IsNext.eq_of_char {d : Char}
    (h : IsNext previous c rest (.char d) after) : c = d := by
  cases h with
  | literal h => rfl
  | charClass h =>
      rcases (exists_of_charClass? h).1 with ⟨negated, ranges, heq⟩
      cases heq

/-- `**` is read off two asterisks at the start of a component, which it is the
whole of. -/
theorem IsNext.of_anyDirectories
    (h : IsNext previous c rest .anyDirectories after) :
    previous.any (· ≠ separator) = false ∧ c = '*' ∧
      (rest = ['*'] ∧ after = [] ∨ rest = '*' :: separator :: after) := by
  cases h with
  | charClass h =>
      rcases (exists_of_charClass? h).1 with ⟨negated, ranges, heq⟩
      cases heq
  | anyDirectories hprevious h =>
      refine ⟨hprevious, rfl, ?_⟩
      rcases h with ⟨rfl, rfl⟩ | rfl
      · exact .inl ⟨rfl, rfl⟩
      · exact .inr rfl

theorem tokenizes_nil_iff : Tokenizes previous [] tokens ↔ tokens = [] := by
  constructor
  · intro h
    cases h
    rfl
  · rintro rfl
    exact .nil previous

theorem tokenizes_cons_iff :
    Tokenizes previous (c :: rest) tokens ↔ ∃ token after others,
      IsNext previous c rest token after ∧
        Tokenizes ((c :: rest).take (rest.length + 1 - after.length)).getLast?
          after others ∧
        tokens = token :: others := by
  constructor
  · intro h
    cases h with
    | cons h hafter => exact ⟨_, _, _, h, hafter, rfl⟩
  · rintro ⟨token, after, others, h, hafter, rfl⟩
    exact .cons h hafter

/-- A round of the lexer: the next token, and what is read behind it. -/
theorem tokensFrom_cons_eq_ok_iff {fuel position : Nat} :
    tokensFrom (fuel + 1) position previous (c :: rest) = .ok tokens ↔
      ∃ token after others, IsNext previous c rest token after ∧
        (let passed := (c :: rest).take (rest.length + 1 - after.length)
         tokensFrom fuel (position + passed.length) passed.getLast? after
           = .ok others) ∧
        tokens = token :: others := by
  rw [tokensFrom]
  constructor
  · intro h
    rcases exists_of_bind_eq_ok h with ⟨⟨token, after⟩, hnext, h⟩
    rcases exists_of_bind_eq_ok h with ⟨others, hothers, h⟩
    cases h
    exact ⟨token, after, others, nextToken_eq_ok_iff.1 hnext, hothers, rfl⟩
  · rintro ⟨token, after, others, hnext, hothers, rfl⟩
    rw [nextToken_eq_ok_iff.2 hnext]
    exact congrArg (Except.map (token :: ·)) hothers

theorem tokensFrom_eq_ok_iff {fuel position : Nat}
    (hfuel : text.length ≤ fuel) :
    tokensFrom fuel position previous text = .ok tokens ↔
      Tokenizes previous text tokens := by
  induction fuel generalizing position previous text tokens with
  | zero =>
      rw [List.length_eq_zero_iff.1 (Nat.le_zero.1 hfuel), tokenizes_nil_iff,
        tokensFrom, Except.ok.injEq]
      exact eq_comm
  | succ fuel ih =>
      cases text with
      | nil =>
          rw [tokenizes_nil_iff, tokensFrom, Except.ok.injEq]
          · exact eq_comm
          · exact Nat.succ_ne_zero fuel
      | cons c rest =>
          have hrest : rest.length ≤ fuel := Nat.le_of_succ_le_succ hfuel
          rw [tokensFrom_cons_eq_ok_iff, tokenizes_cons_iff]
          refine exists_congr fun token => exists_congr fun after =>
            exists_congr fun others => ?_
          exact and_congr_right fun hnext =>
            and_congr_left' (ih (hnext.isSuffix.length_le.trans hrest))

theorem parse_eq_ok_iff :
    parse text = .ok tokens ↔ Tokenizes none text tokens :=
  tokensFrom_eq_ok_iff le_rfl

/-! ## Components -/

theorem IsNext.of_any {other : Option Char}
    (h : IsNext previous c rest token after)
    (hother : other.any (· ≠ separator) = previous.any (· ≠ separator)) :
    IsNext other c rest token after := by
  cases h with
  | literal h => exact .literal h
  | anyChar => exact .anyChar
  | charClass h => exact .charClass h
  | anySequence h => exact .anySequence h
  | anyDirectories hprevious h =>
      exact .anyDirectories (hother.trans hprevious) h

theorem Tokenizes.of_any {other : Option Char}
    (h : Tokenizes previous text tokens)
    (hother : other.any (· ≠ separator) = previous.any (· ≠ separator)) :
    Tokenizes other text tokens := by
  cases h with
  | nil => exact .nil other
  | cons h hafter => exact .cons (h.of_any hother) hafter

/-- A token that is no `**` stands for what it stands for with another component
behind it. -/
theorem IsNext.append (h : IsNext previous c rest token after)
    (htoken : token ≠ .anyDirectories) (other : Option Char)
    (more : List Char) :
    IsNext other c (rest ++ separator :: more) token
      (after ++ separator :: more) := by
  cases h with
  | literal h => exact .literal h
  | anyChar => exact .anyChar
  | charClass h => exact .charClass (charClass?_append h _)
  | anySequence h =>
      apply IsNext.anySequence
      cases rest with
      | nil => exact fun heq => absurd (Option.some.inj heq) (by decide)
      | cons d rest => exact h
  | anyDirectories => exact absurd rfl htoken

theorem tokenizes_cons_literal (h : IsLiteral c)
    (hrest : Tokenizes (some c) rest tokens) (previous : Option Char) :
    Tokenizes previous (c :: rest) (.char c :: tokens) := by
  have hlast : ((c :: rest).take (rest.length + 1 - rest.length)).getLast?
      = some c := by
    rw [Nat.add_sub_cancel_left]
    rfl
  exact .cons (.literal h) (hlast ▸ hrest)

theorem Tokenizes.append (h : Tokenizes previous text tokens)
    (hdirectories : .anyDirectories ∉ tokens)
    (hmore : Tokenizes (some separator) more others) (other : Option Char) :
    Tokenizes other (text ++ separator :: more)
      (tokens ++ .char separator :: others) := by
  induction h generalizing other with
  | nil => exact tokenizes_cons_literal (by decide) hmore other
  | cons h hafter ih =>
      have hmem := List.not_mem_of_not_mem_cons hdirectories
      exact .cons
        (h.append (List.ne_of_not_mem_cons hdirectories).symm other more)
        (ih hmem _)

theorem tokenizes_directories (hprevious : previous.any (· ≠ separator) = false)
    (hmore : Tokenizes (some separator) more others) :
    Tokenizes previous ('*' :: '*' :: separator :: more)
      (.anyDirectories :: others) := by
  have hpassed : ('*' :: '*' :: separator :: more).take
      (('*' :: separator :: more).length + 1 - more.length)
      = ['*', '*', separator] := by
    have hlength : ('*' :: separator :: more).length + 1 - more.length = 3 := by
      rw [List.length_cons, List.length_cons]
      omega
    rw [hlength]
    rfl
  refine .cons (.anyDirectories hprevious (.inr rfl)) ?_
  rw [hpassed]
  exact hmore

theorem IsNext.any_passed (h : IsNext previous c rest token after)
    (hseparator : separator ∉ c :: rest) :
    (((c :: rest).take (rest.length + 1 - after.length)).getLast?).any
    (· ≠ separator) = true := by
  have hne : (c :: rest).take (rest.length + 1 - after.length) ≠ [] := by
    have hlength := h.isSuffix.length_le
    rw [Ne, List.take_eq_nil_iff]
    rintro (hzero | hnil)
    · omega
    · cases hnil
  rw [List.getLast?_eq_some_getLast hne, Option.any_some, decide_eq_true_eq]
  intro heq
  exact hseparator (heq ▸ List.mem_of_mem_take (List.getLast_mem hne))

theorem IsNext.separator_notMem (h : IsNext previous c rest token after)
    (hseparator : separator ∉ c :: rest) :
    separator ∉ after :=
  fun hmem => hseparator (List.mem_cons_of_mem c (h.isSuffix.subset hmem))

/-- Behind another character than a separator no `**` stands. -/
theorem Tokenizes.anyDirectories_notMem (h : Tokenizes previous text tokens)
    (hseparator : separator ∉ text)
    (hprevious : previous.any (· ≠ separator) = true) :
    .anyDirectories ∉ tokens := by
  induction h with
  | nil => exact List.not_mem_nil
  | @cons previous c rest after token tokens h hafter ih =>
      refine List.not_mem_cons_of_ne_of_not_mem ?_
        (ih (h.separator_notMem hseparator) (h.any_passed hseparator))
      rintro rfl
      exact absurd (hprevious.symm.trans h.of_anyDirectories.1) (by decide)

/-- In a component `**` stands alone. -/
theorem Tokenizes.eq_directories (h : Tokenizes previous text tokens)
    (hseparator : separator ∉ text) (hdirectories : .anyDirectories ∈ tokens) :
    text = ['*', '*'] ∧ tokens = [.anyDirectories] := by
  cases h with
  | nil => cases hdirectories
  | @cons _ c rest after token tokens h hafter =>
      have hothers := hafter.anyDirectories_notMem
        (h.separator_notMem hseparator) (h.any_passed hseparator)
      rcases List.mem_cons.1 hdirectories with rfl | hmem
      · rcases h.of_anyDirectories with ⟨-, rfl, ⟨rfl, rfl⟩ | rfl⟩
        · cases hafter
          exact ⟨rfl, rfl⟩
        · exact absurd
            (List.mem_cons_of_mem _ (List.mem_cons_of_mem _ List.mem_cons_self))
              hseparator
      · exact absurd hmem hothers

/-- A token that stands for a character is the character. -/
theorem Tokenizes.mem_of_char_mem {d : Char}
    (h : Tokenizes previous text tokens) (hd : .char d ∈ tokens) :
    d ∈ text := by
  induction h with
  | nil => cases hd
  | @cons previous c rest after token tokens h hafter ih =>
      rcases List.mem_cons.1 hd with rfl | hmem
      · exact h.eq_of_char ▸ List.mem_cons_self
      · exact List.mem_cons_of_mem c (h.isSuffix.subset (ih hmem))

/-- What stands for itself at the start of a text is what its tokens start
with. -/
theorem Tokenizes.exists_of_literal {front : List Char}
    (h : Tokenizes previous (front ++ rest) tokens)
    (hfront : ∀ c ∈ front, IsLiteral c) :
    ∃ more, tokens = front.map Token.char ++ more := by
  induction front generalizing previous tokens with
  | nil => exact ⟨tokens, rfl⟩
  | cons c front ih =>
      have hliteral := hfront c List.mem_cons_self
      rw [List.cons_append] at h
      generalize hall : front ++ rest = all at h
      cases h with
      | cons h hafter =>
          cases h with
          | literal =>
              rw [← hall] at hafter
              rcases ih hafter fun d hd =>
                hfront d (List.mem_cons_of_mem c hd) with ⟨more, rfl⟩
              exact ⟨more, rfl⟩
          | anyChar => exact absurd rfl hliteral.2.1
          | charClass => exact absurd rfl hliteral.2.2
          | anySequence => exact absurd rfl hliteral.1
          | anyDirectories => exact absurd rfl hliteral.1

theorem Tokenizes.ne_nil (h : Tokenizes previous text tokens)
    (hne : text ≠ []) : tokens ≠ [] := by
  cases h with
  | nil => exact absurd rfl hne
  | cons h hafter => exact List.cons_ne_nil _ _

end Glob
end BuildHost
