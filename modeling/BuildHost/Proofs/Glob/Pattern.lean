import BuildHost.Glob.Walk
import BuildHost.Path.Lemmas

/-!
# Patterns without wildcards

A text without `*`, `?` and `[` stands for itself (`parse_literal`); with two
asterisks, a separator and one asterisk behind it, it stands for everything
below itself (`parseWalk_everything`).
-/

namespace BuildHost
namespace Glob

open BuildHost.Path

/-- A character that stands for itself in a pattern. -/
def IsLiteral (c : Char) : Prop :=
  c ≠ '*' ∧ c ≠ '?' ∧ c ≠ '['

instance (c : Char) : Decidable (IsLiteral c) :=
  inferInstanceAs (Decidable (_ ∧ _))

/-! ## Tokens -/

theorem nextToken_of_isLiteral {c : Char} (h : IsLiteral c) (position : Nat)
    (previous : Option Char) (rest : List Char) :
    nextToken position previous c rest = .ok (.char c, rest) := by
  unfold nextToken
  split
  · exact absurd rfl h.2.1
  · exact absurd rfl h.1
  · exact absurd rfl h.2.2
  · rfl

theorem tokensFrom_cons {c : Char} (h : IsLiteral c) (fuel position : Nat)
    (previous : Option Char) (rest : List Char) :
    tokensFrom (fuel + 1) position previous (c :: rest)
      = (tokensFrom fuel (position + 1) (some c) rest).map
        (Token.char c :: ·) := by
  have hpassed : (c :: rest).take (rest.length + 1 - rest.length) = [c] := by
    rw [Nat.add_sub_cancel_left]
    rfl
  rw [tokensFrom, nextToken_of_isLiteral h]
  show (tokensFrom fuel
    (position + ((c :: rest).take (rest.length + 1 - rest.length)).length)
    ((c :: rest).take (rest.length + 1 - rest.length)).getLast? rest
      >>= fun tokens => _) = _
  rw [hpassed]
  rfl

/-- The characters of a text without wildcards are its tokens. -/
theorem tokensFrom_append {text : List Char} (h : ∀ c ∈ text, IsLiteral c)
    (fuel position : Nat) (previous : Option Char) {rest : List Char}
    {tokens : List Token}
    (hrest : tokensFrom fuel (position + text.length)
      (text.getLast?.or previous) rest = .ok tokens) :
    tokensFrom (fuel + text.length) position previous (text ++ rest)
      = .ok (text.map Token.char ++ tokens) := by
  induction text generalizing position previous with
  | nil => exact hrest
  | cons c text ih =>
      have hprevious : ((c :: text).getLast?.or previous)
          = text.getLast?.or (some c) := by
        cases text with
        | nil => rfl
        | cons d text => simp [List.getLast?_cons]
      rw [hprevious, List.length_cons, Nat.add_comm text.length 1,
        ← Nat.add_assoc] at hrest
      have hothers := ih (fun d hd => h d (List.mem_cons_of_mem c hd))
        (position + 1) (some c) hrest
      rw [List.length_cons, ← Nat.add_assoc, List.cons_append,
        tokensFrom_cons (h c List.mem_cons_self), hothers]
      rfl

theorem parse_literal {text : Path} (h : ∀ c ∈ text, IsLiteral c) :
    parse text = .ok (text.map Token.char) := by
  have hread := tokensFrom_append h 0 0 none
    (show tokensFrom 0 _ _ [] = .ok [] from rfl)
  rw [List.append_nil, List.append_nil, Nat.zero_add] at hread
  exact hread

/-- What stands for everything below a directory, behind the directory. -/
def everything : Path := "/**/*".toList

theorem parse_everything {text : Path} (h : ∀ c ∈ text, IsLiteral c) :
    parse (text ++ everything)
      = .ok ((text ++ [separator]).map Token.char ++ [.anyDirectories,
        .anySequence]) := by
  have hliteral : ∀ c ∈ text ++ [separator], IsLiteral c := by
    intro c hc
    rcases List.mem_append.1 hc with hc | hc
    · exact h c hc
    · rw [List.mem_singleton.1 hc]
      decide
  have hstars : tokensFrom 4 (0 + (text ++ [separator]).length)
      ((text ++ [separator]).getLast?.or none) "**/*".toList
        = .ok [.anyDirectories, .anySequence] := by
    rw [List.getLast?_concat]
    rfl
  have hread := tokensFrom_append hliteral 4 0 none hstars
  have hlength : (text ++ everything).length
      = 4 + (text ++ [separator]).length := by
    rw [List.length_append, List.length_append]
    show text.length + 5 = 4 + (text.length + 1)
    omega
  have htext : text ++ everything = (text ++ [separator]) ++ "**/*".toList := by
    rw [List.append_assoc]
    rfl
  rw [parse, hlength, htext]
  exact hread

/-! ## Components -/

theorem nameOf?_map_char (name : Path) :
    Component.nameOf? (name.map Token.char) = some name := by
  induction name with
  | nil => rfl
  | cons c rest ih =>
      rw [Component.nameOf?] at ih ⊢
      rw [List.map_cons, List.mapM_cons, ih]
      rfl

theorem parse_component_of_isLiteral {name : Path}
    (h : ∀ c ∈ name, IsLiteral c) :
    Component.parse name = .ok (.exactly name) := by
  have hne : name.map Token.char ≠ [.anyDirectories] := by
    cases name with
    | nil => simp
    | cons c rest => simp
  rw [Component.parse, parse_literal h]
  dsimp only [bind, Except.bind]
  rw [if_neg hne, nameOf?_map_char]
  rfl

/-- The components that stand for everything below a directory. -/
def everythingBelow : List Component := [.directories, .pattern [.anySequence]]

theorem mapM_parse_names {names : List Path}
    (h : ∀ name ∈ names, ∀ c ∈ name, IsLiteral c) :
    (names ++ ["**".toList, "*".toList]).mapM Component.parse
      = .ok (names.map Component.exactly ++ everythingBelow) := by
  induction names with
  | nil => rfl
  | cons name rest ih =>
      rw [List.cons_append, List.mapM_cons,
        parse_component_of_isLiteral (h name List.mem_cons_self),
        ih fun other hother => h other (List.mem_cons_of_mem name hother)]
      rfl

theorem collapse_names (names : List Path) :
    collapse (names.map Component.exactly ++ everythingBelow)
      = names.map Component.exactly ++ everythingBelow := by
  induction names with
  | nil => rfl
  | cons name rest ih =>
      rw [List.map_cons, List.cons_append, collapse, ih]
      intro hdirectories
      cases hdirectories

/-! ## Everything below a directory -/

theorem splitOn_everything (text : Path) :
    (text ++ everything).splitOn separator
      = text.splitOn separator ++ ["**".toList, "*".toList] := by
  have hstars : everything
      = separator :: ("**".toList ++ separator :: "*".toList) := rfl
  rw [hstars, List.splitOn_append_cons_self]
  rfl

theorem componentTexts_eq {pattern : Path} {names : List Path}
    (h : pattern.splitOn separator = names ++ ["**".toList, "*".toList]) :
    componentTexts pattern = names ++ ["**".toList, "*".toList] := by
  have hlast : (names ++ ["**".toList, "*".toList]).getLast? ≠ some [] := by
    simp
  rw [componentTexts, h]
  exact if_neg hlast

theorem isLiteral_of_mem_splitOn {text : Path} (h : ∀ c ∈ text, IsLiteral c) :
    ∀ name ∈ text.splitOn separator, ∀ c ∈ name, IsLiteral c :=
  fun _ hname c hc => h c (mem_of_mem_splitOn hname hc)

/-- Below a relative directory the walk starts where relative paths start. -/
theorem parseWalk_here {text : Path} (h : ∀ c ∈ text, IsLiteral c)
    (hhead : (text ++ everything).head? ≠ some separator) :
    parseWalk (text ++ everything)
      = .ok (here, (text.splitOn separator).map Component.exactly
        ++ everythingBelow) := by
  rw [parseWalk, parse_everything h,
    componentTexts_eq (splitOn_everything text)]
  · rw [mapM_parse_names (isLiteral_of_mem_splitOn h)]
    exact congrArg (fun components => Except.ok (here, components))
      (collapse_names _)
  · intro rest hrest
    rw [hrest] at hhead
    exact hhead rfl

/-- At the root `/` no name stands before the first separator. -/
theorem parseWalk_slash {text : Path} {names : List Path}
    (h : ∀ c ∈ text, IsLiteral c)
    (hnames : text.splitOn separator = [] :: names) :
    parseWalk (text ++ everything)
      = .ok (Root.slash.text,
        names.map Component.exactly ++ everythingBelow) := by
  have hsplit := splitOn_everything text
  have hparse := parse_everything h
  have hliteral : ∀ name ∈ names, ∀ c ∈ name, IsLiteral c := by
    intro name hname
    apply isLiteral_of_mem_splitOn h
    rw [hnames]
    exact List.mem_cons_of_mem _ hname
  rw [hnames, List.cons_append] at hsplit
  have hpattern : text ++ everything
      = [] ++ separator :: [separator].intercalate (names
        ++ ["**".toList, "*".toList]) := by
    have htext : [separator].intercalate ((text ++ everything).splitOn
        separator) = text ++ everything :=
      List.intercalate_splitOn separator
    rw [hsplit, List.intercalate_cons_of_ne_nil (by simp)] at htext
    exact htext.symm
  rw [hpattern, List.splitOn_append_cons_self] at hsplit
  have hcomponents := componentTexts_eq (List.cons.inj hsplit).2
  rw [hpattern] at hparse ⊢
  show (do
    let _ ← parse
        ([] ++ separator
          :: [separator].intercalate (names ++ ["**".toList, "*".toList]))
    let components ← (componentTexts
      ([separator].intercalate (names ++ ["**".toList, "*".toList]))).mapM
        Component.parse
    return (Root.slash.text, collapse components) : Except PatternFault
      (Path × List Component)) = _
  rw [hparse, hcomponents, mapM_parse_names hliteral]
  exact congrArg (fun components => Except.ok (Root.slash.text, components))
    (collapse_names _)

end Glob
end BuildHost
