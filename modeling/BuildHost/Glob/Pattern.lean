import BuildHost.Path.Basic

/-!
# Patterns of paths

In a pattern `?` stands for any character and `*` for any characters, `[...]`
for one of the characters listed and `[!...]` for one that is not, and `**`
between separators for any directories.  Separators are characters like others,
except that `**` passes whole directories.
-/

namespace BuildHost
namespace Glob

structure CharRange where
  first : Char
  last : Char
deriving DecidableEq, Repr

def CharRange.contains (range : CharRange) (c : Char) : Bool :=
  range.first ≤ c && c ≤ range.last

inductive Token where
  /-- The character itself. -/
  | char (c : Char)
  /-- Any one character. -/
  | anyChar
  /-- A character of one of the ranges, or of none of them. -/
  | charClass (negated : Bool) (ranges : List CharRange)
  /-- Any characters. -/
  | anySequence
  /-- Any directories, each with its separator. -/
  | anyDirectories
deriving DecidableEq, Repr

/-! ## Reading -/

inductive PatternFault.Kind where
  | wildcards
  | recursiveWildcards
  | range
deriving DecidableEq, Repr

/-- What is wrong with a pattern, and after how many characters. -/
structure PatternFault where
  kind : PatternFault.Kind
  position : Nat
deriving DecidableEq, Repr

def PatternFault.message (fault : PatternFault) : String :=
  let reason := match fault.kind with
    | .wildcards => "wildcards are either regular `*` or recursive `**`"
    | .recursiveWildcards =>
      "recursive wildcards must form a single path component"
    | .range => "invalid range pattern"
  s!"Pattern syntax error near position {fault.position}: " ++ reason

/-- The ranges that the characters in brackets list; a hyphen between two of
them makes a range. -/
def ranges : List Char → List CharRange
  | first :: '-' :: last :: rest => ⟨first, last⟩ :: ranges rest
  | c :: rest => ⟨c, c⟩ :: ranges rest
  | [] => []

/-- Cuts a text at its first closing bracket, which is in neither part. -/
def cutAtBracket? (text : List Char) : Option (List Char × List Char) :=
  match text.span (· ≠ ']') with
  | (_, []) => none
  | (inside, _ :: after) => some (inside, after)

/-- The class whose opening bracket was passed, and the text behind it.  The
first character of a class may be a closing bracket. -/
def charClass? : List Char → Option (Token × List Char)
  | '!' :: first :: rest =>
    (cutAtBracket? rest).map fun (inside, after) =>
      (.charClass true (ranges (first :: inside)), after)
  | '!' :: [] => none
  | first :: rest =>
    (cutAtBracket? rest).map fun (inside, after) =>
      (.charClass false (ranges (first :: inside)), after)
  | [] => none

/-- The token of a run of asterisks at a position, and the text behind it.  Two
asterisks must have a separator on either side, or an end of the pattern. -/
def asterisks (position : Nat) (previous : Option Char) (count : Nat)
    (after : List Char) :
    Except PatternFault (Token × List Char) :=
  if 2 < count then .error ⟨.wildcards, position + 2⟩
  else if count < 2 then .ok (.anySequence, after)
  else if previous.any (· ≠ Path.separator)
    then .error ⟨.recursiveWildcards, position - 1⟩
  else
    match after with
    | [] => .ok (.anyDirectories, [])
    | c :: rest =>
      if c = Path.separator then .ok (.anyDirectories, rest)
      else .error ⟨.recursiveWildcards, position + 2⟩

def nextToken (position : Nat) (previous : Option Char) (c : Char)
    (rest : List Char) :
    Except PatternFault (Token × List Char) :=
  match c with
  | '?' => .ok (.anyChar, rest)
  | '*' =>
    let (more, after) := rest.span (· = '*')
    asterisks position previous (more.length + 1) after
  | '[' =>
    match charClass? rest with
    | some found => .ok found
    | none => .error ⟨.range, position⟩
  | c => .ok (.char c, rest)

/-- The tokens of a text at a position; `fuel` bounds the characters to come. -/
def tokensFrom :
    Nat → Nat → Option Char → List Char → Except PatternFault (List Token)
  | 0, _, _, _ => .ok []
  | _, _, _, [] => .ok []
  | fuel + 1, position, previous, c :: rest => do
    let (token, after) ← nextToken position previous c rest
    let passed := (c :: rest).take (rest.length + 1 - after.length)
    let tokens ← tokensFrom fuel (position + passed.length)
        passed.getLast? after
    return token :: tokens

def parse (pattern : Path) : Except PatternFault (List Token) :=
  tokensFrom pattern.length 0 none pattern

/-! ## Matching -/

/-- Whether a token that stands for one character stands for `c`. -/
def Token.admits (token : Token) (c : Char) : Bool :=
  match token with
  | char d => c = d
  | anyChar => true
  | charClass negated ranges => ranges.any (·.contains c) != negated
  | anySequence | anyDirectories => false

def suffixes : List Char → List (List Char)
  | [] => [[]]
  | c :: rest => (c :: rest) :: suffixes rest

def directoryStarts (text : List Char) : List (List Char) :=
  text :: (suffixes text).filterMap fun suffix =>
    if suffix.head? = some Path.separator then some suffix.tail else none

def accepts : List Token → List Char → Bool
  | [], text => text.isEmpty
  | .anySequence :: tokens, text => (suffixes text).any (accepts tokens)
  | [.anyDirectories], _ => true
  | .anyDirectories :: tokens, text =>
    (directoryStarts text).any (accepts tokens)
  | token :: tokens, text =>
    match text with
    | [] => false
    | c :: rest => token.admits c && accepts tokens rest

end Glob
end BuildHost
