import BuildHost.Script.Number
import BuildHost.Script.Text

/-!
# Tokens

A source text is cut into tokens from its start on.  Some texts can be cut in
more than one way; a slash is taken for a division here, a closing brace for
itself, and a `>` never for more than itself.  Whoever expects a regular
expression, the rest of a template or a longer operator cuts the text again.
-/

namespace BuildHost
namespace Script

inductive Token where
  /-- The end of the text. -/
  | eof
  /-- A keyword or an identifier; one that is written with an escape is no
  keyword. -/
  | word (name : String) (escaped : Bool)
  /-- A name behind a hash. -/
  | privateName (name : String)
  /-- A punctuation mark or an operator. -/
  | symbol (text : String)
  | number (x : Binary64)
  | bigInteger (n : Nat)
  | string (value : String)
  /-- The start of a template, up to its end or to its first expression. -/
  | template (part : TemplatePart)
  /-- Characters that are no token. -/
  | invalid
deriving DecidableEq, Repr

def symbols : List String :=
  ["...", "===", "!==", "**=", "<<=", "&&=", "||=", "??=",
    "=>", "==", "!=", "<=", "<<", "&&", "||", "??", "?.", "++", "--", "**",
    "+=", "-=", "*=", "/=", "%=", "&=", "|=", "^=",
    "\x7b", "\x7d", "(", ")", "[", "]", ";", ",", "<", ">", "+", "-", "*", "/",
    "%", "&", "|", "^", "!", "~", "?", ":", "=", ".", "@"]

/-! ## Between tokens -/

inductive Gap where
  | blanks
  | lineComment
  | blockComment
deriving DecidableEq, Repr

/-- Passes blanks and comments: whether a line ended on the way, and the text
behind, which there is none of when a comment does not end. -/
def skipGap : Gap → Bool → List Char → Bool × Option (List Char)
  | .blockComment, newline, [] => (newline, none)
  | _, newline, [] => (newline, some [])
  | .blanks, newline, '/' :: '/' :: rest => skipGap .lineComment newline rest
  | .blanks, newline, '/' :: '*' :: rest => skipGap .blockComment newline rest
  | .blockComment, newline, '*' :: '/' :: rest => skipGap .blanks newline rest
  | .blanks, newline, c :: rest =>
    if isLineBreak c then skipGap .blanks true rest
    else if isBlank c then skipGap .blanks newline rest
    else (newline, some (c :: rest))
  | .lineComment, newline, c :: rest =>
    if isLineBreak c then skipGap .blanks true rest
    else skipGap .lineComment newline rest
  | .blockComment, newline, c :: rest =>
    skipGap .blockComment (newline || isLineBreak c) rest

/-! ## Names -/

/-- The characters of a name, whether one of them is written as an escape, and
the text behind; none when an escape is no part of a name. -/
def nameChars (isPart : Char → Bool) :
    List Char → Option (List Char × Bool × List Char)
  | '\\' :: rest =>
    match rest with
    | 'u' :: digits => do
      let (n, after) ← codePoint digits
      if isPart (Char.ofNat n) ∧ after.length ≤ digits.length then
        let (more, _, after) ← nameChars Unicode.isIdentifierPart after
        return (Char.ofNat n :: more, true, after)
      else none
    | _ => none
  | c :: rest =>
    if isPart c then
      (nameChars Unicode.isIdentifierPart rest).map fun (more, tail) =>
        (c :: more, tail)
    else some ([], false, c :: rest)
  | [] => some ([], false, [])
termination_by text => text.length
decreasing_by
  all_goals simp_wf
  all_goals omega

def nameAt (text : List Char) : Option (String × Bool × List Char) :=
  match nameChars Unicode.isIdentifierStart text with
  | some (c :: rest, escaped, after) =>
    some (String.ofList (c :: rest), escaped, after)
  | _ => none

/-! ## The next token -/

/-- The symbol at the start of a text, and the text behind it.  A question mark
and a point are two symbols where a digit follows. -/
def symbolAt (text : List Char) : Token × List Char :=
  let fits (symbol : String) : Option (Token × List Char) :=
    match symbol.toList.isPrefixOf? text with
    | some after =>
      if symbol = "?." ∧ after.head?.any Char.isDigit then none
      else some (.symbol symbol, after)
    | none => none
  (symbols.findSome? fits).getD (.invalid, [])

/-- The token at the start of a text, which does not start with a blank, and the
text behind it. -/
def tokenAt (text : List Char) : Token × List Char :=
  let orInvalid (found : Option (Token × List Char)) :=
    found.getD (.invalid, [])
  let name : Option (Token × List Char) :=
    (nameAt text).map fun (name, escaped, rest) => (.word name escaped, rest)
  let number : Option (Token × List Char) :=
    (numberLiteral text).map fun (literal, rest) =>
      (match literal with
        | .float x => .number x
        | .big n => .bigInteger n, rest)
  match text with
  | [] => (.eof, [])
  | '\'' :: rest =>
    orInvalid ((stringLiteral '\'' rest).map fun (s, rest) => (.string s, rest))
  | '"' :: rest =>
    orInvalid ((stringLiteral '"' rest).map fun (s, rest) => (.string s, rest))
  | '`' :: rest =>
    orInvalid
      ((templatePart rest).map fun (part, rest) => (.template part, rest))
  | '#' :: rest =>
    orInvalid
      ((nameAt rest).map fun (name, _, rest) => (.privateName name, rest))
  | '.' :: c :: _ => if c.isDigit then orInvalid number else symbolAt text
  | '\\' :: _ => orInvalid name
  | c :: _ =>
    if c.isDigit then orInvalid number
    else if Unicode.isIdentifierStart c then orInvalid name
    else symbolAt text

/-! ## Regular expressions -/

/-- The flags of a regular expression, in the order in which they are listed. -/
def regexFlags : List Char := ['g', 'i', 'm', 's', 'u', 'y', 'd', 'v']

/-- The characters of a regular expression up to its closing slash, and the text
behind that; a slash in brackets closes nothing.  `fuel` bounds the characters
to come. -/
def regexBody : Nat → Bool → List Char → Option (List Char × List Char)
  | 0, _, _ => none
  | _, _, [] => none
  | fuel + 1, inClass, c :: rest =>
    if isLineBreak c then none
    else if c = '\\' then
      match rest with
      | d :: rest =>
        if isLineBreak d then none
        else (regexBody fuel inClass rest).map fun (body, after) =>
          (c :: d :: body, after)
      | [] => none
    else if c = '/' ∧ !inClass then some ([], rest)
    else
      let inClass := if c = '[' then true else if c = ']' then false
        else inClass
      (regexBody fuel inClass rest).map fun (body, after) => (c :: body, after)

/-- The regular expression whose opening slash was passed, as text, and the text
behind it. -/
def regexLiteral (text : List Char) : Option (String × List Char) := do
  let (body, rest) ← regexBody (text.length + 1) false text
  let (flags, rest) := rest.span Unicode.isIdentifierPart
  if body.isEmpty || !flags.all regexFlags.contains || flags.eraseDups.length
    ≠ flags.length then none
  else
    let flags := regexFlags.filter flags.contains
    return (String.ofList ('/' :: body ++ '/' :: flags), rest)

end Script
end BuildHost
