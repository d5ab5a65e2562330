import BuildHost.Script.Chars

/-!
# Text literals

What strings and templates stand for.  An escape may give half of a surrogate
pair, which is no character; a text that holds such a half spells it, and every
replacement character, with four hexadecimal digits behind a replacement
character.
-/

namespace BuildHost
namespace Script

inductive TextUnit where
  | char (c : Char)
  /-- Half of a surrogate pair. -/
  | half (n : Nat)
deriving DecidableEq, Repr

namespace TextUnit

def ofCodePoint (n : Nat) : TextUnit :=
  if 0xd800 ≤ n ∧ n < 0xe000 then half n else char (Char.ofNat n)

def isHalf : TextUnit → Bool
  | half _ => true
  | char _ => false

def spelled (n : Nat) : List Char :=
  let digits := Nat.toDigits 16 n
  '\ufffd' :: List.replicate (4 - digits.length) '0' ++ digits

/-- The characters of a unit in a text that holds halves of surrogate pairs. -/
def spelledChars : TextUnit → List Char
  | half n => spelled n
  | char c => if c = '\ufffd' then spelled 0xfffd else [c]

def chars : TextUnit → List Char
  | half _ => []
  | char c => [c]

def text (units : List TextUnit) : String :=
  String.ofList
    (units.flatMap (if units.any isHalf then spelledChars else chars))

end TextUnit

/-! ## Escapes -/

/-- The number of exactly `count` hexadecimal digits, and the text behind
them. -/
def hexDigits (count : Nat) (text : List Char) : Option (Nat × List Char) :=
  let digits := text.take count
  if digits.length = count ∧ digits.all (isDigitOf 16) then
    some (numberOf 16 digits, text.drop count)
  else none

/-- The code point of an escape behind its `\u`, and the text behind it. -/
def codePoint (text : List Char) : Option (Nat × List Char) :=
  match text with
  | '\x7b' :: rest =>
    match rest.span (isDigitOf 16) with
    | (digits, '\x7d' :: rest) =>
      let n := numberOf 16 digits
      if digits.isEmpty || 0x10ffff < n then none else some (n, rest)
    | _ => none
  | text => hexDigits 4 text

/-- The second half of a surrogate pair that an escape at the start of a text
gives. -/
def secondHalf (text : List Char) : Option (Nat × List Char) :=
  match text with
  | '\\' :: 'u' :: rest =>
    match codePoint rest with
    | some (n, rest) => if 0xdc00 ≤ n ∧ n < 0xe000 then some (n, rest) else none
    | none => none
  | _ => none

/-- The unit of an escape behind its `\u`; two escapes may give one surrogate
pair. -/
def unicodeEscape (text : List Char) : Option (List TextUnit × List Char) := do
  let (n, rest) ← codePoint text
  if 0xd800 ≤ n ∧ n < 0xdc00 then
    match secondHalf rest with
    | some (low, rest) =>
      return ([.char
        (Char.ofNat (0x10000 + (n - 0xd800) * 0x400 + (low - 0xdc00)))], rest)
    | none => return ([.half n], rest)
  else return ([.ofCodePoint n], rest)

/-- The unit of an escape by octal digits, of which the first is given. -/
def octalEscape (c : Char) (rest : List Char) : List TextUnit × List Char :=
  let more := (rest.take (if digitValue c < 4 then 2 else 1)).takeWhile
    (isDigitOf 8)
  ([.char (Char.ofNat (numberOf 8 (c :: more)))], rest.drop more.length)

def letterEscape? : Char → Option Char
  | 'n' => some '\n'
  | 't' => some '\t'
  | 'r' => some '\r'
  | 'b' => some '\x08'
  | 'f' => some '\x0c'
  | 'v' => some '\x0b'
  | _ => none

/-- The units of an escape behind its backslash, and the text behind it.  A
template takes no escapes by octal digits but `\0`; a line break behind the
backslash stands for nothing. -/
def escape (inTemplate : Bool) (text : List Char) :
    Option (List TextUnit × List Char) :=
  match text with
  | [] => none
  | '\r' :: '\n' :: rest => some ([], rest)
  | 'x' :: rest =>
    (hexDigits 2 rest).map fun (n, rest) => ([.ofCodePoint n], rest)
  | 'u' :: rest => unicodeEscape rest
  | c :: rest =>
    if isLineBreak c then some ([], rest)
    else if c = '0' ∧ !rest.head?.any Char.isDigit
      then some ([.char '\x00'], rest)
    else if c.isDigit && inTemplate then none
    else if isDigitOf 8 c then some (octalEscape c rest)
    else some ([.char ((letterEscape? c).getD c)], rest)

/-! ## Literals -/

/-- The units of a string up to its closing quote, and the text behind that;
`fuel` bounds the characters to come. -/
def stringUnits (quote : Char) :
    Nat → List Char → Option (List TextUnit × List Char)
  | 0, _ => none
  | _, [] => none
  | fuel + 1, c :: rest =>
    if c = quote then some ([], rest)
    else if c = '\n' ∨ c = '\r' then none
    else if c = '\\' then do
      let (units, rest) ← escape false rest
      let (more, rest) ← stringUnits quote fuel rest
      return (units ++ more, rest)
    else (stringUnits quote fuel rest).map fun (more, rest) =>
      (.char c :: more, rest)

/-- The value of the string whose opening quote was passed, and the text behind
it. -/
def stringLiteral (quote : Char) (text : List Char) :
    Option (String × List Char) :=
  (stringUnits quote (text.length + 1) text).map fun (units, rest) =>
    (TextUnit.text units, rest)

structure TemplatePart where
  /-- What it stands for, unless an escape in it stands for nothing. -/
  value : Option String
  /-- Whether an expression follows. -/
  continues : Bool
deriving DecidableEq, Repr

/-- The units of a template up to its end or to an expression; a faulty escape
leaves none.  `fuel` bounds the characters to come. -/
def templateUnits :
    Nat → List Char → Option (Option (List TextUnit) × Bool × List Char)
  | 0, _ => none
  | _, [] => none
  | _, '`' :: rest => some (some [], false, rest)
  | _, '$' :: '\x7b' :: rest => some (some [], true, rest)
  | fuel + 1, '\\' :: rest =>
    match escape true rest with
    | some (units, rest) =>
      (templateUnits fuel rest).map fun (more, tail) =>
        (more.map (units ++ ·), tail)
    | none =>
      (templateUnits fuel (rest.drop 1)).map fun (_, tail) => (none, tail)
  | fuel + 1, '\r' :: rest =>
    (templateUnits fuel
      (if rest.head? = some '\n' then rest.drop 1 else rest)).map
      fun (more, tail) => (more.map (TextUnit.char '\n' :: ·), tail)
  | fuel + 1, c :: rest =>
    (templateUnits fuel rest).map fun (more, tail) =>
      (more.map (TextUnit.char c :: ·), tail)

/-- The stretch of a template at the start of a text, and the text behind it. -/
def templatePart (text : List Char) : Option (TemplatePart × List Char) :=
  (templateUnits (text.length + 1) text).map fun (units, continues, rest) =>
    (⟨units.map TextUnit.text, continues⟩, rest)

end Script
end BuildHost
