import BuildHost.Number.Binary64
import BuildHost.Script.Chars

/-!
# Number literals

Numbers are written in decimal, with a point and an exponent if need be, or as
integers to the base 2, 8 or 16; underscores may stand between digits.  An
integer with an `n` behind it is one of any size.
-/

namespace BuildHost
namespace Script

inductive NumberLiteral where
  | float (x : Binary64)
  | big (n : Nat)
deriving DecidableEq, Repr

/-- The digits at the start of a text, and the text behind them; none when an
underscore does not stand between two digits. -/
def digitRun (isDigit : Char → Bool) (behindDigit : Bool) :
    List Char → Option (List Char × List Char)
  | [] => some ([], [])
  | c :: rest =>
    if isDigit c then
      (digitRun isDigit true rest).map fun (digits, after) =>
        (c :: digits, after)
    else if c = '_' then
      if behindDigit && rest.head?.any isDigit then digitRun isDigit false rest
      else none
    else some ([], c :: rest)

/-- How many digits of a base, which is no power of ten, fit into 64 bits
whatever they are. -/
def exactDigits (base : Nat) : Nat :=
  match base with
  | 2 => 64
  | 8 => 21
  | _ => 16

/-- The value of an integer.  To a base other than ten, digits beyond those that
fit into 64 bits make every digit be added by itself, and each step be
rounded. -/
def integerValue (base : Nat) (digits : List Char) : Binary64 :=
  if base = 10 ∨ digits.length ≤ exactDigits base
    then Binary64.ofNat (numberOf base digits)
  else digits.foldl (fun x c => x.mulAdd base (digitValue c))
    (Binary64.zero false)

def endLiteral (literal : NumberLiteral) (rest : List Char) :
    Option (NumberLiteral × List Char) :=
  if rest.head?.any fun c => c.isDigit || Unicode.isIdentifierStart c then none
  else some (literal, rest)

/-- An integer whose digits stand next, to a base other than ten. -/
def radixLiteral (base : Nat) (text : List Char) :
    Option (NumberLiteral × List Char) := do
  let (digits, rest) ← digitRun (isDigitOf base) false text
  if digits.isEmpty then none
  else
    match rest with
    | 'n' :: rest => endLiteral (.big (numberOf base digits)) rest
    | rest => endLiteral (.float (integerValue base digits)) rest

def exponentPart (text : List Char) : Option (Option Int × List Char) :=
  let digitsOf (text : List Char) : Option (Int × List Char) := do
    let (digits, rest) ← digitRun Char.isDigit false text
    if digits.isEmpty then none else some (Int.ofNat (numberOf 10 digits), rest)
  match text with
  | c :: rest =>
    if c = 'e' ∨ c = 'E' then
      match rest with
      | '-' :: rest => (digitsOf rest).map fun (n, rest) => (some (-n), rest)
      | '+' :: rest => (digitsOf rest).map fun (n, rest) => (some n, rest)
      | rest => (digitsOf rest).map fun (n, rest) => (some n, rest)
    else some (none, text)
  | [] => some (none, [])

def fractionPart (text : List Char) : Option (Option (List Char) × List Char) :=
  match text with
  | '.' :: rest =>
    (digitRun Char.isDigit false rest).map fun (digits, rest) =>
      (some digits, rest)
  | rest => some (none, rest)

/-- The literal whose decimal digits before the point are given. -/
def decimalTail (whole text : List Char) :
    Option (NumberLiteral × List Char) := do
  let (fraction, rest) ← fractionPart text
  let (exponent, rest) ← exponentPart rest
  if fraction.isNone ∧
    exponent.isNone then endLiteral (.float (integerValue 10 whole)) rest
  else
    let places := fraction.getD []
    let digits := numberOf 10 (whole ++ places)
    endLiteral
      (.float (Binary64.ofDecimal digits (exponent.getD 0 - places.length)))
        rest

/-- An integer that starts with a zero and another digit: to the base 8 if its
digits allow it. -/
def zeroLiteral (text : List Char) : Option (NumberLiteral × List Char) :=
  let (digits, rest) := text.span Char.isDigit
  if digits.all (isDigitOf 8)
    then endLiteral (.float (integerValue 8 (digits.drop 1))) rest
  else decimalTail digits rest

/-- The literal at the start of a text, which starts with a digit, or with a
point and a digit, and the text behind it. -/
def numberLiteral (text : List Char) : Option (NumberLiteral × List Char) :=
  match text with
  | '0' :: c :: rest =>
    if c = 'b' ∨ c = 'B' then radixLiteral 2 rest
    else if c = 'o' ∨ c = 'O' then radixLiteral 8 rest
    else if c = 'x' ∨ c = 'X' then radixLiteral 16 rest
    else if c = 'n' then endLiteral (.big 0) rest
    else if c.isDigit then zeroLiteral text
    else decimalTail ['0'] (c :: rest)
  | text => do
    let (whole, rest) ← digitRun Char.isDigit false text
    match rest with
    | 'n' :: rest => endLiteral (.big (numberOf 10 whole)) rest
    | rest => decimalTail whole rest

end Script
end BuildHost
