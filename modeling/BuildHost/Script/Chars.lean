import BuildHost.Unicode.Identifier

/-!
# Characters of source texts

The characters that separate lines and tokens, and the digits of numbers.
-/

namespace BuildHost
namespace Script

def isLineBreak (c : Char) : Bool :=
  c = '\n' || c = '\r' || c = '\u2028' || c = '\u2029'

/-- The characters between tokens that end no line, as ranges of code points. -/
def blankRanges : Unicode.Ranges :=
  [(0x09, 0x09), (0x0b, 0x0c), (0x20, 0x20), (0x85, 0x85), (0xa0, 0xa0),
    (0x1680, 0x1680),
   (0x2000, 0x200b), (0x202f, 0x202f), (0x205f, 0x205f), (0x3000, 0x3000),
   (0xfeff, 0xfeff)]

/-- Whether a character stands between tokens without ending a line. -/
def isBlank (c : Char) : Bool := blankRanges.contains c

def digitValue (c : Char) : Nat :=
  if c.isDigit then c.toNat - '0'.toNat
  else if 'a' ≤ c ∧ c ≤ 'f' then c.toNat - 'a'.toNat + 10
  else if 'A' ≤ c ∧ c ≤ 'F' then c.toNat - 'A'.toNat + 10
  else 16

def isDigitOf (base : Nat) (c : Char) : Bool := digitValue c < base

def numberOf (base : Nat) (digits : List Char) : Nat :=
  digits.foldl (fun n c => base * n + digitValue c) 0

end Script
end BuildHost
