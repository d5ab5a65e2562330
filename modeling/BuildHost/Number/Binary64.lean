/-!
# Binary floating point

Numbers of the 64-bit binary format, by their three fields, with the arithmetic
that reading a number needs.  Every operation computes its exact value as a
ratio of natural numbers and rounds it once, to the nearest number of the format
and on a tie to the one with an even fraction.
-/

namespace BuildHost

structure Binary64 where
  negative : Bool
  /-- The biased exponent; `0` marks zero and subnormal numbers, `2047` what is
  not finite. -/
  exponent : Fin 2048
  fraction : Fin 0x10000000000000
deriving DecidableEq, Repr

namespace Binary64

def zero (negative : Bool) : Binary64 := ⟨negative, 0, 0⟩

def infinity (negative : Bool) : Binary64 := ⟨negative, 2047, 0⟩

def isFinite (x : Binary64) : Bool := x.exponent ≠ 2047

def isZero (x : Binary64) : Bool := x.exponent = 0 && x.fraction = 0

def fractionSize : Nat := 0x10000000000000

/-- The natural number `m` in the magnitude `m * 2 ^ q` of a finite number. -/
def significand (x : Binary64) : Nat :=
  if x.exponent = 0 then x.fraction.val else fractionSize + x.fraction.val

/-- The number `q + 1074`, which is never negative, in the magnitude `m * 2 ^ q`
of a finite number. -/
def scale (x : Binary64) : Nat :=
  if x.exponent = 0 then 0 else x.exponent.val - 1

/-- The magnitude of a finite number, as numerator and denominator. -/
def ratio (x : Binary64) : Nat × Nat :=
  (x.significand * Nat.pow 2 (x.scale - 1074), Nat.pow 2 (1074 - x.scale))

/-- The quotient rounded to the nearest natural number, on a tie to the even
one. -/
def roundDiv (num den : Nat) : Nat :=
  let quotient := num / den
  let twice := 2 * (num % den)
  if twice < den then quotient
  else if den < twice then quotient + 1
  else if quotient % 2 = 0 then quotient
  else quotient + 1

/-- The number whose magnitude is `m * 2 ^ (scale - 1074)`, for an `m` of at
most 53 bits, or of fewer when the scale is `0`. -/
def ofParts (negative : Bool) (m scale : Nat) : Binary64 :=
  if m < fractionSize then ⟨negative, 0, Fin.ofNat _ m⟩
  else
    let (m, scale) := if m = 2 * fractionSize then (fractionSize, scale + 1)
      else (m, scale)
    if scale + 1 < 2047
      then ⟨negative, Fin.ofNat _ (scale + 1), Fin.ofNat _ (m - fractionSize)⟩
    else infinity negative

def ofRatio (negative : Bool) (num den : Nat) : Binary64 :=
  if num = 0 then zero negative
  else
    -- `2 ^ top ≤ 2 ^ 1074 * num / den < 2 ^ (top + 1)`, or the ratio is below
    -- the least scale
    let scaled := num * Nat.pow 2 1074
    let guess := scaled.log2 - den.log2
    let top := if scaled < den * Nat.pow 2 guess then guess - 1 else guess
    let scale := top - 52
    ofParts negative (roundDiv scaled (den * Nat.pow 2 scale)) scale

def ofNat (n : Nat) : Binary64 := ofRatio false n 1

def mul (x y : Binary64) : Binary64 :=
  ofRatio x.negative (x.ratio.1 * y.ratio.1) (x.ratio.2 * y.ratio.2)

def div (x y : Binary64) : Binary64 :=
  ofRatio x.negative (x.ratio.1 * y.ratio.2) (x.ratio.2 * y.ratio.1)

def neg (x : Binary64) : Binary64 := { x with negative := !x.negative }

/-- `x * factor + term`, rounded once, for a number that is not negative. -/
def mulAdd (x : Binary64) (factor term : Nat) : Binary64 :=
  if x.isFinite then ofRatio false (x.ratio.1 * factor + term * x.ratio.2)
    x.ratio.2 else x

def ofDecimal (digits : Nat) (exponent : Int) : Binary64 :=
  let length := (Nat.toDigits 10 digits).length
  if digits = 0 ∨ exponent + length < -330 then zero false
  else if 310 < exponent then infinity false
  else ofRatio false (digits * Nat.pow 10 exponent.toNat)
    (Nat.pow 10 (-exponent).toNat)

def toNat? (x : Binary64) : Option Nat :=
  if x.isFinite && !x.negative && x.ratio.1 % x.ratio.2 = 0
    then some (x.ratio.1 / x.ratio.2)
  else none

example :
    (ofNat 9007199254740993).toNat? = some 9007199254740992 := by decide +kernel

example :
    (ofDecimal 5 (-324)).significand = 1 ∧ ofDecimal 2 (-324) = zero false := by
  decide +kernel

example :
    ofDecimal 17976931348623157 292 ≠ infinity false ∧
      ofDecimal 1 309 = infinity false := by
  decide +kernel

end Binary64
end BuildHost
