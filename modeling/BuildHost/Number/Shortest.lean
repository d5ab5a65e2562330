import BuildHost.Number.Binary64

/-!
# Shortest decimal text of a number

The decimal digits that stand for a finite number are those of the coarsest
power-of-ten grid that has a point which rounds to the number; of two such
points the nearer one is taken, on a tie the even one.  How the digits are laid
out is a matter of a `FloatFormat`.
-/

namespace BuildHost

structure Decimal where
  digits : Nat
  exponent : Int
deriving DecidableEq, Repr

namespace Binary64

/-- The point of the grid of multiples of `10 ^ exponent` that stands for the
magnitude of `x`, if one rounds to it. -/
def gridPoint? (x : Binary64) (exponent : Int) : Option Nat :=
  let m := x.significand
  let includesEnds := m % 2 = 0
  -- the magnitudes in quarters of the last place, scaled so that a step of the
  -- grid is `unit`
  let factor := Nat.pow 2 (x.scale - 1074) * Nat.pow 10 (-exponent).toNat
  let unit := 4 * Nat.pow 2 (1074 - x.scale) * Nat.pow 10 exponent.toNat
  let value := 4 * m * factor
  let low := (4 * m - if m = fractionSize ∧ 1 < x.exponent.val then 1 else 2)
    * factor
  let high := (4 * m + 2) * factor
  let rounds (d : Nat) : Bool :=
    let at' := d * unit
    (low < at' && at' < high) || (includesEnds && (at' = low || at' = high))
  let below := value / unit
  match rounds below, rounds (below + 1) with
  | true, true =>
    let rest := 2 * (value % unit)
    if rest < unit ∨ (rest = unit ∧ below % 2 = 0) then some below
    else some (below + 1)
  | true, false => some below
  | false, true => some (below + 1)
  | false, false => none

def Decimal.trim : Nat → Decimal → Decimal
  | 0, d => d
  | fuel + 1, d =>
    if d.digits % 10 = 0 ∧
      d.digits ≠ 0 then trim fuel ⟨d.digits / 10, d.exponent + 1⟩ else d

def gridExponents : List Int :=
  (List.range 660).map fun n => 310 - Int.ofNat n

/-- The shortest decimal that rounds to the magnitude of a finite number. -/
def shortest (x : Binary64) : Decimal :=
  if x.isZero then ⟨0, 0⟩
  else
    match gridExponents.findSome? fun e => (x.gridPoint? e).map fun d =>
      (⟨d, e⟩ : Decimal) with
    | some d => Decimal.trim 400 d
    | none => ⟨0, 0⟩

end Binary64

structure FloatFormat where
  /-- The least exponent of the first digit that is written without an
  exponent. -/
  lowest : Int
  /-- The first exponent of the first digit that is written with one again; none
  if there is no such. -/
  limit? : Option Int
  /-- Whether an integral number keeps a point and a zero. -/
  keepsPoint : Bool

namespace FloatFormat

/-- Digits without an exponent; `place` is the exponent of the first digit. -/
def positional (format : FloatFormat) (digits : List Char) (place : Int) :
    List Char :=
  if place < 0 then
    '0' :: '.' :: List.replicate (-place - 1).toNat '0' ++ digits
  else
    let whole := place.toNat + 1
    if digits.length ≤ whole then
      digits ++ List.replicate (whole - digits.length) '0' ++
        if format.keepsPoint then ['.', '0'] else []
    else digits.take whole ++ '.' :: digits.drop whole

def scientific (digits : List Char) (place : Int) : List Char :=
  let mantissa := match digits with
    | [] => []
    | [first] => [first]
    | first :: rest => first :: '.' :: rest
  mantissa ++ 'e' :: (if place < 0 then '-' else '+')
    :: Nat.toDigits 10 place.natAbs

def render (format : FloatFormat) (x : Binary64) : String :=
  let d := x.shortest
  let digits := Nat.toDigits 10 d.digits
  let place := d.exponent + digits.length - 1
  let isPositional := format.lowest ≤ place ∧ format.limit?.all (place < ·)
  let text := if isPositional then format.positional digits place
    else scientific digits place
  String.ofList (if x.negative then '-' :: text else text)

def propertyName : FloatFormat := ⟨-6, some 21, false⟩

end FloatFormat
end BuildHost
