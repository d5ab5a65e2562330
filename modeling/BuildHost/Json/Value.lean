import BuildHost.Number.Shortest

/-!
# JSON values

A number is held as an integer when 64 bits hold it, and as a binary floating
point number otherwise.  The members of an object keep the order in which their
names first came.
-/

namespace BuildHost
namespace Json

/-- A number: an integer of 64 bits, signed or not, or a floating point
number. -/
inductive Number where
  | int (n : Int) (fits : -0x8000000000000000 ≤ n ∧ n < 0x10000000000000000)
  | float (x : Binary64)
deriving DecidableEq, Repr

def Number.ofInt? (n : Int) : Option Number :=
  if h : -0x8000000000000000 ≤ n ∧ n < 0x10000000000000000 then some (.int n h)
  else none

/-- Numbers keep their digits where they can: without an exponent from `10 ^ -5`
up to `10 ^ 16`, and an integral number ends in a point and a zero. -/
def numberFormat : FloatFormat := ⟨-5, some 16, true⟩

def Number.text : Number → String
  | int n _ => toString n
  | float x => numberFormat.render x

inductive Value where
  | null
  | bool (b : Bool)
  | number (n : Number)
  | string (s : String)
  | array (items : List Value)
  | object (members : List (String × Value))
deriving Repr

namespace Value

/-- The member of that name, if the value is an object that has one. -/
def member? (name : String) : Value → Option Value
  | object members => members.lookup name
  | _ => none

def isNull : Value → Bool
  | null => true
  | _ => false

/-- The number of a natural number below `2 ^ 64`; `null` for a greater one. -/
def ofNat (n : Nat) : Value :=
  ((Number.ofInt? n).map number).getD null

end Value
end Json

end BuildHost
