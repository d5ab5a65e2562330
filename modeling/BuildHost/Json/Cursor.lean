import BuildHost.Json.Fault
import BuildHost.Utf8

/-!
# Reading along a text

A reader walks along a text with a cursor, which knows the place it stands at,
and stops at the first fault.  A fault keeps the cursor where it is, since a
list or an object that holds the fault may still look for its own end to say
where the fault lies.
-/

namespace BuildHost
namespace Json

structure Cursor where
  rest : List Char
  place : Place

namespace Cursor

def start (text : String) : Cursor := ⟨text.toList, ⟨1, 0⟩⟩

/-- The place after a number of bytes, which may lie inside a character or, when
the text ends before, at its end. -/
def placeAfter : Nat → Place → List Char → Place
  | _, place, [] => place
  | bytes, place, c :: rest =>
    if bytes = 0 then place
    else if c = '\n' then placeAfter (bytes - 1) ⟨place.line + 1, 0⟩ rest
    else if bytes < c.utf8Size then ⟨place.line, place.column + bytes⟩
    else placeAfter (bytes - c.utf8Size)
      ⟨place.line, place.column + c.utf8Size⟩ rest

def pass (cursor : Cursor) (c : Char) (rest : List Char) : Cursor :=
  ⟨rest,
    if c = '\n' then ⟨cursor.place.line + 1, 0⟩
    else ⟨cursor.place.line, cursor.place.column + c.utf8Size⟩⟩

end Cursor

abbrev Reader (α : Type) := EStateM Fault Cursor α

namespace Reader

def peek : Reader (Option Char) := do
  return (← get).rest.head?

def skip : Reader Unit :=
  modify fun cursor =>
    match cursor.rest with
    | [] => cursor
    | c :: rest => cursor.pass c rest

def skipBlanks : Reader Unit :=
  modify fun cursor => go cursor cursor.rest
where
  /-- Passes the blanks at the start of the text. -/
  go (cursor : Cursor) : List Char → Cursor
    | [] => cursor
    | c :: rest =>
      if c = ' ' ∨ c = '\n' ∨ c = '\t' ∨
        c = '\r' then go (cursor.pass c rest) rest else cursor

def peekToken : Reader (Option Char) := do
  skipBlanks
  peek

def digits : Reader (List Char) := do
  let cursor ← get
  let (ds, rest) := cursor.rest.span Char.isDigit
  set (⟨rest, ⟨cursor.place.line, cursor.place.column + ds.length⟩⟩ : Cursor)
  return ds

def faultHere {α : Type} (cause : Cause) : Reader α := do
  throw ⟨cause, some (← get).place⟩

def faultNext {α : Type} (cause : Cause) : Reader α := do
  let cursor ← get
  throw ⟨cause, some (Cursor.placeAfter 1 cursor.place cursor.rest)⟩

/-- A fault whose place the list or the object around it decides. -/
def faultWithin {α : Type} (cause : Cause) : Reader α :=
  throw ⟨cause, none⟩

def word : List Char → Reader Unit
  | [] => return ()
  | letter :: rest => do
    match ← peek with
    | none => faultHere .eofValue
    | some c =>
      if c = letter then
        skip
        word rest
      else faultNext .expectedIdent

/-! ## Strings -/

def hexValue? (c : Char) : Option Nat :=
  if c.isDigit then some (c.toNat - '0'.toNat)
  else if 'a' ≤ c ∧ c ≤ 'f' then some (c.toNat - 'a'.toNat + 10)
  else if 'A' ≤ c ∧ c ≤ 'F' then some (c.toNat - 'A'.toNat + 10)
  else none

def hexDigits : Reader Nat := do
  let cursor ← get
  if Utf8.byteLength (cursor.rest.take 4) < 4 then
    throw ⟨.eofString, some (Cursor.placeAfter 4 cursor.place cursor.rest)⟩
  else
    match (cursor.rest.take 4).mapM hexValue? with
    | some [a, b, c, d] =>
      set (⟨cursor.rest.drop 4, ⟨cursor.place.line, cursor.place.column + 4⟩⟩ :
        Cursor)
      return ((a * 16 + b) * 16 + c) * 16 + d
    | _ =>
      throw ⟨.invalidEscape,
        some (Cursor.placeAfter 4 cursor.place cursor.rest)⟩

def isLeading (n : Nat) : Bool := 0xd800 ≤ n && n ≤ 0xdbff

def isTrailing (n : Nat) : Bool := 0xdc00 ≤ n && n ≤ 0xdfff

/-- Passes a character that must stand next for a pair to go on. -/
def pairGoesOn (wanted : Char) : Reader Unit := do
  match ← peek with
  | none => faultHere .eofString
  | some c => if c = wanted then skip else faultNext .unfinishedPair

/-- The character of an escape by code units, whose `\u` is passed already. -/
def unicodeEscape : Reader Char := do
  let n ← hexDigits
  if isTrailing n then faultHere .loneSurrogate
  else if isLeading n then
    pairGoesOn '\\'
    pairGoesOn 'u'
    let low ← hexDigits
    if isTrailing low
      then return Char.ofNat (0x10000 + (n - 0xd800) * 0x400 + (low - 0xdc00))
    else faultHere .loneSurrogate
  else return Char.ofNat n

def simpleEscape? : Char → Option Char
  | '"' => some '"'
  | '\\' => some '\\'
  | '/' => some '/'
  | 'b' => some '\x08'
  | 'f' => some '\x0c'
  | 'n' => some '\n'
  | 'r' => some '\r'
  | 't' => some '\t'
  | _ => none

/-- The character of an escape whose backslash is passed already. -/
def escape : Reader Char := do
  match ← peek with
  | none => faultHere .eofString
  | some 'u' =>
    skip
    unicodeEscape
  | some c =>
    match simpleEscape? c with
    | some escaped =>
      skip
      return escaped
    | none => faultNext .invalidEscape

/-- The rest of a string behind its opening quote; `fuel` bounds the characters
to come. -/
def stringTail : Nat → List Char → Reader String
  | 0, _ => faultHere .eofString
  | fuel + 1, before => do
    match ← peek with
    | none => faultHere .eofString
    | some '"' =>
      skip
      return String.ofList before.reverse
    | some '\\' =>
      skip
      let c ← escape
      stringTail fuel (c :: before)
    | some c =>
      if c.toNat < 0x20 then faultNext .controlCharacter
      else
        skip
        stringTail fuel (c :: before)

def string : Reader String := do
  skip
  let cursor ← get
  stringTail (cursor.rest.length + 1) []

/-! ## Numbers -/

/-- The number of digits, taken as long as it stays below `2 ^ 64`, and the
digits that are left. -/
def takeDigits (n : Nat) : List Char → Nat × List Char
  | [] => (n, [])
  | c :: rest =>
    let next := 10 * n + (c.toNat - '0'.toNat)
    if next < UInt64.size then takeDigits next rest else (n, c :: rest)

/-- The exponent of a literal: its sign and digits, taken while below `2 ^ 31`;
the digits that are left show that the exponent is greater. -/
def takeExponent (n : Nat) : List Char → Nat × List Char
  | [] => (n, [])
  | c :: rest =>
    let next := 10 * n + (c.toNat - '0'.toNat)
    if next < 0x80000000 then takeExponent next rest else (n, c :: rest)

/-- `significand * 10 ^ exponent`, in steps that each round to a floating point
number; none when the result is infinite. -/
def scaleByTen (significand : Nat) (exponent : Int) : Option Binary64 :=
  let x := Binary64.ofNat significand
  if 0 ≤ exponent then
    if exponent ≤ 308 then
      let y := x.mul (Binary64.ofDecimal 1 exponent)
      if y.isFinite then some y else none
    else if x.isZero then some x
    else none
  else if -308 ≤ exponent then some (x.div (Binary64.ofDecimal 1 (-exponent)))
  else if -616 ≤ exponent then
    some ((x.div (Binary64.ofDecimal 1 308)).div
      (Binary64.ofDecimal 1 (-exponent - 308)))
  else some (Binary64.zero false)

def signed (negative : Bool) (x : Binary64) : Number :=
  .float (if negative then x.neg else x)

/-- The floating point number of a literal, or a fault when it has none. -/
def floatNumber (negative : Bool) (significand : Nat) (exponent : Int) :
    Reader Number :=
  match scaleByTen significand exponent with
  | some x => return signed negative x
  | none => faultHere .numberOutOfRange

/-- The integer of a literal without point and exponent, when 64 bits hold
it. -/
def integerNumber? (negative : Bool) (n : Nat) : Option Number :=
  if negative then (if n = 0 then none else Number.ofInt? (-n))
    else Number.ofInt? n

def exponentPart (negative : Bool) (significand : Nat) (places : Int) :
    Reader Number := do
  skip
  let negativeExponent ← do
    match ← peek with
    | some '+' =>
      skip
      pure false
    | some '-' =>
      skip
      pure true
    | _ => pure false
  match ← peek with
  | none => faultHere .eofValue
  | some c =>
    if !c.isDigit then faultNext .invalidNumber
    else
      let start ← get
      let ds ← digits
      let (exponent, left) := takeExponent 0 ds
      if left.isEmpty then
        floatNumber negative significand
          (if negativeExponent then places - exponent else places + exponent)
      else if significand ≠ 0 ∧ !negativeExponent then
        let passed := ds.length - left.length + 1
        throw ⟨.numberOutOfRange,
          some ⟨start.place.line, start.place.column + passed⟩⟩
      else return signed negative (Binary64.zero false)

def atExponent : Reader Bool := do
  match ← peek with
  | some 'e' | some 'E' => return true
  | _ => return false

/-- The rest of a literal from its point on; `dropped` counts the digits before
the point that the significand leaves out. -/
def fractionPart (negative : Bool) (significand dropped : Nat) :
    Reader Number := do
  skip
  let ds ← digits
  if ds.isEmpty then
    match ← peek with
    | some _ => faultNext .invalidNumber
    | none => faultHere .eofValue
  else
    let (significand, left) := takeDigits significand ds
    let places := (dropped : Int) - (ds.length - left.length : Nat)
    if ← atExponent then exponentPart negative significand places
    else floatNumber negative significand places

def number (negative : Bool) : Reader Number := do
  match ← peek with
  | none => faultHere .eofValue
  | some c =>
    if !c.isDigit then faultNext .invalidNumber
    else
      let ds ← if c = '0' then (do skip; pure ['0']) else digits
      if c = '0' ∧ (← peek).any Char.isDigit then faultNext .invalidNumber
      else
        let (significand, left) := takeDigits 0 ds
        if (← peek) = some '.'
          then fractionPart negative significand left.length
        else if ← atExponent then exponentPart negative significand left.length
        else
          match if left.isEmpty then integerNumber? negative significand
            else none with
          | some n => return n
          | none => floatNumber negative significand left.length

end Reader
end Json
end BuildHost
