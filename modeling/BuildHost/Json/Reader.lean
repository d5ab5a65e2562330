import BuildHost.Json.Cursor
import BuildHost.OrderedMap

/-!
# Reading JSON values

Readers for any value and for values of a wanted kind, and the passing over of
values that nobody wants.  Lists and objects may nest 127 deep; a value that is
passed over may nest without a limit.
-/

namespace BuildHost
namespace Json
namespace Reader

/-- How deep brackets may nest: the bracket of this level is a fault. -/
def maximalDepth : Nat := 128

/-! ## Lists -/

/-- Whether another element stands next in a list; `first` before the first
one. -/
def hasElement (first : Bool) : Reader Bool := do
  match ← peekToken with
  | none => faultNext .eofList
  | some ']' => return false
  | some c =>
    if first then return true
    else if c = ',' then
      skip
      match ← peekToken with
      | none => faultNext .eofValue
      | some ']' => faultNext .trailingComma
      | some _ => return true
    else faultNext .expectedListEnd

def closeList : Reader Unit := do
  match ← peekToken with
  | none => faultNext .eofList
  | some ']' => skip
  | some ',' =>
    skip
    match ← peekToken with
    | some ']' => faultNext .trailingComma
    | _ => faultNext .trailingCharacters
  | some _ => faultNext .trailingCharacters

/-! ## Objects -/

/-- Whether another member stands next in an object; `first` before the first
one. -/
def hasMember (first : Bool) : Reader Bool := do
  match ← peekToken with
  | none => faultNext .eofObject
  | some '\x7d' => return false
  | some c =>
    if first then
      if c = '"' then return true else faultNext .keyNotString
    else if c = ',' then
      skip
      match ← peekToken with
      | none => faultNext .eofValue
      | some '"' => return true
      | some '\x7d' => faultNext .trailingComma
      | some _ => faultNext .keyNotString
    else faultNext .expectedObjectEnd

def closeObject : Reader Unit := do
  match ← peekToken with
  | none => faultNext .eofObject
  | some '\x7d' => skip
  | some ',' => faultNext .trailingComma
  | some _ => faultNext .trailingCharacters

def colon : Reader Unit := do
  match ← peekToken with
  | none => faultNext .eofObject
  | some ':' => skip
  | some _ => faultNext .expectedColon

/-! ## Brackets -/

/-- Reads what stands in brackets: passes the opening one, reads `body` and
passes the closing one.  The end is looked for behind a fault of `body` too,
since a fault without a place takes the place that the search ends at. -/
def enclosed {α : Type} (close : Reader Unit) (body : Reader α) : Reader α :=
  fun cursor =>
  match (skip *> body) cursor with
  | .ok a cursor =>
    match close cursor with
    | .ok _ cursor => .ok a cursor
    | .error fault cursor => .error fault cursor
  | .error fault cursor =>
    let after : Cursor := match close cursor with
      | .ok _ after => after
      | .error _ after => after
    .error (if fault.place?.isSome then fault
      else { fault with place? := some after.place }) after

def nested {α : Type} (depth : Nat) (close : Reader Unit)
    (body : Nat → Reader α) : Reader α :=
  if depth ≤ 1 then faultNext .recursionLimit
  else enclosed close (body (depth - 1))

/-- Runs `read` for each element of a list; `fuel` bounds their number. -/
def elements {σ : Type} (read : σ → Reader σ) : Nat → Bool → σ → Reader σ
  | 0, _, s => return s
  | fuel + 1, first, s => do
    if ← hasElement first then
      let s ← read s
      elements read fuel false s
    else return s

/-- Runs `read` with the name of each member of an object; `fuel` bounds their
number. -/
def members {σ : Type} (read : String → σ → Reader σ) :
    Nat → Bool → σ → Reader σ
  | 0, _, s => return s
  | fuel + 1, first, s => do
    if ← hasMember first then
      let name ← string
      let s ← read name s
      members read fuel false s
    else return s

def bound : Reader Nat := do
  return (← get).rest.length + 1

def list {α : Type} (depth : Nat) (item : Nat → Reader α) : Reader (List α) :=
  nested depth closeList fun depth => do
    let items ← elements (fun items => do return (← item depth) :: items)
        (← bound) true []
    return items.reverse

/-- The members of the object that stands next, put together by `add`. -/
def object {α β : Type} (depth : Nat) (add : String → α → List β → List β)
    (item : Nat → Reader α) :
    Reader (List β) :=
  nested depth closeObject fun depth => do
    members (fun name entries => do
      colon
      return add name (← item depth) entries) (← bound) true []

/-! ## Any value -/

/-- The value that stands next; `add` puts the members of an object together. -/
def anyValue (add : String → Value → List (String × Value) →
      List (String × Value)) :
    Nat → Reader Value
  | 0 => faultNext .recursionLimit
  | depth + 1 => do
    match ← peekToken with
    | none => faultNext .eofValue
    | some 'n' =>
      skip
      word ['u', 'l', 'l']
      return .null
    | some 't' =>
      skip
      word ['r', 'u', 'e']
      return .bool true
    | some 'f' =>
      skip
      word ['a', 'l', 's', 'e']
      return .bool false
    | some '-' =>
      skip
      return .number (← number true)
    | some '"' => return .string (← string)
    | some '[' =>
      if depth = 0 then faultNext .recursionLimit
      else
        enclosed closeList do
          let items ← elements
              (fun items => do return (← anyValue add depth) :: items)
            (← bound) true []
          return .array items.reverse
    | some '\x7b' =>
      if depth = 0 then faultNext .recursionLimit
      else
        enclosed closeObject do
          let entries ← members (fun name entries => do
            colon
            return add name (← anyValue add depth) entries) (← bound) true []
          return .object entries
    | some c =>
      if c.isDigit then return .number (← number false)
      else faultNext .expectedValue

def value (depth : Nat) : Reader Value :=
  anyValue OrderedMap.insert depth

def rawValue (depth : Nat) : Reader Value :=
  anyValue (fun name item entries => entries ++ [(name, item)]) depth

/-! ## Passing over a value -/

/-- Passes the rest of a string that nobody wants; `fuel` bounds its
characters. -/
def passString : Nat → Reader Unit
  | 0 => return ()
  | fuel + 1 => do
    match ← peek with
    | none => faultHere .eofString
    | some '"' => skip
    | some '\\' =>
      skip
      match ← peek with
      | none => faultHere .eofString
      | some 'u' =>
        skip
        let _ ← hexDigits
        passString fuel
      | some c =>
        if (simpleEscape? c).isSome then
          skip
          passString fuel
        else faultNext .invalidEscape
    | some c =>
      if c.toNat < 0x20 then faultHere .controlCharacter
      else
        skip
        passString fuel

def skipString : Reader Unit := do
  skip
  passString (← bound)

def skipExponent : Reader Unit := do
  skip
  match ← peek with
  | some '+' | some '-' => skip
  | _ => pure ()
  match ← peek with
  | none => faultHere .invalidNumber
  | some c =>
    if c.isDigit then
      let _ ← digits
    else faultNext .invalidNumber

def skipNumber : Reader Unit := do
  match ← peek with
  | none => faultHere .invalidNumber
  | some c =>
    if !c.isDigit then faultNext .invalidNumber
    else
      if c = '0' then
        skip
      else
        let _ ← digits
      if c = '0' ∧ (← peek).any Char.isDigit then faultNext .invalidNumber
      else
        if (← peek) = some '.' then
          skip
          if (← digits).isEmpty then faultNext .invalidNumber
          else if ← atExponent then skipExponent
        else if ← atExponent then skipExponent

inductive Frame where
  | list
  | object
deriving DecidableEq

namespace Frame

def closing : Frame → Char
  | list => ']'
  | object => '\x7d'

def eof : Frame → Cause
  | list => .eofList
  | object => .eofObject

/-- What is wrong when something else than a comma or the end follows an
element. -/
def expectedEnd : Frame → Cause
  | list => .expectedListEnd
  | object => .expectedObjectEnd

end Frame

/-- Passes one scalar, or the bracket that opens; the answer names the
bracket. -/
def skipStart : Reader (Option Frame) := do
  match ← peekToken with
  | none => faultNext .eofValue
  | some 'n' =>
    skip
    word ['u', 'l', 'l']
    return none
  | some 't' =>
    skip
    word ['r', 'u', 'e']
    return none
  | some 'f' =>
    skip
    word ['a', 'l', 's', 'e']
    return none
  | some '-' =>
    skip
    skipNumber
    return none
  | some '"' =>
    skipString
    return none
  | some '[' =>
    skip
    return some .list
  | some '\x7b' =>
    skip
    return some .object
  | some c =>
    if c.isDigit then
      skipNumber
      return none
    else faultNext .expectedValue

/-- Passes the ends of brackets up to the start of the next element; the answer
holds the brackets that are still open, innermost first.  `behind` says whether
an element was just passed. -/
def skipEnds : List Frame → Bool → Reader (List Frame)
  | [], _ => return []
  | frame :: outer, behind => do
    match ← peekToken with
    | none => faultNext frame.eof
    | some c =>
      if behind ∧ c = ',' then
        skip
        return frame :: outer
      else if c = frame.closing then
        skip
        skipEnds outer true
      else if behind then faultNext frame.expectedEnd
      else return frame :: outer

/-- Passes the name of a member that nobody wants, and its colon. -/
def skipName : Reader Unit := do
  match ← peekToken with
  | none => faultNext .eofObject
  | some '"' => skipString
  | some _ => faultNext .keyNotString
  match ← peekToken with
  | none => faultNext .eofObject
  | some ':' => skip
  | some _ => faultNext .expectedColon

/-- Passes the rest of a value inside the open brackets; `fuel` bounds its
elements. -/
def skipWithin : Nat → List Frame → Reader Unit
  | 0, _ => return ()
  | fuel + 1, open_ => do
    let opened ← skipStart
    match ← skipEnds (opened.toList ++ open_) opened.isNone with
    | [] => return ()
    | frame :: outer =>
      if frame = .object then skipName
      skipWithin fuel (frame :: outer)

def skipValue : Reader Unit := do
  skipWithin (← bound) []

/-! ## Values of a wanted kind -/

def wrongKind {α : Type} (wanted : String) : Reader α := do
  let found (kind : Found) : Reader α := faultHere (.invalidType kind wanted)
  match ← peek with
  | some 'n' =>
    skip
    word ['u', 'l', 'l']
    found .null
  | some 't' =>
    skip
    word ['r', 'u', 'e']
    found (.bool true)
  | some 'f' =>
    skip
    word ['a', 'l', 's', 'e']
    found (.bool false)
  | some '-' =>
    skip
    found (.number (← number true))
  | some '"' => found (.string (← string))
  | some '[' => found .sequence
  | some '\x7b' => found .map
  | some c =>
    if c.isDigit then found (.number (← number false))
    else faultNext .expectedValue
  | none => faultNext .expectedValue

def valueStart : Reader Char := do
  match ← peekToken with
  | none => faultNext .eofValue
  | some c => return c

def text : Reader String := do
  if (← valueStart) = '"' then string else wrongKind "a string"

def bool : Reader Bool := do
  match ← valueStart with
  | 't' =>
    skip
    word ['r', 'u', 'e']
    return true
  | 'f' =>
    skip
    word ['a', 'l', 's', 'e']
    return false
  | _ => wrongKind "a boolean"

/-- The natural number below `2 ^ 32` that a number is, or what is wrong with
it. -/
def natural32 : Number → Except Cause UInt32
  | .int n fits =>
    if 0 ≤ n ∧ n.toNat < UInt32.size then .ok (UInt32.ofNat n.toNat)
    else .error (.invalidValue (.number (.int n fits)) "u32")
  | .float x => .error (.invalidType (.number (.float x)) "u32")

def uint32 : Reader UInt32 := do
  let c ← valueStart
  if c = '-' ∨ c.isDigit then
    if c = '-' then skip
    match natural32 (← number (c = '-')) with
    | .ok n => return n
    | .error cause => faultHere cause
  else wrongKind "u32"

def optional {α : Type} (read : Reader α) : Reader (Option α) := do
  match ← peekToken with
  | some 'n' =>
    skip
    word ['u', 'l', 'l']
    return none
  | _ => return some (← read)

def sequence {α : Type} (depth : Nat) (item : Nat → Reader α) :
    Reader (List α) := do
  if (← valueStart) = '[' then list depth item else wrongKind "a sequence"

def map {α : Type} (depth : Nat) (item : Nat → Reader α) :
    Reader (List (String × α)) := do
  if (← valueStart) = '\x7b' then object depth OrderedMap.insert item
  else wrongKind "a map"

/-- A structure: an object, whose members `field` adds to a draft, or a list of
all fields in order, which `inOrder` reads. -/
def struct {σ α : Type} (wanted : String) (depth : Nat) (empty : σ)
    (field : Nat → String → σ → Reader σ) (finish : σ → Reader α)
    (inOrder : Nat → Reader α) :
    Reader α := do
  match ← valueStart with
  | '[' => nested depth closeList inOrder
  | '\x7b' =>
    nested depth closeObject fun depth => do
      finish (← members (field depth) (← bound) true empty)
  | _ => wrongKind ("struct " ++ wanted)

/-- The value of a field that may be given once; `current` is what an earlier
member gave. -/
def once {α : Type} (name : String) (current : Option α) (read : Reader α) :
    Reader (Option α) := do
  if current.isSome then faultWithin (.duplicateField name)
  else
    colon
    return some (← read)

def unknown {σ : Type} (draft : σ) : Reader σ := do
  colon
  skipValue
  return draft

/-- The next element of a list, if there is one; `first` before the first
one. -/
def element? {α : Type} (first : Bool) (read : Reader α) :
    Reader (Option α) := do
  if ← hasElement first then return some (← read) else return none

def element {α : Type} (index : Nat) (wanted : String) (read : Reader α) :
    Reader α := do
  match ← element? (index = 0) read with
  | some a => return a
  | none => faultWithin (.invalidLength index wanted)

def parse {α : Type} (read : Reader α) (text : String) : Except Fault α :=
  let whole : Reader α := do
    let a ← read
    match ← peekToken with
    | none => return a
    | some _ => faultNext .trailingCharacters
  match whole (Cursor.start text) with
  | .ok a _ => .ok a
  | .error fault _ => .error fault

end Reader

def Value.parse (text : String) : Except Fault Value :=
  Reader.parse (Reader.value Reader.maximalDepth) text

end Json
end BuildHost
