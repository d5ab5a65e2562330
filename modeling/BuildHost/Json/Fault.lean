import BuildHost.Json.Value
import BuildHost.Unicode.Quoted

/-!
# Faults of JSON texts

What can be wrong with a text, as a text or as the value that is wanted, and the
place at which it shows.
-/

namespace BuildHost
namespace Json

/-- The kind of a value that was found where another was wanted. -/
inductive Found where
  | null
  | bool (b : Bool)
  | number (n : Number)
  | string (s : String)
  | sequence
  | map
deriving Repr

def Found.message : Found → String
  | null => "null"
  | bool b => s!"boolean `{b}`"
  | number (.int n _) => s!"integer `{n}`"
  | number (.float x) => "floating point `" ++ numberFormat.render x ++ "`"
  | string s => "string " ++ Unicode.quoted s
  | sequence => "sequence"
  | map => "map"

inductive Cause where
  | eofValue
  | eofObject
  | eofList
  | eofString
  | expectedValue
  | expectedIdent
  | expectedColon
  | expectedListEnd
  | expectedObjectEnd
  | keyNotString
  | trailingComma
  | trailingCharacters
  | invalidNumber
  | numberOutOfRange
  | invalidEscape
  | loneSurrogate
  | unfinishedPair
  | controlCharacter
  | recursionLimit
  | missingField (name : String)
  | duplicateField (name : String)
  | invalidType (found : Found) (wanted : String)
  | invalidValue (found : Found) (wanted : String)
  | invalidLength (length : Nat) (wanted : String)
  | noVariant (name : String)
deriving Repr

def Cause.message : Cause → String
  | eofValue => "EOF while parsing a value"
  | eofObject => "EOF while parsing an object"
  | eofList => "EOF while parsing a list"
  | eofString => "EOF while parsing a string"
  | expectedValue => "expected value"
  | expectedIdent => "expected ident"
  | expectedColon => "expected `:`"
  | expectedListEnd => "expected `,` or `]`"
  | expectedObjectEnd => "expected `,` or `\x7d`"
  | keyNotString => "key must be a string"
  | trailingComma => "trailing comma"
  | trailingCharacters => "trailing characters"
  | invalidNumber => "invalid number"
  | numberOutOfRange => "number out of range"
  | invalidEscape => "invalid escape"
  | loneSurrogate => "lone leading surrogate in hex escape"
  | unfinishedPair => "unexpected end of hex escape"
  | controlCharacter =>
    "control character (\\u0000-\\u001F) found while parsing a string"
  | recursionLimit => "recursion limit exceeded"
  | missingField name => "missing field `" ++ name ++ "`"
  | duplicateField name => "duplicate field `" ++ name ++ "`"
  | invalidType found wanted =>
    "invalid type: " ++ found.message ++ ", expected " ++ wanted
  | invalidValue found wanted =>
    "invalid value: " ++ found.message ++ ", expected " ++ wanted
  | invalidLength length wanted =>
    s!"invalid length {length}, expected " ++ wanted
  | noVariant name => "data did not match any variant of untagged enum " ++ name

/-- A place in a text: the line, counted from 1, and the bytes before it on that
line. -/
structure Place where
  line : Nat
  column : Nat
deriving DecidableEq, Repr

/-- A cause, with the place of the text at which it showed; a value that is not
read from a text has no places. -/
structure Fault where
  cause : Cause
  place? : Option Place
deriving Repr

def Fault.message (fault : Fault) : String :=
  match fault.place? with
  | none => fault.cause.message
  | some place =>
    fault.cause.message ++ s!" at line {place.line} column {place.column}"

end Json
end BuildHost
