import BuildHost.Number.Shortest
import BuildHost.Script.Rules

/-!
# Names

Identifiers, which are no keywords, and the names of properties, which may be
anything.
-/

namespace BuildHost
namespace Script

def keywords : List String :=
  ["break", "case", "catch", "class", "const", "continue", "debugger",
    "default", "delete", "do", "else", "enum", "export", "extends", "false",
    "finally", "for", "function", "if", "import", "in", "instanceof", "new",
    "null", "return", "super", "switch", "this", "throw", "true", "try",
    "typeof", "var", "void", "while", "with"]

def isIdentifier (ctx : Context) (word : String) : Bool :=
  !keywords.contains word && !(ctx.inAsync && word = "await") &&
    !(ctx.inGenerator && word = "yield")

/-- A context in which every word is an identifier that can be one. -/
def Context.plain : Context := ⟨true, false, false, false, false⟩

def isAtIdentifier (ctx : Context) : Parser Bool := do
  match ← Parser.token with
  | .word word _ => return isIdentifier ctx word
  | _ => return false

def identifier (ctx : Context) : Parser String := do
  match ← Parser.token with
  | .word word _ =>
    if isIdentifier ctx word then
      Parser.advance
      return word
    else failure
  | _ => failure

def anyWord : Parser String := do
  match ← Parser.token with
  | .word word _ =>
    Parser.advance
    return word
  | _ => failure

def isAtAnyName : Parser Bool := do
  match ← Parser.token with
  | .word _ _ => return true
  | _ => return false

def stringToken : Parser String := do
  match ← Parser.token with
  | .string value =>
    Parser.advance
    return value
  | _ => failure

/-! ## Properties -/

def numberName (x : Binary64) : String :=
  if x.isFinite then FloatFormat.propertyName.render x else "Infinity"

/-- The name under which an expression in brackets names a property, if it is a
literal. -/
def Expr.propertyName? : Expr → Option String
  | .string value => some value
  | .number x => some (numberName x)
  | .bigInteger n => some (toString n)
  | .null => some "null"
  | .regex text => some text
  | .template value => some value
  | _ => none

structure PropertyName where
  /-- Its name, when it does not have to be computed. -/
  name : Option String
  /-- Whether the name stands in brackets. -/
  computed : Bool
  /-- Whether the name is private to its class. -/
  isPrivate : Bool
  /-- Whether the name is a word, which can also be an identifier. -/
  isWord : Bool

def propertyName (rules : Rules) (ctx : Context) : Parser PropertyName := do
  let literal (e : Expr) : Parser PropertyName := do
    Parser.advance
    return ⟨e.propertyName?, false, false, false⟩
  match ← Parser.token with
  | .word word _ =>
    Parser.advance
    return ⟨some word, false, false, true⟩
  | .string value => literal (.string value)
  | .number x => literal (.number x)
  | .bigInteger n => literal (.bigInteger n)
  | .symbol "[" =>
    Parser.advance
    let e ← rules.assignment ctx.bracketed
    Parser.expect "]"
    return ⟨e.propertyName?, true, false, false⟩
  | _ => failure

def memberName (rules : Rules) (ctx : Context) : Parser PropertyName := do
  match ← Parser.token with
  | .privateName name =>
    Parser.advance
    return ⟨some name, false, true, false⟩
  | _ => propertyName rules ctx

def isAtPropertyName : Parser Bool := do
  match ← Parser.token with
  | .word _ _ | .string _ | .number _ | .bigInteger _ | .privateName _ | .symbol
      "[" => return true
  | _ => return false

/-! ## Templates -/

/-- The rest of a template behind an expression in it, which ends at the closing
brace that is next. -/
def templateRest : Parser TemplatePart := do
  let state ← get
  if state.token = .symbol "\x7d" then
    match templatePart state.rest with
    | some (part, rest) =>
      Parser.continueAt rest
      return part
    | none => failure
  else failure

/-- The stretches of a template behind one that an expression follows; `fuel`
bounds their number. -/
def templateWithin (inner : Parser Unit) :
    Nat → TemplatePart → Parser (List TemplatePart)
  | 0, _ => failure
  | fuel + 1, part => do
    if part.continues then
      inner
      let next ← templateRest
      return next :: (← templateWithin inner fuel next)
    else return []

def templateParts (inner : Parser Unit) : Parser (List TemplatePart) := do
  match ← Parser.token with
  | .template part =>
    let fuel ← Parser.bound
    Parser.advance
    return part :: (← templateWithin inner fuel part)
  | _ => failure

end Script
end BuildHost
