import BuildHost.Script.Types

/-!
# Patterns and functions

Patterns of names, and what functions of all forms share: parameters, a type and
a body.
-/

namespace BuildHost
namespace Script

/-! ## Patterns -/

inductive PatternPart where
  /-- Nothing, or one part of a value. -/
  | single (names : List String)
  /-- All that is left of a value. -/
  | rest (names : List String)

def PatternPart.names : PatternPart → List String
  | single names => names
  | rest names => names

/-- Whether nothing comes behind a part that takes all that is left. -/
def patternRestIsLast : List PatternPart → Bool → Bool
  | [], _ => true
  | [.rest _], trailingComma => !trailingComma
  | .rest _ :: _ :: _, _ => false
  | _ :: more, trailingComma => patternRestIsLast more trailingComma

def bindingWithDefault (rules : Rules) (ctx : Context) :
    Parser PatternPart := do
  let bound ← rules.binding ctx
  if ← Parser.eat "=" then
    let _ ← rules.assignment ctx.bracketed
  return .single bound.names

def arrayPatternPart (rules : Rules) (ctx : Context) : Parser PatternPart := do
  if ← Parser.isAt "," then return .single []
  else if ← Parser.eat "..." then return .rest (← rules.binding ctx).names
  else bindingWithDefault rules ctx

def objectPatternPart (rules : Rules) (ctx : Context) : Parser PatternPart := do
  if ← Parser.eat "..." then return .rest [← identifier ctx]
  else
    let key ← propertyName rules ctx
    if ← Parser.eat ":" then bindingWithDefault rules ctx
    else if key.isWord && key.name.all (isIdentifier ctx) then
      if ← Parser.eat "=" then
        let _ ← rules.assignment ctx.bracketed
      return .single key.name.toList
    else failure

def bindingForm (rules : Rules) (ctx : Context) : Parser Binding := do
  let pattern (close : String) (part : Parser PatternPart) : Parser
      Binding := do
    Parser.advance
    let (parts, trailingComma) ← Parser.commaUntil close part
    Parser.require (patternRestIsLast parts trailingComma)
    return .pattern (parts.flatMap PatternPart.names)
  if ← Parser.isAt "[" then pattern "]" (arrayPatternPart rules ctx)
  else if ← Parser.isAt "\x7b" then pattern "\x7d" (objectPatternPart rules ctx)
  else return .identifier (← identifier ctx)

/-! ## Functions -/

def block (rules : Rules) (ctx : Context) : Parser Unit := do
  Parser.expect "\x7b"
  let _ ← Parser.until_ "\x7d" (rules.statement ctx.bracketed)

structure FunctionTail where
  parameters : List Parameter
  hasBody : Bool

/-- A function behind its name; `ctx` is the context of its inside.  In a typed
text the body may be missing. -/
def functionTail (rules : Rules) (ctx : Context) : Parser FunctionTail := do
  typeParameters rules
  let found ← parameters rules ctx
  let _ ← returnType rules
  if ← Parser.isAt "\x7b" then
    block rules ctx
    return ⟨found, true⟩
  else if ← Parser.isTyped then return ⟨found, false⟩
  else failure

/-- A method behind its name; without a body it ends like a statement. -/
def methodTail (rules : Rules) (ctx : Context) : Parser FunctionTail := do
  let tail ← functionTail rules ctx
  if !tail.hasBody then Parser.semicolon
  return tail

inductive Accessor where
  | getter
  | setter
deriving DecidableEq, Repr

/-- Whether an accessor takes what it has to take: a getter nothing, and a
setter one value. -/
def Accessor.takes (accessor : Accessor) (found : List Parameter) : Bool :=
  let values := found.filter (· ≠ .receiver)
  match accessor with
  | getter => values = []
  | setter => values = [.single]

def accessorWord : Parser (Option Accessor) := do
  let isWord ← Parser.isAtAnyWord ["get", "set"]
  if isWord && (← Parser.afterNext isAtPropertyName) then
    return some (if (← anyWord) = "get" then .getter else .setter)
  else return none

/-- A function behind the word `function`; the answer is its name, and whether
it has a body. -/
def functionForm (rules : Rules) (ctx : Context) (isAsync : Bool)
    (nameContext : Bool → Context) :
    Parser (Option String × Bool) := do
  Parser.expectWord "function"
  let isGenerator ← Parser.eat "*"
  let name ← do
    if ← isAtIdentifier (nameContext isGenerator) then
      pure (some (← identifier (nameContext isGenerator)))
    else pure none
  let tail ← functionTail rules (ctx.ofFunction isAsync isGenerator)
  return (name, tail.hasBody)

/-- Whether the word `async` is next, and belongs to the function behind it. -/
def isAtAsyncFunction : Parser Bool := do
  return (← Parser.isAtWord "async") &&
    (← Parser.afterNext
      (return !(← Parser.onNewLine) && (← Parser.isAtWord "function")))

def functionExpression (rules : Rules) (ctx : Context) : Parser Expr := do
  let isAsync ← Parser.eatWord "async"
  let (_, hasBody) ← functionForm rules ctx isAsync fun isGenerator =>
    ctx.ofFunction isAsync isGenerator
  if hasBody then return .other else failure

end Script
end BuildHost
