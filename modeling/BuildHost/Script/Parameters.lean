import BuildHost.Script.Names

/-!
# Parameters

The parameters of functions and of function types, with what may stand before
and behind their names.
-/

namespace BuildHost
namespace Script

/-- A type behind a colon, if there is one; only a typed text has any. -/
def typeAnnotation (rules : Rules) : Parser Bool := do
  if ← Parser.eatIf (← Parser.isTyped) ":" then
    rules.type
    return true
  else return false

/-- Decorators, as many as there are; the answer says whether there are any. -/
def decorators (rules : Rules) (ctx : Context) : Parser Bool := do
  let found ← Parser.whileTrue (Parser.isAt "@") do
    Parser.advance
    rules (.callable ctx.bracketed true)
  return !found.isEmpty

/-! ## Modifiers -/

def canFollowModifier : Parser Bool := do
  if ← Parser.onNewLine then return false
  else return (← isAtPropertyName) || (← Parser.isAtAny ["\x7b", "*", "..."])

/-- Whether one of these words is next, and is a modifier there. -/
def isAtModifier (words : List String) : Parser Bool := do
  return (← Parser.isAtAnyWord words) && (← Parser.afterNext canFollowModifier)

def modifiers (words : List String) : Parser (List String) :=
  Parser.whileTrue (isAtModifier words) anyWord

def parameterModifiers : List String :=
  ["public", "private", "protected", "readonly", "override"]

/-! ## Lists of parameters -/

inductive Parameter where
  /-- The object that the function is called on. -/
  | receiver
  | single
  | rest
deriving DecidableEq, Repr

def parameter (rules : Rules) (ctx : Context) : Parser Parameter := do
  let _ ← decorators rules ctx
  let isTyped ← Parser.isTyped
  if isTyped then
    let _ ← modifiers parameterModifiers
  if ← Parser.eat "..." then
    let _ ← rules.binding ctx
    if isTyped then Parser.require !(← Parser.eat "?")
    let _ ← typeAnnotation rules
    if ← Parser.eat "=" then
      Parser.complain
      let _ ← rules.assignment ctx
    return .rest
  else if ← Parser.eatWordIf isTyped "this" then
    let _ ← typeAnnotation rules
    return .receiver
  else
    let _ ← rules.binding ctx
    if isTyped then
      let _ ← Parser.eat "?"
    let _ ← typeAnnotation rules
    if ← Parser.eat "=" then
      let _ ← rules.assignment ctx
    return .single

/-- Whether nothing comes behind a parameter that takes the rest. -/
def restIsLast : List Parameter → Bool → Bool
  | [], _ => true
  | [.rest], trailingComma => !trailingComma
  | .rest :: _ :: _, _ => false
  | _ :: more, trailingComma => restIsLast more trailingComma

def parameters (rules : Rules) (ctx : Context) : Parser (List Parameter) := do
  Parser.expect "("
  let (found, trailingComma) ← Parser.commaUntil ")"
      (parameter rules ctx.bracketed)
  Parser.require (restIsLast found trailingComma)
  return found

end Script
end BuildHost
