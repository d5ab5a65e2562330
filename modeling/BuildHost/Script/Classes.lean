import BuildHost.Script.Functions

/-!
# Classes
-/

namespace BuildHost
namespace Script

/-! ## Members -/

def memberModifiers (isTyped : Bool) : List String :=
  if isTyped then
    ["public", "private", "protected", "abstract", "override", "readonly",
      "declare", "accessor", "async"]
  else ["accessor", "async"]

/-- Whether the word `static` is next, and is a modifier; a line may end behind
it. -/
def isAtStatic : Parser Bool := do
  let isFollowed ← Parser.afterNext do
    return (← isAtPropertyName) || (← Parser.isAtAny ["\x7b", "*", "..."])
  return (← Parser.isAtWord "static") && isFollowed

def memberModifierWords : Parser (List String) := do
  let words := memberModifiers (← Parser.isTyped)
  Parser.whileTrue (return (← isAtModifier words) || (← isAtStatic)) anyWord

def areDistinct (words : List String) : Bool :=
  words.eraseDups.length = words.length

def fieldTail (rules : Rules) (ctx : Context) : Parser Unit := do
  let _ ← typeAnnotation rules
  if ← Parser.eat "=" then
    let _ ← rules.assignment
      { ctx with inGenerator := false, inAsync := false, allowIn := true }
  Parser.semicolon

def isConstructor (key : PropertyName) (isStatic : Bool) : Bool :=
  key.name = some "constructor" && !key.computed && !key.isPrivate && !isStatic

/-- Whether a member would take the place of the prototype of its class. -/
def isPrototype (key : PropertyName) (isStatic : Bool) : Bool :=
  key.name = some "prototype" && !key.computed && !key.isPrivate && isStatic

/-- A member that is neither a block nor the type of all members of a kind,
behind its modifiers. -/
def namedMember (rules : Rules) (ctx : Context) (words : List String) :
    Parser Unit := do
  let isAsync := words.contains "async"
  let isStatic := words.contains "static"
  match ← accessorWord with
  | some accessor =>
    let key ← memberName rules ctx
    Parser.require !(isConstructor key isStatic || isPrototype key isStatic)
    let tail ← methodTail rules (ctx.ofFunction false false)
    Parser.require (accessor.takes tail.parameters)
  | none =>
    let isGenerator ← Parser.eat "*"
    let key ← memberName rules ctx
    Parser.require !(key.isPrivate && key.name
      = some "constructor" || isPrototype key isStatic)
    if ← Parser.isTyped then
      if !(← Parser.eat "?") then
        let _ ← Parser.eat "!"
    if isGenerator || (← isAtSignature) then
      Parser.require !(isConstructor key isStatic && (isAsync || isGenerator))
      let _ ← methodTail rules (ctx.ofFunction isAsync isGenerator)
    else
      Parser.require !(isConstructor key false)
      if isAsync then failure
      fieldTail rules ctx

def classMember (rules : Rules) (ctx : Context) : Parser Unit := do
  if ← Parser.eat ";" then return ()
  else
    let _ ← decorators rules ctx
    let isBlock ← Parser.afterNext (Parser.isAt "\x7b")
    if (← Parser.isAtWord "static") && isBlock then
      Parser.advance
      block rules
        { ctx with inGenerator := false, inAsync := true, inFunction := false }
    else
      let words ← memberModifierWords
      Parser.require (areDistinct words)
      if (← Parser.isTyped) && (← isIndexSignature) then
        indexSignature rules
        memberEnd
      else namedMember rules ctx words

/-! ## Heads -/

def superclass (rules : Rules) (ctx : Context) : Parser Unit := do
  let _ ← rules (.callable ctx.bracketed false)
  if (← Parser.isTyped) && (← isAtAngle) then typeArguments rules

def classTail (rules : Rules) (ctx : Context) : Parser Unit := do
  typeParameters rules
  if ← Parser.eatWord "extends" then superclass rules ctx
  if ← Parser.eatWordIf (← Parser.isTyped) "implements" then
    let _ ← Parser.separated "," rules.type
  Parser.expect "\x7b"
  let _ ← Parser.until_ "\x7d" (classMember rules ctx.bracketed)

/-- Whether the name of a class is next, and not what it implements. -/
def isAtClassName (ctx : Context) : Parser Bool := do
  let isFollowed ← Parser.afterNext (isAtIdentifier Context.plain)
  return (← isAtIdentifier ctx) &&
    !((← Parser.isAtWord "implements") && isFollowed)

/-- A class behind the word `class`, with its name if it has one. -/
def classForm (rules : Rules) (ctx : Context) : Parser (Option String) := do
  Parser.expectWord "class"
  let name ← do
    if ← isAtClassName ctx then pure (some (← identifier ctx)) else pure none
  classTail rules ctx
  return name

def classExpression (rules : Rules) (ctx : Context) : Parser Expr := do
  let _ ← decorators rules ctx
  let _ ← classForm rules ctx
  return .other

end Script
end BuildHost
