import BuildHost.Script.Expressions

/-!
# Declarations

Variables, functions, classes, and what only typed texts declare: interfaces,
types, enumerations and namespaces.
-/

namespace BuildHost
namespace Script

/-! ## Variables -/

inductive VariableKind where
  | var
  | «let»
  | const
  | using
deriving DecidableEq, Repr

def declarator (rules : Rules) (ctx : Context) :
    Parser (Binding × Option Expr) := do
  let bound ← rules.binding ctx
  if ← Parser.isTyped then
    match bound with
    | .identifier _ =>
      let _ ← Parser.eat "!"
    | .pattern _ => pure ()
  let _ ← typeAnnotation rules
  if ← Parser.eat "=" then return (bound, some (← rules.assignment ctx))
  else return (bound, none)

def mayLackValue (kind : VariableKind) (bound : Binding) : Bool :=
  match bound, kind with
  | .pattern _, _ => false
  | .identifier _, .var | .identifier _, .let => true
  | .identifier _, .const | .identifier _, .using => false

def checkValues (ctx : Context) (kind : VariableKind)
    (declared : List (Binding × Option Expr)) :
    Parser Unit :=
  Parser.require (ctx.ambient || declared.all fun entry =>
    entry.2.isSome || mayLackValue kind entry.1)

/-- Whether the variable of a block is declared here: `let` is an identifier
elsewhere. -/
def isAtLet (ctx : Context) : Parser Bool := do
  let isFollowed ← Parser.afterNext do
    return (← isAtIdentifier ctx) || (← Parser.isAtAny ["[", "\x7b"])
  return (← Parser.isAtWord "let") && isFollowed

/-- Whether resources are declared here that are released at the end of their
block. -/
def isAtUsing (ctx : Context) : Parser Bool := do
  let isFollowed ← Parser.afterNext do
    return !(← Parser.onNewLine) && (← isAtIdentifier ctx) &&
      !(← Parser.isAtAnyWord ["of", "in", "as", "instanceof"])
  return (← Parser.isAtWord "using") && isFollowed

/-- The kind of the variables that are declared here, if any are; the words that
say so are passed. -/
def variableKind? (ctx : Context) : Parser (Option VariableKind) := do
  let isAwaited ← Parser.afterNext (isAtUsing ctx)
  let constIsEnum ← Parser.afterNext (Parser.isAtWord "enum")
  if ← Parser.eatWord "var" then return some .var
  else if (← Parser.isAtWord "const") && !constIsEnum then
    Parser.advance
    return some .const
  else if ← isAtLet ctx then
    Parser.advance
    return some .let
  else if ← isAtUsing ctx then
    Parser.advance
    return some .using
  else if ctx.inAsync && (← Parser.isAtWord "await") && isAwaited then
    Parser.advance
    Parser.advance
    return some .using
  else return none

def variablesTail (rules : Rules) (ctx : Context) (kind : VariableKind) :
    Parser Declaration := do
  let declared ← Parser.separated "," (declarator rules ctx)
  checkValues ctx kind declared
  Parser.semicolon
  return .variables declared

/-! ## Functions and classes -/

/-- A function with its name; one that is declared elsewhere has no body. -/
def functionDeclaration (rules : Rules) (ctx : Context) (isDeclared : Bool) :
    Parser (Option String) := do
  let isAsync ← Parser.eatWord "async"
  let (name, hasBody) ← functionForm rules ctx isAsync fun _ => ctx
  if hasBody then Parser.require !isDeclared else Parser.semicolon
  return name

def named (name : Option String) : Parser String :=
  match name with
  | some name => return name
  | none => failure

/-! ## Typed declarations -/

def interfaceTail (rules : Rules) (ctx : Context) : Parser String := do
  let name ← identifier ctx
  typeParameters rules
  if ← Parser.eatWord "extends" then
    let _ ← Parser.separated "," rules.type
  typeMembers rules
  return name

def aliasTail (rules : Rules) (ctx : Context) : Parser Unit := do
  let _ ← identifier ctx
  typeParameters rules
  Parser.expect "="
  rules.type
  Parser.semicolon

/-- The name of a member of an enumeration, a word or a string, and whether it
stands in brackets. -/
def enumMemberName (rules : Rules) (ctx : Context) :
    Parser (String × Bool) := do
  match ← Parser.token with
  | .word _ _ => return (← anyWord, false)
  | .string _ => return (← stringToken, false)
  | .symbol "[" =>
    Parser.advance
    let e ← rules.assignment ctx.bracketed
    Parser.expect "]"
    match e with
    | .string name | .template name => return (name, true)
    | _ => failure
  | _ => failure

def enumMember (rules : Rules) (ctx : Context) : Parser EnumMember := do
  let (name, isBracketed) ← enumMemberName rules ctx
  if ← Parser.eat "="
    then return ⟨name, isBracketed, some (← rules.assignment ctx.bracketed)⟩
  else return ⟨name, isBracketed, none⟩

def enumTail (rules : Rules) (ctx : Context) : Parser Declaration := do
  let name ← identifier ctx
  Parser.expect "\x7b"
  let (members, _) ← Parser.commaUntil "\x7d" (enumMember rules ctx)
  return .enumeration name members

def namespaceBody (rules : Rules) (ctx : Context) : Parser Unit :=
  block rules { ctx with inFunction := false, inGenerator := false }

def namespaceTail (rules : Rules) (ctx : Context) : Parser Unit := do
  match ← Parser.token with
  | .string _ =>
    Parser.advance
    if ← Parser.isAt "\x7b" then namespaceBody rules ctx else Parser.semicolon
  | _ =>
    let _ ← identifier ctx
    qualifiedRest
    namespaceBody rules ctx

/-! ## Telling declarations apart -/

def declarationModifiers : List String :=
  ["abstract", "declare", "accessor", "private", "protected", "public",
    "readonly", "static"]

/-- Whether a typed declaration starts here; `fuel` bounds the words before
it. -/
def isAtTypedDeclarationWithin : Nat → Parser Bool
  | 0 => return false
  | fuel + 1 => do
    let isBehindLine ← Parser.afterNext Parser.onNewLine
    let isNamed ← Parser.afterNext (isAtIdentifier Context.plain)
    let isText ← Parser.afterNext do
      match ← Parser.token with
      | .string _ => return true
      | _ => return false
    let isBraced ← Parser.afterNext (Parser.isAt "\x7b")
    if ← Parser.isAtAnyWord ["var", "let", "const", "function", "class", "enum"]
      then return true
    else if ← Parser.isAtAnyWord ["interface", "type"] then return isNamed &&
      !isBehindLine
    else if ← Parser.isAtAnyWord ["module", "namespace"] then
      return (isNamed || isText) && !isBehindLine
    else if ← Parser.isAtWord "global" then return isBraced
    else if ← isAtAsyncFunction then return true
    else if (← Parser.isAtAnyWord declarationModifiers) && !isBehindLine then
      Parser.advance
      isAtTypedDeclarationWithin fuel
    else return false

/-- Whether a declaration starts here that only typed texts have. -/
def isAtTypedDeclaration : Parser Bool := do
  if ← Parser.isTyped then
    let isEnum ← Parser.afterNext (Parser.isAtWord "enum")
    if ← Parser.isAtAnyWord
      (["interface", "type", "module", "namespace", "enum", "global"] ++
        declarationModifiers) then
      Parser.ahead (do isAtTypedDeclarationWithin (← Parser.bound))
    else return (← Parser.isAtWord "const") && isEnum
  else return false

def declarationTail (rules : Rules) (ctx : Context) (words : List String) :
    Parser Declaration := do
  let isTyped ← Parser.isTyped
  let isNamed ← Parser.afterNext do
    return !(← Parser.onNewLine) && (← isAtIdentifier Context.plain)
  if ← Parser.isAtWord "class" then
    Parser.require (words.all ["declare", "abstract"].contains)
    return .classNamed (← named (← classForm rules ctx))
  else
    Parser.require (words.all ["declare"].contains)
    if (← Parser.isAtWord "function") || (← isAtAsyncFunction) then
      return .function
        (← named (← functionDeclaration rules ctx (words.contains "declare")))
    else if isTyped && (← Parser.isAtWord "interface") && isNamed then
      Parser.advance
      return .interface (← interfaceTail rules ctx)
    else if isTyped && (← Parser.isAtWord "type") && isNamed then
      Parser.advance
      aliasTail rules ctx
      return .other
    else if ← Parser.eatWordIf isTyped "enum" then enumTail rules ctx
    else if isTyped && (← Parser.isAtAnyWord ["namespace", "module"]) then
      Parser.advance
      namespaceTail rules ctx
      return .other
    else if ← Parser.eatWordIf isTyped "global" then
      namespaceBody rules ctx
      return .other
    else
      match ← variableKind? ctx with
      | some kind => variablesTail rules ctx kind
      | none =>
        if ← Parser.eatWordIf isTyped "const" then
          Parser.expectWord "enum"
          enumTail rules ctx
        else failure

def declaration (rules : Rules) (ctx : Context) : Parser Declaration := do
  let words ← if ← Parser.isTyped then
      Parser.whileTrue (return (← Parser.isAtAnyWord declarationModifiers) &&
        !(← Parser.afterNext Parser.onNewLine)) anyWord
    else pure []
  Parser.require (areDistinct words)
  declarationTail rules
    { ctx with ambient := ctx.ambient || words.contains "declare" } words

end Script
end BuildHost
