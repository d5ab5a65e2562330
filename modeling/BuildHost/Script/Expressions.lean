import BuildHost.Script.Classes
import BuildHost.Script.Markup
import BuildHost.Script.Targets

/-!
# Expressions

Operators need not be weighed against each other here: what an expression with
an operator stands for is not kept, and its operands can be told without knowing
how they are grouped.
-/

namespace BuildHost
namespace Script

/-! ## Arrays and objects -/

def arrayItem (rules : Rules) (ctx : Context) : Parser ArrayItem := do
  if ← Parser.isAt "," then return .hole
  else if ← Parser.eat "..." then return .spread (← rules.assignment ctx)
  else return .item (← rules.assignment ctx)

def arrayTail (rules : Rules) (ctx : Context) : Parser Expr := do
  let (items, trailingComma) ← Parser.commaUntil "]" (arrayItem rules ctx)
  return .array items trailingComma

def propertyTail (rules : Rules) (ctx : Context) (key : PropertyName) :
    Parser Property := do
  if ← Parser.eat ":" then return .keyed key.name (← rules.assignment ctx)
  else if ← isAtSignature then
    let tail ← functionTail rules (ctx.ofFunction false false)
    if tail.hasBody then return .method key.name else failure
  else
    match key.isWord, key.name with
    | true, some name =>
      if !isIdentifier ctx name then failure
      else if ← Parser.eat "=" then
        let _ ← rules.assignment ctx
        modify fun state => { state with loose := state.loose + 1 }
        return .defaulted name
      else return .shorthand name
    | _, _ => failure

def markedMethod (rules : Rules) (ctx : Context) (isAsync : Bool) :
    Parser Property := do
  let isGenerator ← Parser.eat "*"
  let key ← propertyName rules ctx
  let tail ← functionTail rules (ctx.ofFunction isAsync isGenerator)
  if tail.hasBody then return .method key.name else failure

def objectProperty (rules : Rules) (ctx : Context) : Parser Property := do
  if ← Parser.eat "..." then return .spread (← rules.assignment ctx)
  else if ← Parser.isAt "*" then markedMethod rules ctx false
  else if ← isAtModifier ["async"] then
    Parser.advance
    markedMethod rules ctx true
  else
    match ← accessorWord with
    | some accessor =>
      let key ← propertyName rules ctx
      let tail ← functionTail rules (ctx.ofFunction false false)
      Parser.require (accessor.takes tail.parameters)
      if tail.hasBody then return .method key.name else failure
    | none => propertyTail rules ctx (← propertyName rules ctx)

def objectTail (rules : Rules) (ctx : Context) : Parser Expr := do
  let (properties, _) ← Parser.commaUntil "\x7d" (objectProperty rules ctx)
  return .object properties

/-! ## Primary expressions -/

def regexExpression : Parser Expr := do
  match (← get).text with
  | '/' :: rest =>
    match regexLiteral rest with
    | some (text, rest) =>
      Parser.continueAt rest
      return .regex text
    | none => failure
  | _ => failure

/-- A template; an escape in it that stands for nothing is a fault. -/
def templateExpression (rules : Rules) (ctx : Context) : Parser Expr := do
  let parts ← templateParts do
    let _ ← rules.expression ctx
  Parser.require (parts.all (·.value.isSome))
  match parts with
  | [part] => return .template (part.value.getD "")
  | _ => return .other

def arguments (rules : Rules) (ctx : Context) : Parser Unit := do
  Parser.expect "("
  let _ ← Parser.commaUntil ")" do
    let _ ← Parser.eat "..."
    rules.assignment ctx.bracketed

def newTail (rules : Rules) (ctx : Context) : Parser Expr := do
  if ← Parser.eat "." then
    Parser.expectWord "target"
    return .other
  else
    let _ ← rules (.constructed ctx)
    if ← Parser.isAt "?." then failure
    if ← Parser.isAt "(" then arguments rules ctx
    return .other

/-- A call of `import`, or what is known of the module, behind the word. -/
def importTail (rules : Rules) (ctx : Context) : Parser Expr := do
  if ← Parser.eat "." then
    if ← Parser.eatWord "meta" then return .other
    else if !(← Parser.isAtAnyWord ["defer", "source"]) then failure
    else Parser.advance
  Parser.expect "("
  let _ ← rules.assignment ctx.bracketed
  if ← Parser.eat "," then
    if !(← Parser.isAt ")") then
      let _ ← rules.assignment ctx.bracketed
      let _ ← Parser.eat ","
  Parser.expect ")"
  return .other

def wordExpression (rules : Rules) (ctx : Context) (word : String) :
    Parser Expr := do
  let constant (e : Expr) : Parser Expr := do
    Parser.advance
    return e
  match word with
  | "null" => constant .null
  | "true" => constant (.bool true)
  | "false" => constant (.bool false)
  | "this" => constant .other
  | "super" =>
    Parser.advance
    if ← Parser.isAtAny ["(", ".", "["] then return .other else failure
  | "function" => functionExpression rules ctx
  | "class" => classExpression rules ctx
  | "new" =>
    Parser.advance
    newTail rules ctx
  | "import" =>
    Parser.advance
    importTail rules ctx
  | _ =>
    if ← isAtAsyncFunction then functionExpression rules ctx
    else return .identifier (← identifier ctx)

def primaryExpression (rules : Rules) (ctx : Context) : Parser Expr := do
  let literal (e : Expr) : Parser Expr := do
    Parser.advance
    return e
  match ← Parser.token with
  | .word word false => wordExpression rules ctx word
  | .word _ true => return .identifier (← identifier ctx)
  | .string value => literal (.string value)
  | .number x => literal (.number x)
  | .bigInteger n => literal (.bigInteger n)
  | .template _ => templateExpression rules ctx.bracketed
  | .symbol "(" =>
    Parser.advance
    let e ← rules.expression ctx.bracketed
    Parser.expect ")"
    return .parenthesized e
  | .symbol "[" =>
    Parser.advance
    arrayTail rules ctx.bracketed
  | .symbol "\x7b" =>
    Parser.advance
    objectTail rules ctx.bracketed
  | .symbol "/" | .symbol "/=" => regexExpression
  | .symbol "@" => classExpression rules ctx
  | .symbol "<" =>
    if ← Parser.hasMarkup then
      rules (.markup ctx)
      Parser.advance
      return .other
    else failure
  | _ => failure

/-! ## Members and calls -/

/-- Whether the word or the symbol that is next can stand between two
expressions. -/
def isAtBinaryOperator (ctx : Context) : Parser Bool := do
  match ← Parser.token with
  | .word word false =>
    return (ctx.allowIn && word = "in") ||
      ["instanceof", "as", "satisfies"].contains word
  | .symbol symbol =>
    return ["||", "&&", "??", "|", "^", "&", "==", "!=", "===", "!==", "<",
      "<=", "<<", ">", "+", "-", "*", "/", "%", "**"].contains symbol
  | _ => return false

def canStartExpression (ctx : Context) : Parser Bool := do
  match ← Parser.token with
  | .word word _ =>
    return isIdentifier ctx word ||
      ["this", "super", "null", "true", "false", "function", "class", "new",
        "delete", "typeof", "void", "import", "await", "yield"].contains word
  | .string _ | .number _ | .bigInteger _ | .template _ | .privateName _ =>
    return true
  | .symbol symbol =>
    return ["(", "[", "\x7b", "/", "/=", "+", "-", "~", "!", "++", "--", "<",
      "@"].contains symbol
  | _ => return false

/-- Whether what is next shows that the angle brackets before it held types. -/
def canFollowTypeArguments (ctx : Context) : Parser Bool := do
  match ← Parser.token with
  | .symbol "(" | .template _ => return true
  | .symbol "<" | .symbol ">" | .symbol "+" | .symbol "-" => return false
  | _ =>
    return (← Parser.onNewLine) || (← isAtBinaryOperator ctx) ||
      !(← canStartExpression ctx)

/-- The arguments of a type, if they are not the operators of a comparison. -/
def typeArgumentsInExpression (rules : Rules) (ctx : Context) :
    Parser Bool := do
  if (← Parser.isTyped) && (← Parser.isAtAny ["<", "<<"]) then
    let found ← Parser.attempt do
      typeArguments rules
      if ← canFollowTypeArguments ctx then return () else failure
    return found.isSome
  else return false

def taggedTemplate (rules : Rules) (ctx : Context) : Parser Unit := do
  let _ ← templateParts do
    let _ ← rules.expression ctx.bracketed

def dottedName : Parser Unit := do
  match ← Parser.token with
  | .word _ _ | .privateName _ => Parser.advance
  | _ => failure

def index (rules : Rules) (ctx : Context) : Parser Unit := do
  Parser.expect "["
  let _ ← rules.expression ctx.bracketed
  Parser.expect "]"

structure Suffixes where
  /-- Whether the value can be called. -/
  calls : Bool
  /-- Whether members can be reached with brackets. -/
  brackets : Bool

def optionalSuffix (rules : Rules) (ctx : Context) : Parser Unit := do
  let _ ← typeArgumentsInExpression rules ctx
  if ← Parser.isAt "(" then arguments rules ctx
  else if ← Parser.isAt "[" then index rules ctx
  else dottedName

/-- The members and calls behind a value.  `chained` says whether a question
mark came before; nothing behind it can be assigned to.  `fuel` bounds their
number. -/
def suffixesWithin (rules : Rules) (ctx : Context) (allowed : Suffixes) :
    Nat → Bool → Expr → Parser Expr
  | 0, _, _ => failure
  | fuel + 1, chained, e => do
    let isTyped ← Parser.isTyped
    let reached : Expr := if chained then .other else .member
    match ← Parser.token with
    | .symbol "." =>
      Parser.advance
      dottedName
      suffixesWithin rules ctx allowed fuel chained reached
    | .symbol "?." =>
      if allowed.calls then
        Parser.advance
        optionalSuffix rules ctx
        suffixesWithin rules ctx allowed fuel true .other
      else return e
    | .symbol "[" =>
      if allowed.brackets then
        index rules ctx
        suffixesWithin rules ctx allowed fuel chained reached
      else return e
    | .symbol "(" =>
      if allowed.calls then
        arguments rules ctx
        suffixesWithin rules ctx allowed fuel chained .other
      else return e
    | .template _ =>
      Parser.require !chained
      taggedTemplate rules ctx
      suffixesWithin rules ctx allowed fuel chained .other
    | .symbol "!" =>
      if isTyped && !(← Parser.onNewLine) then
        Parser.advance
        suffixesWithin rules ctx allowed fuel chained (.typed e)
      else return e
    | _ =>
      if ← typeArgumentsInExpression rules ctx then
        suffixesWithin rules ctx allowed fuel chained .other
      else return e

def suffixed (rules : Rules) (ctx : Context) (allowed : Suffixes) :
    Parser Expr := do
  let e ← primaryExpression rules ctx
  suffixesWithin rules ctx allowed (← Parser.bound) false e

def callableForm (rules : Rules) (ctx : Context) (inDecorator : Bool) :
    Parser Expr :=
  suffixed rules ctx ⟨true, !inDecorator⟩

def constructedForm (rules : Rules) (ctx : Context) : Parser Expr :=
  suffixed rules ctx ⟨false, true⟩

/-! ## Operators -/

/-- A value with a step up or down behind it, if there is one on the line. -/
def postfixExpression (rules : Rules) (ctx : Context) : Parser Expr := do
  let e ← rules (.callable ctx false)
  if !(← Parser.onNewLine) && (← Parser.isAtAny ["++", "--"]) then
    Parser.advance
    Parser.assignToSimple e
    return .other
  else return e

def unaryForm (rules : Rules) (ctx : Context) : Parser Expr := do
  let isAwait := ctx.inAsync && (← Parser.isAtWord "await")
  if isAwait || (← Parser.isAtAny ["+", "-", "~", "!"]) ||
      (← Parser.isAtAnyWord ["delete", "void", "typeof"]) then
    Parser.advance
    let _ ← rules (.unary ctx)
    return .unary
  else if ← Parser.isAtAny ["++", "--"] then
    Parser.advance
    Parser.assignToSimple (← rules (.unary ctx))
    return .other
  else if (← isAtAngle) && !(← Parser.hasMarkup) then
    if ← Parser.isTyped then
      let _ ← eatAngle
      rules.type
      Parser.expect ">"
      return .typed (← rules (.unary ctx))
    else failure
  else postfixExpression rules ctx

/-- The operators that start with a closing angle bracket, longer ones first. -/
def angleOperators : List String := [">>>=", ">>=", ">>>", ">>", ">=", ">"]

/-- The operator that is next, with all its characters, and the text behind
it. -/
def operatorAt : Parser (Option (String × List Char)) := do
  let state ← get
  match state.token with
  | .symbol ">" =>
    return angleOperators.findSome? fun operator =>
      (operator.toList.isPrefixOf? state.text).map fun rest => (operator, rest)
  | .symbol symbol => return some (symbol, state.rest)
  | _ => return none

def binaryOperators : List String :=
  ["||", "&&", "??", "|", "^", "&", "==", "!=", "===", "!==", "<", "<=", ">",
    ">=", "<<", ">>", ">>>", "+", "-", "*", "/", "%", "**"]

def eatBinaryOperator (ctx : Context) : Parser (Option String) := do
  match ← Parser.token with
  | .word word false =>
    if word = "instanceof" ∨ (word = "in" ∧ ctx.allowIn) then
      Parser.advance
      return some word
    else return none
  | _ =>
    match ← operatorAt with
    | some (operator, rest) =>
      if binaryOperators.contains operator then
        Parser.continueAt rest
        return some operator
      else return none
    | none => return none

def typeOperators (rules : Rules) : Parser Bool := do
  if ← Parser.isTyped then
    let found ← Parser.whileTrue
      (return !(← Parser.onNewLine) &&
        (← Parser.isAtAnyWord ["as", "satisfies"])) do
        let isAs ← Parser.eatWord "as"
        if !isAs then Parser.advance
        if isAs && (← Parser.isAtWord "const") then Parser.advance
        else rules.type
    return !found.isEmpty
  else return false

def operand (rules : Rules) (ctx : Context) : Parser Expr := do
  match ← Parser.token with
  | .privateName _ =>
    Parser.advance
    if ctx.allowIn && (← Parser.isAtWord "in") then return .other else failure
  | _ => rules (.unary ctx)

/-- Whether operators are mixed that need parentheses: one that picks the first
value that is there, and one that picks by truth. -/
def areMixed (operators : List String) : Bool :=
  operators.contains "??" &&
    (operators.contains "||" || operators.contains "&&")

/-- Operands with operators between them.  `operators` holds the operators that
were passed; `fuel` bounds the number of those to come. -/
def operatorsWithin (rules : Rules) (ctx : Context) :
    Nat → List String → Expr → Parser Expr
  | 0, _, _ => failure
  | fuel + 1, operators, e => do
    let e ← if ← typeOperators rules then pure (.typed e) else pure e
    match ← eatBinaryOperator ctx with
    | some operator =>
      match operator, e with
      | "**", .unary => Parser.complain
      | _, _ => pure ()
      operatorsWithin rules ctx fuel (operator :: operators)
        (← operand rules ctx)
    | none =>
      Parser.require !(areMixed operators)
      return if operators.isEmpty then e else .other

def binaryExpression (rules : Rules) (ctx : Context) : Parser Expr := do
  let e ← operand rules ctx
  operatorsWithin rules ctx (← Parser.bound) [] e

/-! ## Arrow functions -/

inductive Likelihood where
  | no
  | maybe
  | yes
deriving DecidableEq, Repr

/-- Whether parameters of an arrow function stand behind a parenthesis. -/
def behindParenthesis (ctx : Context) : Parser Likelihood := do
  let answer (isSo : Bool) : Likelihood := if isSo then .yes else .no
  if ← Parser.eat ")" then
    return answer (← Parser.isAtAny ["=>", ":", "\x7b"])
  else if ← Parser.isAtAny ["[", "\x7b"] then return .maybe
  else if ← Parser.isAt "..." then return .yes
  else
    let isModifier ← Parser.isAtAnyWord parameterModifiers
    let isFollowed ← Parser.afterNext (isAtIdentifier ctx)
    if isModifier && isFollowed then
      return answer !(← Parser.afterNext (Parser.isAtWord "as"))
    else if !((← isAtIdentifier ctx) || (← Parser.isAtWord "this"))
      then return .no
    else
      Parser.advance
      if ← Parser.isAt ":" then return .yes
      else if ← Parser.eat "?"
        then return answer (← Parser.isAtAny [":", ",", "=", ")"])
      else if ← Parser.isAtAny [",", "=", ")"] then return .maybe
      else return .no

/-- Whether parameters of the types of an arrow function stand behind an angle
bracket. -/
def behindAngle (ctx : Context) : Parser Likelihood := do
  if ← Parser.hasMarkup then
    let _ ← Parser.eatWord "const"
    if !(← isAtIdentifier ctx) then return .no
    else
      Parser.advance
      if ← Parser.eatWord "extends" then
        return if ← Parser.isAtAny ["=", ">", "/"] then .no else .yes
      else return if ← Parser.isAtAny [",", "="] then .yes else .no
  else
    return if (← isAtIdentifier ctx) || (← Parser.isAtWord "const") then .maybe
      else .no

def arrowLikelihood (ctx : Context) : Parser Likelihood := fun dialect state =>
  let look : Parser Likelihood := do
    if ← Parser.eatWord "async" then
      if ← Parser.onNewLine then failure
    if ← Parser.eat "(" then behindParenthesis ctx
    else if (← Parser.isTyped) && (← isAtAngle) then
      let _ ← eatAngle
      behindAngle ctx
    else return .no
  some (((look dialect state).map (·.1)).getD .no, state)

def arrowBody (rules : Rules) (ctx : Context) (isAsync arrowTypes : Bool) :
    Parser Unit := do
  if ← Parser.isAt "\x7b" then block rules (ctx.ofFunction isAsync false)
  else
    let _ ← rules
        (.assignment { ctx with inGenerator := false, inAsync := isAsync }
          arrowTypes)

def arrowFunction (rules : Rules) (ctx : Context) (arrowTypes : Bool) :
    Parser Expr := do
  let isAsync ← Parser.eatWord "async"
  typeParameters rules
  let _ ← parameters rules
    { ctx with
      inGenerator := false, inAsync := isAsync || ctx.inAsync, allowIn := true }
  let isStated ← returnType rules
  Parser.require !(← Parser.onNewLine)
  Parser.expect "=>"
  arrowBody rules ctx isAsync arrowTypes
  if !arrowTypes && isStated && !(← Parser.isAt ":") then failure
  return .other

def arrowFunction? (rules : Rules) (ctx : Context) (arrowTypes : Bool) :
    Parser (Option Expr) := do
  match ← arrowLikelihood ctx with
  | .no => return none
  | .maybe => Parser.attempt (arrowFunction rules ctx arrowTypes)
  | .yes =>
    if arrowTypes then return some (← arrowFunction rules ctx arrowTypes)
    else Parser.attempt (arrowFunction rules ctx arrowTypes)

/-- Whether an arrow function of one name behind `async` starts here. -/
def isAtAsyncName (ctx : Context) : Parser Bool :=
  Parser.ahead do
    Parser.expectWord "async"
    if ← Parser.onNewLine then return false
    else
      let _ ← identifier ctx
      return !(← Parser.onNewLine) && (← Parser.isAt "=>")

/-- The arrow and the body of an arrow function behind its only name. -/
def nameArrowTail (rules : Rules) (ctx : Context) (isAsync arrowTypes : Bool) :
    Parser Expr := do
  Parser.require !(← Parser.onNewLine)
  Parser.expect "=>"
  arrowBody rules ctx isAsync arrowTypes
  return .other

/-! ## Assignments -/

def yieldTail (rules : Rules) (ctx : Context) : Parser Expr := do
  if ← Parser.onNewLine then return .other
  else if ← Parser.eat "*" then
    let _ ← rules.assignment ctx
    return .other
  else
    if ← canStartExpression ctx then
      let _ ← rules.assignment ctx
    return .other

def assignmentOperators : List String :=
  ["+=", "-=", "*=", "/=", "%=", "**=", "<<=", ">>=", ">>>=", "&=", "|=", "^=",
    "&&=", "||=", "??="]

/-- What may stand behind an expression with binary operators: an assignment, or
two choices. -/
def assignmentTail (rules : Rules) (ctx : Context) (arrowTypes : Bool)
    (e : Expr) :
    Parser Expr := do
  match ← operatorAt with
  | none => return e
  | some (operator, rest) =>
    if operator = "=" then
      Parser.assignTo e
      Parser.advance
      let _ ← rules (.assignment ctx arrowTypes)
      return .assignment e
    else if assignmentOperators.contains operator then
      Parser.assignToSimple e
      Parser.continueAt rest
      let _ ← rules (.assignment ctx arrowTypes)
      return .other
    else if operator = "?" then
      Parser.advance
      let _ ← rules (.assignment ctx.bracketed false)
      Parser.expect ":"
      let _ ← rules (.assignment ctx arrowTypes)
      return .other
    else return e

def assignmentForm (rules : Rules) (ctx : Context) (arrowTypes : Bool) :
    Parser Expr := do
  if ctx.inGenerator && (← Parser.isAtWord "yield") then
    Parser.advance
    yieldTail rules ctx
  else
    match ← arrowFunction? rules ctx arrowTypes with
    | some e => return e
    | none =>
      if ← isAtAsyncName ctx then
        Parser.advance
        let _ ← identifier ctx
        nameArrowTail rules ctx true arrowTypes
      else
        let e ← binaryExpression rules ctx
        match e with
        | .identifier _ =>
          if ← Parser.isAt "=>" then nameArrowTail rules ctx false arrowTypes
          else assignmentTail rules ctx arrowTypes e
        | _ => assignmentTail rules ctx arrowTypes e

def expressionForm (rules : Rules) (ctx : Context) : Parser Expr := do
  match ← Parser.separated "," (rules.assignment ctx) with
  | [e] => return e
  | _ => return .other

end Script
end BuildHost
