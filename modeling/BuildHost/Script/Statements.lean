import BuildHost.Script.Modules

/-!
# Statements
-/

namespace BuildHost
namespace Script

/-! ## Loops and branches -/

/-- A statement that a loop or a branch consists of, which declares nothing of
its own. -/
def body (rules : Rules) (ctx : Context) : Parser Unit := do
  if (← Parser.isAtAnyWord ["class", "const"]) || (← isAtLet ctx) then failure
  else
    let _ ← rules.statement ctx

def condition (rules : Rules) (ctx : Context) : Parser Unit := do
  Parser.expect "("
  let _ ← rules.expression ctx.bracketed
  Parser.expect ")"

def countedHead (rules : Rules) (ctx : Context) : Parser Unit := do
  if !(← Parser.isAt ";") then
    let _ ← rules.expression ctx
  Parser.expect ";"
  if !(← Parser.isAt ")") then
    let _ ← rules.expression ctx

/-- What a loop goes through, behind its variables, if it goes through
anything. -/
def traversed (rules : Rules) (ctx : Context) : Parser Bool := do
  if ← Parser.eatWord "of" then
    let _ ← rules.assignment ctx
    return true
  else if ← Parser.eatWord "in" then
    let _ ← rules.expression ctx
    return true
  else return false

/-- The head of a `for` loop, behind its opening parenthesis.  What is gone
through may be put into a variable named `async` only by a loop that awaits
it. -/
def forHead (rules : Rules) (ctx : Context) (isAwaited : Bool) :
    Parser Unit := do
  let first := { ctx with allowIn := false }
  match ← variableKind? ctx with
  | some kind =>
    let declared ← Parser.separated "," (declarator rules first)
    if !(← traversed rules ctx) then
      checkValues ctx kind declared
      Parser.expect ";"
      countedHead rules ctx
  | none =>
    if ← Parser.eat ";" then countedHead rules ctx
    else
      let isAmbiguous ← Parser.afterNext (Parser.isAtWord "of")
      let isAsync ← Parser.isAtWord "async"
      let e ← rules.expression first
      Parser.require (isAwaited ||
        !(isAsync && isAmbiguous && (← Parser.isAtWord "of")))
      if ← Parser.isAtAnyWord ["of", "in"] then
        Parser.assignTo e
        let _ ← traversed rules ctx
      else
        Parser.expect ";"
        countedHead rules ctx

def forTail (rules : Rules) (ctx : Context) : Parser Unit := do
  let isAwaited ← Parser.eatWordIf ctx.inAsync "await"
  Parser.expect "("
  forHead rules ctx.bracketed isAwaited
  Parser.expect ")"
  body rules ctx

def ifTail (rules : Rules) (ctx : Context) : Parser Unit := do
  condition rules ctx
  body rules ctx
  if ← Parser.eatWord "else" then body rules ctx

def doTail (rules : Rules) (ctx : Context) : Parser Unit := do
  body rules ctx
  Parser.expectWord "while"
  condition rules ctx
  let _ ← Parser.eat ";"

def switchCase (rules : Rules) (ctx : Context) : Parser Unit := do
  if ← Parser.eatWord "case" then
    let _ ← rules.expression ctx
  else Parser.expectWord "default"
  Parser.expect ":"
  let _ ← Parser.whileTrue
    (return !(← Parser.isAtAnyWord ["case", "default"]) &&
      !(← Parser.isAt "\x7d"))
    (rules.statement ctx)

def switchTail (rules : Rules) (ctx : Context) : Parser Unit := do
  condition rules ctx
  Parser.expect "\x7b"
  let _ ← Parser.until_ "\x7d" (switchCase rules ctx.bracketed)

/-- What is tried, and what happens when it fails, behind the word. -/
def tryTail (rules : Rules) (ctx : Context) : Parser Unit := do
  block rules ctx
  let catches ← Parser.eatWord "catch"
  if catches then
    if ← Parser.eat "(" then
      let _ ← rules.binding ctx
      let _ ← typeAnnotation rules
      Parser.expect ")"
    block rules ctx
  if ← Parser.eatWord "finally" then block rules ctx
  else if !catches then failure

/-! ## Jumps -/

/-- A jump behind its word, with the label it goes to if one stands on the
line. -/
def jumpTail (ctx : Context) : Parser Unit := do
  if !(← Parser.onNewLine) && (← isAtIdentifier ctx) then
    let _ ← identifier ctx
  Parser.semicolon

/-- The end of a function behind its word, with what it returns if that stands
on the line. -/
def returnTail (rules : Rules) (ctx : Context) : Parser Unit := do
  Parser.require ctx.inFunction
  if !(← Parser.onNewLine) && !(← Parser.isAtAny [";", "\x7d"]) &&
    (← Parser.token) ≠ .eof then
    let _ ← rules.expression ctx.bracketed
  Parser.semicolon

def throwTail (rules : Rules) (ctx : Context) : Parser Unit := do
  Parser.require !(← Parser.onNewLine)
  let _ ← rules.expression ctx.bracketed
  Parser.semicolon

/-! ## Statements -/

/-- A statement that starts with a keyword of its own; the answer is `none` when
none does. -/
def keywordStatement (rules : Rules) (ctx : Context) (word : String) :
    Option (Parser Unit) :=
  match word with
  | "if" => some (ifTail rules ctx)
  | "for" => some (forTail rules ctx)
  | "while" => some (condition rules ctx *> body rules ctx)
  | "with" => some (condition rules ctx *> body rules ctx)
  | "do" => some (doTail rules ctx)
  | "switch" => some (switchTail rules ctx)
  | "try" => some (tryTail rules ctx)
  | "return" => some (returnTail rules ctx)
  | "throw" => some (throwTail rules ctx)
  | "break" => some (jumpTail ctx)
  | "continue" => some (jumpTail ctx)
  | "debugger" => some Parser.semicolon
  | _ => none

def expressionStatement (rules : Rules) (ctx : Context) : Parser Unit := do
  let e ← rules.expression ctx
  match e with
  | .identifier _ =>
    if ← Parser.eat ":" then
      let _ ← rules.statement ctx
    else Parser.semicolon
  | _ => Parser.semicolon

def decoratedStatement (rules : Rules) (ctx : Context) : Parser Item := do
  let _ ← decorators rules ctx
  if ← Parser.eatWord "export" then exportTail rules ctx true
  else if ← Parser.isAtAnyWord ["class", "abstract", "declare"] then
    let _ ← declaration rules ctx
    return .other
  else failure

def isAtDeclaration (ctx : Context) : Parser Bool := do
  return (← Parser.isAtAnyWord ["function", "class", "var", "const"]) ||
    (← isAtLet ctx) ||
    (← isAtUsing ctx) || (← isAtAsyncFunction) || (← isAtTypedDeclaration)

/-- Whether resources are declared here that are awaited when they are
released. -/
def isAtAwaitUsing (ctx : Context) : Parser Bool := do
  let isFollowed ← Parser.afterNext
      (return !(← Parser.onNewLine) && (← isAtUsing ctx))
  return ctx.inAsync && (← Parser.isAtWord "await") && isFollowed

/-- Whether an import starts here, and no expression that starts with the same
word. -/
def isAtImport : Parser Bool := do
  let isExpression ← Parser.afterNext (Parser.isAtAny ["(", "."])
  return (← Parser.isAtWord "import") && !isExpression

def statementForm (rules : Rules) (ctx : Context) : Parser Item := do
  let plain (statement : Parser Unit) : Parser Item := do
    statement
    return .other
  match ← Parser.token with
  | .symbol ";" => plain Parser.advance
  | .symbol "\x7b" => plain (block rules ctx)
  | .symbol "@" => decoratedStatement rules ctx
  | .word word false =>
    match keywordStatement rules ctx word with
    | some statement =>
      Parser.advance
      plain statement
    | none =>
      if ← Parser.eatWord "export" then exportTail rules ctx false
      else if ← isAtImport then
        Parser.advance
        plain (importTailStatement ctx)
      else if (← isAtDeclaration ctx) || (← isAtAwaitUsing ctx) then
        let _ ← declaration rules ctx
        return .other
      else plain (expressionStatement rules ctx)
  | _ => plain (expressionStatement rules ctx)

end Script
end BuildHost
