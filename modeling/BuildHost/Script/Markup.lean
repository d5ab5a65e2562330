import BuildHost.Script.Types

/-!
# Markup

Elements with attributes and children among expressions.  Text between elements
is cut by its own rules, so an element ends before its last bracket is passed.
-/

namespace BuildHost
namespace Script

/-- Whether a character may stand in a name of markup behind its start. -/
def isMarkupPart (c : Char) : Bool := Unicode.isIdentifierPart c || c = '-'

def markupName : Parser (List Char) := do
  match (← get).text with
  | c :: rest =>
    if Unicode.isIdentifierStart c then
      let (more, after) := rest.span isMarkupPart
      Parser.continueAt after
      return c :: more
    else failure
  | [] => failure

/-- The name of an element: one name, two with a colon between them, or more
with points between them. -/
def elementName : Parser (List (List Char)) := do
  let first ← markupName
  if ← Parser.eat ":" then return [first, [':'], ← markupName]
  else
    let more ← Parser.whileTrue (Parser.isAt ".") do
      Parser.advance
      markupName
    return first :: more

def attributeText : Parser Unit := do
  match (← get).text with
  | quote :: rest =>
    match rest.span (· ≠ quote) with
    | (_, _ :: after) => Parser.continueAt after
    | (_, []) => failure
  | [] => failure

def embedded (rules : Rules) (ctx : Context) (mayBeEmpty : Bool) :
    Parser Unit := do
  Parser.expect "\x7b"
  if mayBeEmpty && (← Parser.isAt "\x7d") then return ()
  else
    let _ ← Parser.eat "..."
    let _ ← rules.expression ctx.bracketed
    if ← Parser.isAt "\x7d" then return () else failure

def attributeValue (rules : Rules) (ctx : Context) : Parser Unit := do
  match (← get).text.head? with
  | some '"' | some '\'' => attributeText
  | some '\x7b' =>
    embedded rules ctx false
    Parser.advance
  | some '<' =>
    rules (.markup ctx)
    Parser.advance
  | _ => failure

def attribute_ (rules : Rules) (ctx : Context) : Parser Unit := do
  if ← Parser.eat "\x7b" then
    Parser.expect "..."
    let _ ← rules.assignment ctx.bracketed
    Parser.expect "\x7d"
  else
    let _ ← markupName
    if ← Parser.eat ":" then
      let _ ← markupName
    if ← Parser.eat "=" then attributeValue rules ctx

/-- The children of an element, of which the first starts at `text`, up to the
closing element, whose opening bracket is passed.  `fuel` bounds their
number. -/
def children (rules : Rules) (ctx : Context) : Nat → List Char → Parser Unit
  | 0, _ => failure
  | fuel + 1, text => do
    match text.dropWhile fun c => !(['\x7b', '<', '>', '\x7d'].contains c) with
    | '\x7b' :: rest =>
      Parser.continueAt ('\x7b' :: rest)
      embedded rules ctx true
      children rules ctx fuel (← get).rest
    | '<' :: rest =>
      Parser.continueAt ('<' :: rest)
      if ← Parser.afterNext (Parser.isAt "/") then Parser.advance
      else
        rules (.markup ctx)
        children rules ctx fuel (← get).rest
    | _ => failure

/-- The closing element behind its opening bracket; its last bracket is not
passed. -/
def closingElement (name : Option (List (List Char))) : Parser Unit := do
  Parser.expect "/"
  match name with
  | none => pure ()
  | some name => Parser.require ((← elementName) = name)
  if ← Parser.isAt ">" then return () else failure

def markupForm (rules : Rules) (ctx : Context) : Parser Unit := do
  if !(← eatAngle) then failure
  if ← Parser.isAt ">" then
    children rules ctx (← Parser.bound) (← get).rest
    closingElement none
  else
    let name ← elementName
    if (← Parser.isTyped) && (← isAtAngle) then typeArguments rules
    let _ ← Parser.whileTrue (return !(← Parser.isAtAny ["/", ">"]))
        (attribute_ rules ctx)
    if ← Parser.eat "/" then
      if ← Parser.isAt ">" then return () else failure
    else
      children rules ctx (← Parser.bound) (← get).rest
      closingElement (some name)

end Script
end BuildHost
