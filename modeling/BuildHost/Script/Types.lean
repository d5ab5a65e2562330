import BuildHost.Script.Parameters

/-!
# Types

The forms of types.  Nothing of a type is kept; it only has to be well formed.
-/

namespace BuildHost
namespace Script

/-! ## Brackets of types -/

/-- Passes an opening angle bracket, also when it was cut as the start of a
longer operator. -/
def eatAngle : Parser Bool := do
  match (← get).text with
  | '<' :: rest =>
    Parser.continueAt rest
    return true
  | _ => return false

/-- Whether an opening angle bracket is next, alone or as the start of a longer
operator. -/
def isAtAngle : Parser Bool := return (← get).text.head? = some '<'

def typeParameter (rules : Rules) : Parser Unit := do
  let _ ← Parser.whileTrue
    (return (← Parser.isAtAnyWord ["const", "in", "out"]) &&
      (← Parser.afterNext (return !(← Parser.onNewLine) && (← isAtAnyName))) &&
      !(← Parser.afterNext (Parser.isAtWord "extends")))
    Parser.advance
  let _ ← identifier Context.plain
  if ← Parser.eatWord "extends" then rules.type
  if ← Parser.eat "=" then rules.type

def typeParameters (rules : Rules) : Parser Unit := do
  if (← Parser.isTyped) && (← isAtAngle) then
    let _ ← eatAngle
    let (found, _) ← Parser.commaUntil ">" (typeParameter rules)
    Parser.require !found.isEmpty

def typeArguments (rules : Rules) : Parser Unit := do
  if ← eatAngle then
    let (found, _) ← Parser.commaUntil ">" rules.type
    Parser.require !found.isEmpty
  else failure

def typeArgumentsOnLine (rules : Rules) : Parser Unit := do
  if !(← Parser.onNewLine) && (← isAtAngle) then typeArguments rules

/-! ## Predicates -/

def isAtSubjectOnLine : Parser Bool := do
  if ← Parser.onNewLine then return false
  else return (← isAtIdentifier Context.plain) || (← Parser.isAtWord "this")

def eatIs : Parser Bool := do
  if ← Parser.onNewLine then return false else Parser.eatWord "is"

def typeOrPredicate (rules : Rules) (conditional : Bool) : Parser Unit := do
  let isPredicate ← Parser.afterNext
      (return !(← Parser.onNewLine) && (← Parser.isAtWord "is"))
  if (← isAtIdentifier Context.plain) && isPredicate then
    let _ ← identifier Context.plain
    Parser.expectWord "is"
    rules.type
  else rules (.type conditional)

/-- The type of what a function returns, behind a colon, if it is stated. -/
def returnType (rules : Rules) : Parser Bool := do
  if ← Parser.eatIf (← Parser.isTyped) ":" then
    typeOrPredicate rules true
    return true
  else return false

/-! ## Members of object types -/

def memberEnd : Parser Unit := do
  if ← Parser.eat "," then return () else Parser.semicolon

def signature (rules : Rules) : Parser Unit := do
  typeParameters rules
  let _ ← parameters rules Context.plain
  let _ ← returnType rules

/-- Whether brackets that are next give the type of all members of a kind. -/
def isIndexSignature : Parser Bool :=
  Parser.ahead do
    Parser.expect "["
    if ← Parser.isAtAny ["...", "]"] then return true
    else
      let _ ← anyWord
      if ← Parser.isAtAny [":", ","] then return true
      else if ← Parser.eat "?" then Parser.isAtAny [":", ",", "]"]
      else return false

def indexSignature (rules : Rules) : Parser Unit := do
  Parser.expect "["
  let _ ← identifier Context.plain
  Parser.expect ":"
  rules.type
  Parser.expect "]"
  Parser.require (← typeAnnotation rules)

def isAtSignature : Parser Bool := do
  return (← Parser.isAt "(") || (← isAtAngle)

def typeMember (rules : Rules) : Parser Unit := do
  let isConstructor ← Parser.afterNext isAtSignature
  if ← isAtSignature then signature rules
  else if (← Parser.isAtWord "new") && isConstructor then
    Parser.advance
    signature rules
  else
    let _ ← modifiers ["readonly"]
    if ← isIndexSignature then indexSignature rules
    else
      if ← isAtModifier ["get", "set"] then Parser.advance
      let _ ← propertyName rules Context.plain
      let _ ← Parser.eat "?"
      if ← isAtSignature then signature rules
      else
        let _ ← typeAnnotation rules
  memberEnd

def typeMembers (rules : Rules) : Parser Unit := do
  Parser.expect "\x7b"
  let _ ← Parser.until_ "\x7d" (typeMember rules)

/-- Passes `readonly` or another word, with or without a sign before it. -/
def signed (word : Parser Bool) : Parser Unit := do
  if ← Parser.isAtAny ["+", "-"] then
    Parser.advance
    if ← word then return () else failure
  else
    let _ ← word

def isMappedType : Parser Bool :=
  Parser.ahead do
    Parser.expect "\x7b"
    if ← Parser.isAtAny ["+", "-"] then
      Parser.advance
      Parser.isAtWord "readonly"
    else
      let _ ← Parser.eatWord "readonly"
      Parser.expect "["
      let _ ← identifier Context.plain
      Parser.isAtWord "in"

def mappedType (rules : Rules) : Parser Unit := do
  Parser.expect "\x7b"
  signed (Parser.eatWord "readonly")
  Parser.expect "["
  let _ ← identifier Context.plain
  Parser.expectWord "in"
  rules.type
  if ← Parser.eatWord "as" then rules.type
  Parser.expect "]"
  signed (Parser.eat "?")
  let _ ← typeAnnotation rules
  Parser.semicolon
  Parser.expect "\x7d"

/-! ## Types without operators -/

/-- Names with points between them, of which the first was passed. -/
def qualifiedRest : Parser Unit := do
  let _ ← Parser.whileTrue (Parser.isAt ".") do
    Parser.advance
    anyWord

def tupleItem (rules : Rules) : Parser Unit := do
  let _ ← Parser.eat "..."
  let isNamed ← Parser.afterNext do
    if ← Parser.eat "?" then Parser.isAt ":" else Parser.isAt ":"
  if (← isAtAnyName) && isNamed then
    let _ ← anyWord
    let _ ← Parser.eat "?"
    Parser.expect ":"
  rules.type
  let _ ← Parser.eat "?"

def importType (rules : Rules) : Parser Unit := do
  Parser.expect "("
  rules.type
  if ← Parser.eat "," then
    if !(← Parser.isAt ")") then
      let _ ← rules.assignment Context.plain
      let _ ← Parser.eat ","
  Parser.expect ")"
  qualifiedRest
  typeArgumentsOnLine rules

def valueType (rules : Rules) : Parser Unit := do
  if ← Parser.eatWord "import" then importType rules
  else
    let _ ← anyWord
    let _ ← Parser.whileTrue (Parser.isAt ".") do
      Parser.advance
      match ← Parser.token with
      | .privateName _ => Parser.advance
      | _ =>
        let _ ← anyWord
    typeArgumentsOnLine rules

/-- A type that starts with a word; one that means nothing else is the name of a
type. -/
def wordType (rules : Rules) (word : String) : Parser Unit := do
  match word with
  | "typeof" =>
    Parser.advance
    valueType rules
  | "import" =>
    Parser.advance
    importType rules
  | "this" =>
    Parser.advance
    if ← eatIs then rules.type
  | "void" | "null" | "true" | "false" => Parser.advance
  | _ =>
    if word = "asserts" && (← Parser.afterNext isAtSubjectOnLine) then
      Parser.advance
      Parser.advance
      if ← eatIs then rules.type
    else
      Parser.advance
      qualifiedRest
      typeArgumentsOnLine rules

def primaryType (rules : Rules) : Parser Unit := do
  match ← Parser.token with
  | .word word _ => wordType rules word
  | .string _ | .number _ | .bigInteger _ => Parser.advance
  | .template _ =>
    let _ ← templateParts rules.type
  | .symbol "-" =>
    Parser.advance
    match ← Parser.token with
    | .number _ | .bigInteger _ => Parser.advance
    | _ => failure
  | .symbol "\x7b" =>
    if ← isMappedType then mappedType rules else typeMembers rules
  | .symbol "[" =>
    Parser.advance
    let _ ← Parser.commaUntil "]" (tupleItem rules)
  | .symbol "(" =>
    Parser.advance
    rules.type
    Parser.expect ")"
  | _ => failure

/-! ## Operators -/

def typeKeywords : List String :=
  ["void", "null", "true", "false", "this", "typeof", "import", "new"]

def canStartType : Parser Bool := do
  match ← Parser.token with
  | .word word _ =>
    return typeKeywords.contains word || isIdentifier Context.plain word
  | .string _ | .number _ | .bigInteger _ | .template _ => return true
  | .symbol "-" =>
    Parser.afterNext do
      match ← Parser.token with
      | .number _ | .bigInteger _ => return true
      | _ => return false
  | .symbol symbol =>
    return ["\x7b", "[", "<", "|", "&", "*", "?", "!", "...",
      "("].contains symbol
  | _ => return false

/-- What can stand behind a type on its line: brackets of an array or of an
index, or a mark of whether it may be null. -/
def typeSuffix (rules : Rules) : Parser Unit := do
  if ← Parser.eat "[" then
    if !(← Parser.isAt "]") then rules.type
    Parser.expect "]"
  else Parser.advance

def isAtTypeSuffix : Parser Bool := do
  if ← Parser.onNewLine then return false
  else if ← Parser.isAt "?" then return !(← Parser.afterNext canStartType)
  else Parser.isAtAny ["[", "!"]

/-- The constraint of a type that is inferred, if it has one.  Where a
conditional type can be, what looks like a constraint may be its condition
instead. -/
def inferConstraint (rules : Rules) (conditional : Bool) : Parser Unit := do
  let constraint : Parser Unit := do
    Parser.expectWord "extends"
    rules (.type false)
    if conditional && (← Parser.isAt "?") then failure
  let _ ← Parser.attempt constraint

def operatorType (rules : Rules) (conditional : Bool) : Parser Unit := do
  let _ ← Parser.whileTrue (Parser.isAtAnyWord ["keyof", "unique", "readonly"])
      Parser.advance
  if ← Parser.eatWord "infer" then
    let _ ← identifier Context.plain
    inferConstraint rules conditional
  else
    primaryType rules
    let _ ← Parser.whileTrue isAtTypeSuffix (typeSuffix rules)

/-- Types with an operator between them, which may also stand before the
first. -/
def operatorChain (operator : String) (operand : Parser Unit) :
    Parser Unit := do
  let _ ← Parser.eat operator
  let _ ← Parser.separated operator operand

/-! ## Function types -/

/-- Whether a parenthesis that is next starts the parameters of a function
type. -/
def isFunctionParenthesis (rules : Rules) : Parser Bool :=
  Parser.ahead do
    Parser.expect "("
    if ← Parser.isAtAny [")", "..."] then return true
    else
      let _ ← modifiers parameterModifiers
      if (← Parser.isAtWord "this") then Parser.advance
      else
        let _ ← rules.binding Context.plain
      if ← Parser.isAtAny [":", ",", "?", "="] then return true
      else if ← Parser.eat ")" then Parser.isAt "=>"
      else return false

def functionType (rules : Rules) (conditional : Bool) : Parser Unit := do
  typeParameters rules
  let _ ← parameters rules Context.plain
  Parser.expect "=>"
  typeOrPredicate rules conditional

def unconditionalType (rules : Rules) (conditional : Bool) : Parser Unit :=
  operatorChain "|" (operatorChain "&" (operatorType rules conditional))

def typeForm (rules : Rules) (conditional : Bool) : Parser Unit := do
  let isAbstractNew ← Parser.afterNext (Parser.isAtWord "new")
  if (← isAtAngle) || (← isFunctionParenthesis rules)
    then functionType rules conditional
  else if (← Parser.isAtWord "abstract") && isAbstractNew then
    Parser.advance
    Parser.advance
    functionType rules conditional
  else if ← Parser.eatWord "new" then functionType rules conditional
  else
    unconditionalType rules conditional
    if ← Parser.eatWordIf (conditional && !(← Parser.onNewLine)) "extends" then
      rules (.type false)
      Parser.expect "?"
      rules.type
      Parser.expect ":"
      rules.type

end Script
end BuildHost
