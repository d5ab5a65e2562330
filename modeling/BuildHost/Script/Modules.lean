import BuildHost.Script.Declarations

/-!
# Imports and exports
-/

namespace BuildHost
namespace Script

/-! ## Names of exports -/

/-- A name by which a module exports something: any word, or a string. -/
structure ExportName where
  text : String
  isString : Bool
deriving DecidableEq, Repr

def isAtExportName : Parser Bool := do
  match ← Parser.token with
  | .word _ _ | .string _ => return true
  | _ => return false

def exportName : Parser ExportName := do
  match ← Parser.token with
  | .string value =>
    Parser.advance
    return ⟨value, true⟩
  | _ => return ⟨← anyWord, false⟩

structure ListedName where
  name : ExportName
  /-- The name that it gets, if it gets another. -/
  newName : Option ExportName
  /-- Whether the word `type` says that the name is one of a type. -/
  isType : Bool
deriving DecidableEq, Repr

def listedNameTail (isType : Bool) : Parser ListedName := do
  let name ← exportName
  if ← Parser.eatWord "as" then return ⟨name, some (← exportName), isType⟩
  else return ⟨name, none, isType⟩

/-- The rest of a name in a list behind the word `type`, which may say that the
name is one of a type, or be the name itself. -/
def typeNameTail : Parser ListedName := do
  let word (text : String) : ExportName := ⟨text, false⟩
  if ← Parser.eatWord "as" then
    if ← Parser.eatWord "as" then
      if ← isAtExportName then return ⟨word "as", some (← exportName), true⟩
      else return ⟨word "type", some (word "as"), false⟩
    else if ← isAtExportName
      then return ⟨word "type", some (← exportName), false⟩
    else return ⟨word "as", none, true⟩
  else if ← isAtExportName then listedNameTail true
  else return ⟨word "type", none, false⟩

def listedName : Parser ListedName := do
  if ← Parser.eatWordIf (← Parser.isTyped) "type" then typeNameTail
  else listedNameTail false

/-- Names in braces; in a list of types none of them may say again that it is
one. -/
def listedNames (areTypes : Bool) : Parser (List ListedName) := do
  Parser.expect "\x7b"
  let (entries, _) ← Parser.commaUntil "\x7d" listedName
  Parser.require !(areTypes && entries.any (·.isType))
  return entries

/-! ## Sources -/

/-- What is said of a module that is imported: names with strings, in braces. -/
def importAttribute : Parser Unit := do
  let _ ← exportName
  Parser.expect ":"
  let _ ← stringToken

def source : Parser String := do
  let specifier ← stringToken
  let hasAttributes ← do
    if ← Parser.eatWord "with" then pure true
    else if ← Parser.onNewLine then pure false
    else Parser.eatWord "assert"
  if hasAttributes then
    Parser.expect "\x7b"
    let _ ← Parser.commaUntil "\x7d" importAttribute
  Parser.semicolon
  return specifier

def fromSource : Parser String := do
  Parser.expectWord "from"
  source

/-! ## Imports -/

def canBind (ctx : Context) (entry : ListedName) : Bool :=
  let name := entry.newName.getD entry.name
  !name.isString && isIdentifier ctx name.text

/-- The names of an import: all under one name, or some of them. -/
def importedNames (ctx : Context) (areTypes : Bool) : Parser Unit := do
  if ← Parser.eat "*" then
    Parser.expectWord "as"
    let _ ← identifier ctx
  else
    let entries ← listedNames areTypes
    Parser.require (entries.all (canBind ctx))

/-- Another name for a module or for a name in a namespace, behind the equals
sign. -/
def importEquals (ctx : Context) : Parser Unit := do
  let isCall ← Parser.afterNext (Parser.isAt "(")
  if (← Parser.isAtWord "require") && isCall then
    Parser.advance
    Parser.expect "("
    let _ ← stringToken
    Parser.expect ")"
  else
    let _ ← identifier ctx
    qualifiedRest
  Parser.semicolon

/-- Whether a word behind `import` says what is imported, and is no name. -/
def isImportMark (ctx : Context) : Parser Bool := do
  let isMark ← do
    if ← Parser.isAtWord "type" then Parser.isTyped
    else Parser.isAtAnyWord ["defer", "source"]
  if !isMark then return false
  else
    Parser.afterNext do
      if ← Parser.isAtAny ["*", "\x7b"] then return true
      else if ← Parser.isAtWord "from" then
        Parser.afterNext
          (return (← Parser.isAtWord "from") || (← Parser.isAt "="))
      else isAtIdentifier ctx

/-- An import behind its word; an import of types names all of them, or one, or
some, but not both one and more. -/
def importTailStatement (ctx : Context) : Parser Unit := do
  match ← Parser.token with
  | .string _ =>
    let _ ← source
  | _ =>
    let areTypes ← do
      if ← isImportMark ctx then pure ((← anyWord) == "type") else pure false
    if ← Parser.isAtAny ["*", "\x7b"] then importedNames ctx areTypes
    else
      let _ ← identifier ctx
      if ← Parser.eatIf (← Parser.isTyped) "=" then
        importEquals ctx
        return ()
      else if ← Parser.eat "," then
        Parser.require !areTypes
        importedNames ctx areTypes
    let _ ← fromSource

/-! ## Exports -/

/-- The names, besides keywords, that no variable of a module can have. -/
def strictNames : List String :=
  ["await", "implements", "interface", "package", "private", "protected",
    "public", "static", "yield"]

/-- Whether a name in a list of exports can be one of this module. -/
def canExport (entry : ListedName) : Bool :=
  !entry.name.isString && !keywords.contains entry.name.text &&
    !strictNames.contains entry.name.text

/-- A name in a list of exports, and the name it is exported under. -/
def specifierOf (entry : ListedName) : ExportSpecifier :=
  ⟨entry.name.text, (entry.newName.getD entry.name).text⟩

def exportedNames (areTypes : Bool) : Parser Item := do
  let entries ← listedNames areTypes
  if ← Parser.isAtWord "from" then
    return .reExported (← fromSource) (entries.map specifierOf)
  else
    Parser.require (entries.all canExport)
    Parser.semicolon
    return .exportedNames (entries.map specifierOf)

def exportedAll : Parser Item := do
  let name ← if ← Parser.eatWord "as" then pure (some (← exportName).text)
      else pure none
  return .reExportedAll (← fromSource) name

/-- The value that a module exports by default, behind the word. -/
def exportedDefault (rules : Rules) (ctx : Context) : Parser Item := do
  let isTyped ← Parser.isTyped
  let isAbstract ← Parser.afterNext
      (return !(← Parser.onNewLine) && (← Parser.isAtWord "class"))
  let isNamed ← Parser.afterNext do
    return !(← Parser.onNewLine) && (← isAtIdentifier Context.plain)
  let _ ← decorators rules ctx
  if ← Parser.isAtWord "class" then
    let _ ← classForm rules ctx
  else if ← Parser.eatWordIf (isTyped && isAbstract) "abstract" then
    let _ ← classForm rules ctx
  else if ← Parser.eatWordIf (isTyped && isNamed) "interface" then
    let _ ← interfaceTail rules ctx
  else if (← Parser.isAtWord "function") || (← isAtAsyncFunction) then
    let _ ← functionDeclaration rules ctx false
  else
    let _ ← rules.assignment ctx
    Parser.semicolon
  return .exportedDefault

/-- The names of types in braces, or the types of another module, behind
`type`. -/
def exportedTypes : Parser Item := do
  if ← Parser.eat "*" then exportedAll else exportedNames true

/-- An export behind its word; `isDecorated` says whether decorators stand
before it. -/
def exportTail (rules : Rules) (ctx : Context) (isDecorated : Bool) :
    Parser Item := do
  let isTyped ← Parser.isTyped
  let isTypeList ← Parser.afterNext (Parser.isAtAny ["\x7b", "*"])
  let isNamespace ← Parser.afterNext (Parser.isAtWord "namespace")
  if isDecorated &&
    !(← Parser.isAtAnyWord ["class", "abstract", "default", "declare"])
      then failure
  else if ← Parser.eat "*" then exportedAll
  else if ← Parser.isAt "\x7b" then exportedNames false
  else if ← Parser.eatWord "default" then exportedDefault rules ctx
  else if ← Parser.eatWord "import" then
    let isEquals ← Parser.ahead do
      if ← isImportMark ctx then Parser.advance
      let _ ← identifier ctx
      Parser.isAt "="
    if !(isTyped && isEquals) then failure
    importTailStatement ctx
    return .other
  else if ← Parser.eatIf isTyped "=" then
    let _ ← rules.expression ctx
    Parser.semicolon
    return .other
  else if ← Parser.eatWordIf (isTyped && isNamespace) "as" then
    Parser.expectWord "namespace"
    let _ ← identifier ctx
    Parser.semicolon
    return .other
  else if ← Parser.eatWordIf (isTyped && isTypeList) "type" then exportedTypes
  else
    let hasDecorators ← decorators rules ctx
    if hasDecorators && !(← Parser.isAtAnyWord ["class", "abstract", "declare"])
      then failure
    if (← isAtUsing ctx) || (← Parser.isAtWord "await") then failure
    return .exported (← declaration rules ctx)

end Script
end BuildHost
