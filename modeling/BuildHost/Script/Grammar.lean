import BuildHost.Script.Statements

/-!
# The grammar of source texts

The parsers of all forms, tied together, and what they make of a whole text.
-/

namespace BuildHost
namespace Script

/-- The parser of a goal, given the parsers of what it contains. -/
def rule (rules : Rules) : Rules
  | .expression ctx => expressionForm rules ctx
  | .assignment ctx arrowTypes => assignmentForm rules ctx arrowTypes
  | .unary ctx => unaryForm rules ctx
  | .callable ctx inDecorator => callableForm rules ctx inDecorator
  | .constructed ctx => constructedForm rules ctx
  | .type conditional => typeForm rules conditional
  | .binding ctx => bindingForm rules ctx
  | .statement ctx => statementForm rules ctx
  | .markup ctx => markupForm rules ctx

def grammar : Nat → Rules
  | 0 => fun _ => failure
  | depth + 1 => fun goal => rule (grammar depth) goal

def statements (rules : Rules) (ctx : Context) : Parser (List Item) :=
  Parser.whileTrue (return (← Parser.token) ≠ .eof) (rules.statement ctx)

def Item.exportNames : Item → List String
  | .exported (.variables declared) => declared.flatMap fun entry =>
    entry.1.names
  | .exported (.function name) => [name]
  | .exported (.classNamed name) => [name]
  | .exported _ => []
  | .exportedNames specifiers => specifiers.map (·.publicName)
  | .reExported _ specifiers => specifiers.map (·.publicName)
  | .reExportedAll _ name => name.toList
  | .exportedDefault => ["default"]
  | .other => []

/-- The statements of a text in a dialect, if it is one of that dialect.  Forms
cannot nest deeper than the text is long, since each passes a character before
it comes to one that it contains, or is one of the few that only lead to
another.  In a text without types no two exports have one name. -/
def parseText (dialect : Dialect) (text : String) : Option (List Item) := do
  let depth := 8 * (text.toList.length + 2)
  let items ← Parser.parse (statements (grammar depth) (.outermost dialect))
      dialect text
  if dialect.typed || areDistinct (items.flatMap Item.exportNames)
    then some items else none

end Script
end BuildHost
