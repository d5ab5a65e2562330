import BuildHost.Build.Basic
import BuildHost.Script.Grammar

/-!
# Collecting metadata

The record of a source text: a description of each symbol that it declares and
exports, and its directives that export again what other modules export.  Values
are described by their literals; for any other value an error stands in.
-/

namespace BuildHost
namespace Collector

open Json Script

def errorSymbol (message : String) : Value :=
  .object [("__symbolic", .string "error"), ("message", .string message)]

def kindSymbol (kind : String) : Value := .object [("__symbolic", .string kind)]

/-- The description of a symbol that stands for another of its module. -/
def referenceSymbol (name : String) : Value :=
  .object [("__symbolic", .string "reference"), ("name", .string name)]

/-! ## Values -/

/-- The first natural number that is not the only one that its floating point
number stands for. -/
def integerLimit : Nat := 0x20000000000000

/-- The value of a number: an integer where the number can be no other, and
`null` where there is no finite number. -/
def numberValue (x : Binary64) : Value :=
  match x.toNat? with
  | some n => if n < integerLimit then .ofNat n else .number (.float x)
  | none => if x.isFinite then .number (.float x) else .null

mutual

def literalValue : Expr → Value
  | .string value => .string value
  | .number x => numberValue x
  | .bool b => .bool b
  | .null => .null
  | .parenthesized inner => literalValue inner
  | .array items _ => .array (itemValues items)
  | .object properties =>
    match memberValues [] properties with
    | .ok members => .object members
    | .error message => errorSymbol message
  | _ => errorSymbol "Expression form not supported"

def itemValues : List ArrayItem → List Value
  | [] => []
  | .hole :: items => .null :: itemValues items
  | .item e :: items => literalValue e :: itemValues items
  | .spread _ :: items =>
    errorSymbol "Spread elements are not supported" :: itemValues items

/-- The values of the properties of an object, behind those in `members`; or
what keeps the object from being described. -/
def memberValues (members : List (String × Value)) :
    List Property → Except String (List (String × Value))
  | [] => .ok members
  | .keyed (some name) e :: properties =>
    memberValues (OrderedMap.insert name (literalValue e) members) properties
  | .shorthand name :: properties | .defaulted name :: properties
  | .method (some name) :: properties =>
    memberValues
      (OrderedMap.insert name (errorSymbol "Expression form not supported")
        members)
      properties
  | .keyed none _ :: _ | .method none :: _ =>
    .error "Computed property keys are not supported"
  | .spread _ :: _ => .error "Spread properties are not supported"

end

/-! ## Enumerations -/

/-- The value of a member of an enumeration, and the value of one behind it that
states none; `next` is the value that the member has when it states none
itself. -/
def enumMemberValue (next : Option Binary64) (member : EnumMember) :
    Value × Option Binary64 :=
  match member.value, next with
  | some (.number x), _ => (numberValue x, some (x.mulAdd 1 1))
  | some e, _ => (literalValue e, none)
  | none, some x => (numberValue x, some (x.mulAdd 1 1))
  | none, none => (errorSymbol "Enum member has no computable value", none)

/-- The values of the members of an enumeration, behind those that are given;
members whose names stand in brackets are passed over. -/
def enumValues (values : List (String × Value)) (next : Option Binary64) :
    List EnumMember → List (String × Value)
  | [] => values
  | member :: members =>
    if member.isBracketed then enumValues values next members
    else
      let (value, next) := enumMemberValue next member
      enumValues (OrderedMap.insert member.name value values) next members

/-! ## Symbols -/

def variableSymbol (binding : Binding) (value : Option Expr) :
    Option (String × Value) :=
  match binding, value with
  | .identifier name, some e => some (name, literalValue e)
  | .identifier name, none =>
    some (name, errorSymbol "Variable not initialized")
  | .pattern _, _ => none

def declaredSymbols : Declaration → List (String × Value)
  | .variables declared => declared.filterMap fun entry =>
    variableSymbol entry.1 entry.2
  | .function name => [(name, kindSymbol "function")]
  | .classNamed name => [(name, kindSymbol "class")]
  | .interface name => [(name, kindSymbol "interface")]
  | .enumeration name members =>
    [(name, .object (enumValues [] (some (Binary64.zero false)) members))]
  | .other => []

def exportedName (specifier : ExportSpecifier) : ExportedName :=
  if specifier.name = specifier.publicName then .plain specifier.name
  else .renamed specifier.name specifier.publicName

/-- The record with what one statement exports.  A declaration takes the place
of an earlier description, but a name in a list of exports does not. -/
def addItem (record : MetadataRecord) (item : Item) : MetadataRecord :=
  let withReExport (reExport : ReExport) : MetadataRecord :=
    { record with reExports := some (record.reExports.getD [] ++ [reExport]) }
  match item with
  | .exported declaration =>
    { record with
      symbols := (declaredSymbols declaration).foldl
        (fun symbols symbol => OrderedMap.insert symbol.1 symbol.2 symbols)
          record.symbols }
  | .exportedNames specifiers =>
    { record with
      symbols := specifiers.foldl
        (fun symbols specifier =>
          OrderedMap.insertNew specifier.publicName
            (referenceSymbol specifier.name) symbols)
        record.symbols }
  | .reExported source specifiers =>
    withReExport ⟨source, some (specifiers.map exportedName)⟩
  | .reExportedAll source none => withReExport ⟨source, none⟩
  | .reExportedAll source (some name) =>
    withReExport ⟨source, some [.plain name]⟩
  | .exportedDefault | .other => record

def recordOf (items : List Item) : MetadataRecord :=
  items.foldl addItem (MetadataRecord.empty MetadataRecord.currentVersion)

end Collector

/-- The collector that reads the text of a source file; a text that is not well
formed, or exports nothing, has no record. -/
def MetadataCollector.ofText : MetadataCollector := fun file => do
  let items ← Script.parseText (Script.Dialect.ofPath file.path) file.text
  let record := Collector.recordOf items
  if record.isEmpty then none else some record

end BuildHost
