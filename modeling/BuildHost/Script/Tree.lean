import BuildHost.Number.Binary64

/-!
# Trees of source texts

What reading a source text keeps of it: the literals that can describe a value,
what can be assigned to, and what the module exports.
-/

namespace BuildHost
namespace Script

mutual

inductive Expr where
  | string (value : String)
  | number (x : Binary64)
  | bool (b : Bool)
  | null
  | bigInteger (n : Nat)
  | regex (text : String)
  /-- A template without expressions. -/
  | template (value : String)
  | identifier (name : String)
  /-- A member of an object, reached without a question mark. -/
  | member
  | parenthesized (inner : Expr)
  | array (items : List ArrayItem) (trailingComma : Bool)
  | object (properties : List Property)
  /-- An assignment without an operator. -/
  | assignment (target : Expr)
  /-- An expression with a type attached. -/
  | typed (inner : Expr)
  /-- An expression that starts with an operator. -/
  | unary
  /-- An expression of any other form. -/
  | other

inductive ArrayItem where
  | hole
  | item (e : Expr)
  | spread (e : Expr)

/-- A property of an object; a name that is computed is not known. -/
inductive Property where
  | keyed (name : Option String) (value : Expr)
  /-- A name that is also the value. -/
  | shorthand (name : String)
  /-- A name with a default, which only an object that is assigned to can
  have. -/
  | defaulted (name : String)
  | method (name : Option String)
  | spread (e : Expr)

end

inductive Binding where
  | identifier (name : String)
  /-- A pattern that takes a value apart, with the names in it. -/
  | pattern (names : List String)
deriving DecidableEq, Repr

def Binding.names : Binding → List String
  | identifier name => [name]
  | pattern names => names

structure EnumMember where
  name : String
  /-- Whether the name stands in brackets. -/
  isBracketed : Bool
  value : Option Expr

inductive Declaration where
  | variables (declared : List (Binding × Option Expr))
  | function (name : String)
  | classNamed (name : String)
  | interface (name : String)
  | enumeration (name : String) (members : List EnumMember)
  /-- A declaration of types or of namespaces. -/
  | other

/-- A name in a list of exports, and the name it is exported under. -/
structure ExportSpecifier where
  name : String
  publicName : String
deriving DecidableEq, Repr

inductive Item where
  | exported (declaration : Declaration)
  | exportedNames (specifiers : List ExportSpecifier)
  /-- Names that another module exports. -/
  | reExported (source : String) (specifiers : List ExportSpecifier)
  /-- Everything that another module exports, under one name if one is given. -/
  | reExportedAll (source : String) (name : Option String)
  | exportedDefault
  | other

end Script
end BuildHost
