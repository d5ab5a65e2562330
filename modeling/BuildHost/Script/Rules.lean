import BuildHost.Script.Parser

/-!
# Rules of the grammar

The forms of source texts contain each other.  A parser of one form is given the
parsers of all forms that it may contain as `Rules`, one for each goal; the
grammar as a whole ties the knot, one level of nesting at a time.
-/

namespace BuildHost
namespace Script

structure Context where
  /-- Whether `in` is an operator; it is none at the start of a loop. -/
  allowIn : Bool
  /-- Whether `yield` is a keyword. -/
  inGenerator : Bool
  /-- Whether `await` is a keyword. -/
  inAsync : Bool
  /-- Whether the part lies in the body of a function. -/
  inFunction : Bool
  /-- Whether the part declares what is defined elsewhere. -/
  ambient : Bool
deriving DecidableEq, Repr

namespace Context

def outermost (dialect : Dialect) : Context :=
  ⟨true, false, dialect.isModule, false, dialect.ambient⟩

def ofFunction (ctx : Context) (isAsync isGenerator : Bool) : Context :=
  { ctx with
    allowIn := true, inGenerator := isGenerator, inAsync := isAsync,
    inFunction := true }

def bracketed (ctx : Context) : Context := { ctx with allowIn := true }

end Context

inductive Goal where
  /-- Expressions with commas between them. -/
  | expression (ctx : Context)
  /-- One expression; `arrowTypes` says whether an arrow function may state its
  type when a colon does not follow it. -/
  | assignment (ctx : Context) (arrowTypes : Bool)
  /-- An operand of binary operators. -/
  | unary (ctx : Context)
  /-- What can be called; in a decorator, without brackets for members. -/
  | callable (ctx : Context) (inDecorator : Bool)
  /-- What `new` applies to. -/
  | constructed (ctx : Context)
  /-- A type; `conditional` says whether it may be a conditional one. -/
  | type (conditional : Bool)
  /-- A name, or a pattern of names. -/
  | binding (ctx : Context)
  | statement (ctx : Context)
  /-- An element of markup, behind its opening bracket. -/
  | markup (ctx : Context)

@[reducible]
def Goal.Result : Goal → Type
  | expression _ | assignment _ _ | unary _ | callable _ _ | constructed _ =>
    Expr
  | binding _ => Binding
  | statement _ => Item
  | type _ | markup _ => Unit

abbrev Rules := (goal : Goal) → Parser goal.Result

namespace Rules

def expression (rules : Rules) (ctx : Context) : Parser Expr :=
  rules (.expression ctx)

def assignment (rules : Rules) (ctx : Context) : Parser Expr :=
  rules (.assignment ctx true)

def type (rules : Rules) : Parser Unit := rules (.type true)

def binding (rules : Rules) (ctx : Context) : Parser Binding :=
  rules (.binding ctx)

def statement (rules : Rules) (ctx : Context) : Parser Item :=
  rules (.statement ctx)

end Rules
end Script
end BuildHost
