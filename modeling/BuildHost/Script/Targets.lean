import BuildHost.Script.Parser

/-!
# Targets of assignments

Which expressions can be assigned to: names and members, and arrays and objects
of such, which take a value apart.
-/

namespace BuildHost
namespace Script

/-- Whether an expression is a name or a member, in parentheses or with a type
attached. -/
def Expr.isSimpleTarget : Expr → Bool
  | .identifier _ | .member => true
  | .parenthesized inner => inner.isSimpleTarget
  | .typed inner => inner.isSimpleTarget
  | _ => false

mutual

def Expr.isTarget : Expr → Bool
  | .array items trailingComma => areTargets items trailingComma
  | .object properties => arePropertyTargets properties
  | .identifier _ | .member => true
  | .parenthesized inner => inner.isSimpleTarget
  | .typed inner => inner.isSimpleTarget
  | _ => false

/-- Whether an expression can be assigned to, or be assigned to with a
default. -/
def Expr.isElementTarget : Expr → Bool
  | .assignment _ => true
  | .array items trailingComma => areTargets items trailingComma
  | .object properties => arePropertyTargets properties
  | .identifier _ | .member => true
  | .parenthesized inner => inner.isSimpleTarget
  | .typed inner => inner.isSimpleTarget
  | _ => false

/-- Whether the items of an array can be assigned to; only the last can take all
that is left. -/
def areTargets : List ArrayItem → Bool → Bool
  | [], _ => true
  | [.spread e], trailingComma => e.isTarget && !trailingComma
  | .spread _ :: _ :: _, _ => false
  | .hole :: items, trailingComma => areTargets items trailingComma
  | .item e :: items, trailingComma =>
    e.isElementTarget && areTargets items trailingComma

/-- Whether the properties of an object can be assigned to; only the last can
take all that is left. -/
def arePropertyTargets : List Property → Bool
  | [] => true
  | [.spread e] => e.isSimpleTarget
  | .spread _ :: _ :: _ => false
  | .keyed _ e :: properties =>
    e.isElementTarget && arePropertyTargets properties
  | .shorthand _ :: properties => arePropertyTargets properties
  | .defaulted _ :: properties => arePropertyTargets properties
  | .method _ :: _ => false

end

mutual

/-- How many properties with a default are assigned to when the expression
is. -/
def Expr.defaults : Expr → Nat
  | .array items _ => itemDefaults items
  | .object properties => propertyDefaults properties
  | _ => 0

/-- How many properties with a default the items of an array hold. -/
def itemDefaults : List ArrayItem → Nat
  | [] => 0
  | .hole :: items => itemDefaults items
  | .item e :: items => e.defaults + itemDefaults items
  | .spread e :: items => e.defaults + itemDefaults items

def propertyDefaults : List Property → Nat
  | [] => 0
  | .keyed _ e :: properties => e.defaults + propertyDefaults properties
  | .defaulted _ :: properties => 1 + propertyDefaults properties
  | .shorthand _ :: properties => propertyDefaults properties
  | .method _ :: properties => propertyDefaults properties
  | .spread e :: properties => e.defaults + propertyDefaults properties

end

namespace Parser

def assignTo (target : Expr) : Parser Unit := do
  require target.isTarget
  modify fun state => { state with loose := state.loose - target.defaults }

/-- Takes an expression for a name or a member that is assigned to. -/
def assignToSimple (target : Expr) : Parser Unit :=
  require target.isSimpleTarget

end Parser
end Script
end BuildHost
