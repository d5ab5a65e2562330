import BuildHost.Json.Value

/-!
# Writing JSON

The compact text of a value, without blanks, and the text over several lines
with two spaces for each level.  In strings only quotes, backslashes and control
characters are escaped.
-/

namespace BuildHost
namespace Json

def hexDigit (n : Nat) : Char := "0123456789abcdef".toList.getD n '0'

def escapeChar (c : Char) : List Char :=
  match c with
  | '"' => ['\\', '"']
  | '\\' => ['\\', '\\']
  | '\x08' => ['\\', 'b']
  | '\x0c' => ['\\', 'f']
  | '\n' => ['\\', 'n']
  | '\r' => ['\\', 'r']
  | '\t' => ['\\', 't']
  | c =>
    if c.toNat < 0x20
      then ['\\', 'u', '0', '0', hexDigit (c.toNat / 16),
        hexDigit (c.toNat % 16)]
    else [c]

def stringText (s : String) : List Char :=
  '"' :: s.toList.flatMap escapeChar ++ ['"']

def lineBreak (level : Nat) : List Char :=
  '\n' :: List.replicate (2 * level) ' '

mutual

def compactText : Value → List Char
  | .null => "null".toList
  | .bool true => "true".toList
  | .bool false => "false".toList
  | .number n => n.text.toList
  | .string s => stringText s
  | .array items => '[' :: compactItems items ++ [']']
  | .object members => '\x7b' :: compactMembers members ++ ['\x7d']

def compactItems : List Value → List Char
  | [] => []
  | [item] => compactText item
  | item :: rest => compactText item ++ ',' :: compactItems rest

def compactMembers : List (String × Value) → List Char
  | [] => []
  | [(name, value)] => stringText name ++ ':' :: compactText value
  | (name, value) :: rest =>
    stringText name ++ ':' :: compactText value ++ ',' :: compactMembers rest

end

mutual

/-- The text of a value over several lines, in a place of the given level. -/
def prettyText (level : Nat) : Value → List Char
  | .null => "null".toList
  | .bool true => "true".toList
  | .bool false => "false".toList
  | .number n => n.text.toList
  | .string s => stringText s
  | .array [] => ['[', ']']
  | .array (item :: rest) =>
    '[' :: prettyItems (level + 1) (item :: rest) ++ lineBreak level ++ [']']
  | .object [] => ['\x7b', '\x7d']
  | .object (member :: rest) =>
    '\x7b' :: prettyMembers (level + 1) (member :: rest) ++ lineBreak level
      ++ ['\x7d']

def prettyItems (level : Nat) : List Value → List Char
  | [] => []
  | [item] => lineBreak level ++ prettyText level item
  | item :: rest =>
    lineBreak level ++ prettyText level item ++ ',' :: prettyItems level rest

def prettyMembers (level : Nat) : List (String × Value) → List Char
  | [] => []
  | [(name, value)] =>
    lineBreak level ++ stringText name ++ ':' :: ' ' :: prettyText level value
  | (name, value) :: rest =>
    lineBreak level ++ stringText name ++ ':' :: ' '
      :: prettyText level value ++
      ',' :: prettyMembers level rest

end

def Value.compact (v : Value) : String := String.ofList (compactText v)

def Value.pretty (v : Value) : String := String.ofList (prettyText 0 v)

end Json
end BuildHost
