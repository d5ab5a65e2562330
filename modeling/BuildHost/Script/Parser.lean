import BuildHost.Script.Dialect
import BuildHost.Script.Token
import BuildHost.Script.Tree

/-!
# Parsers of source texts

A parser takes tokens off a text, one token ahead, and has no answer for a text
that is not of its form.  A text can also be read to its end and yet be wrong;
then its state says that it is not sound.  Trying a parser and going back keeps
nothing of the trial.
-/

namespace BuildHost
namespace Script

structure State where
  /-- The next token. -/
  token : Token
  /-- Whether a line ended before the next token. -/
  newline : Bool
  /-- The text from the next token on. -/
  text : List Char
  /-- The text behind the next token. -/
  rest : List Char
  /-- Whether nothing wrong was met so far. -/
  sound : Bool
  /-- How many properties with a default were met in objects that nothing is
  assigned to. -/
  loose : Nat
  /-- A number greater than that of the tokens of the whole text. -/
  limit : Nat

namespace State

def follow (state : State) (text : List Char) : State :=
  match skipGap .blanks false text with
  | (newline, some start) =>
    let (token, rest) := tokenAt start
    { state with token, newline, text := start, rest }
  | (newline, none) =>
    { state with token := .invalid, newline, text, rest := [] }

/-- The state at the start of a text; a first line behind `#!` is passed
over. -/
def start (text : List Char) : State :=
  let code := match text with
    | '#' :: '!' :: rest => rest.dropWhile fun c => !isLineBreak c
    | text => text
  follow ⟨.eof, false, [], [], true, 0, text.length + 2⟩ code

end State

abbrev Parser (α : Type) := ReaderT Dialect (StateT State Option) α

namespace Parser

/-! ## Tokens -/

def token : Parser Token := return (← get).token

def onNewLine : Parser Bool := return (← get).newline

def advance : Parser Unit := modify fun state => state.follow state.rest

def continueAt (rest : List Char) : Parser Unit :=
  modify fun state => state.follow rest

def complain : Parser Unit := modify fun state => { state with sound := false }

def require (condition : Bool) : Parser Unit :=
  if condition then return () else complain

def isTyped : Parser Bool := return (← read).typed

def hasMarkup : Parser Bool := return (← read).markup

def isAt (symbol : String) : Parser Bool := return (← token) = .symbol symbol

def isAtAny (symbols : List String) : Parser Bool := do
  match ← token with
  | .symbol symbol => return symbols.contains symbol
  | _ => return false

def isAtWord (word : String) : Parser Bool :=
  return (← token) = .word word false

def isAtAnyWord (words : List String) : Parser Bool := do
  match ← token with
  | .word word false => return words.contains word
  | _ => return false

def eat (symbol : String) : Parser Bool := do
  if ← isAt symbol then
    advance
    return true
  else return false

def eatWord (word : String) : Parser Bool := do
  if ← isAtWord word then
    advance
    return true
  else return false

def eatIf (condition : Bool) (symbol : String) : Parser Bool :=
  if condition then eat symbol else return false

def eatWordIf (condition : Bool) (word : String) : Parser Bool :=
  if condition then eatWord word else return false

def expect (symbol : String) : Parser Unit := do
  if ← eat symbol then return () else failure

def expectWord (word : String) : Parser Unit := do
  if ← eatWord word then return () else failure

/-- Passes the end of a statement, which a line break, a closing brace or the
end of the text can stand for. -/
def semicolon : Parser Unit := do
  if ← eat ";" then return ()
  else if (← isAt "\x7d") || (← token) = .eof || (← onNewLine) then return ()
  else failure

/-! ## Trials -/

def attempt {α : Type} (parser : Parser α) : Parser (Option α) :=
  fun dialect state =>
  match parser dialect state with
  | some (a, state) => some (some a, state)
  | none => some (none, state)

/-- Looks ahead: the answer of a parser that passes nothing, or `false`. -/
def ahead (parser : Parser Bool) : Parser Bool := fun dialect state =>
  some (((parser dialect state).map (·.1)).getD false, state)

/-- The answer of a question about the token behind the next one. -/
def afterNext (parser : Parser Bool) : Parser Bool := ahead (advance *> parser)

/-! ## Repetition -/

def bound : Parser Nat := return (← get).limit

/-- Runs a parser as long as a condition holds; `fuel` bounds how often. -/
def whileWithin {α : Type} (condition : Parser Bool) (parser : Parser α) :
    Nat → Parser (List α)
  | 0 => failure
  | fuel + 1 => do
    if ← condition then
      let a ← parser
      return a :: (← whileWithin condition parser fuel)
    else return []

/-- Runs a parser, which passes something each time, as long as a condition
holds. -/
def whileTrue {α : Type} (condition : Parser Bool) (parser : Parser α) :
    Parser (List α) := do
  whileWithin condition parser (← bound)

def until_ {α : Type} (close : String) (parser : Parser α) :
    Parser (List α) := do
  let items ← whileTrue (return !(← isAt close) && (← token) ≠ .eof) parser
  expect close
  return items

/-- Items with commas between them up to a closing symbol, which is not passed;
a comma may follow the last.  The second answer says whether one does.  `fuel`
bounds their number. -/
def commaWithin {α : Type} (close : String) (item : Parser α) :
    Nat → Parser (List α × Bool)
  | 0 => failure
  | fuel + 1 => do
    if ← isAt close then return ([], false)
    else
      let a ← item
      if ← isAt close then return ([a], false)
      else
        expect ","
        if ← isAt close then return ([a], true)
        else
          let (items, trailing) ← commaWithin close item fuel
          return (a :: items, trailing)

/-- Items with commas between them up to a closing symbol, which is passed
too. -/
def commaUntil {α : Type} (close : String) (item : Parser α) :
    Parser (List α × Bool) := do
  let found ← commaWithin close item (← bound)
  expect close
  return found

def separated {α : Type} (separator : String) (item : Parser α) :
    Parser (List α) := do
  let first ← item
  let more ← whileTrue (isAt separator) do
    advance
    item
  return first :: more

def parse {α : Type} (parser : Parser α) (dialect : Dialect) (text : String) :
    Option α :=
  match parser dialect (State.start text.toList) with
  | some (a, state) =>
    if state.token = .eof ∧ state.sound ∧ state.loose = 0 then some a else none
  | none => none

end Parser
end Script
end BuildHost
