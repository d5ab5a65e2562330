import BuildHost.Path.Basic

/-!
# Arguments of the command line

A command line is a command with its operands.  The options that every command
knows may stand on either side of the command, and when one is given on both
sides, the one behind the command counts; on one side it may be given once.  The
value of an option is attached to it or is the next argument, and after `--`
every argument is an operand.
-/

namespace BuildHost
namespace CommandLine

inductive Verb where
  | emitPath
  | moduleName
  | resolve
  | metadata
  | symbols
deriving DecidableEq, Repr

namespace Verb

def all : List Verb := [emitPath, moduleName, resolve, metadata, symbols]

def name : Verb → String
  | emitPath => "emit-path"
  | moduleName => "module-name"
  | resolve => "resolve"
  | metadata => "metadata"
  | symbols => "symbols"

def ofName? (text : String) : Option Verb := all.find? (·.name = text)

end Verb

inductive Setting where
  | project
  | logLevel
  /-- The file that a specifier is resolved for. -/
  | containing
deriving DecidableEq, Repr

namespace Setting

def name : Setting → String
  | project => "project"
  | logLevel => "log-level"
  | containing => "from"

def letter? : Setting → Option Char
  | project => some 'p'
  | _ => none

def common : List Setting := [project, logLevel]

/-- The options known where a command, or none yet, has been named. -/
def known : Option Verb → List Setting
  | some .resolve => common ++ [containing]
  | _ => common

end Setting

inductive Command where
  /-- Where the generated counterpart of a file is written. -/
  | emitPath (file : Path)
  /-- By which specifier a generated file imports another file. -/
  | moduleName (imported containing : Path)
  /-- Which file a specifier names. -/
  | resolve (specifier : Path) (containing : Option Path)
  /-- What describes a file. -/
  | metadata (file : Path)
  /-- Which symbols the program exports. -/
  | symbols
deriving DecidableEq, Repr

structure Invocation where
  project : Path
  /-- The level from which messages are shown, as it was written. -/
  logLevel : String
  command : Command
deriving DecidableEq, Repr

inductive Request where
  | version
  | run (invocation : Invocation)
deriving DecidableEq, Repr

inductive UsageError where
  | unexpectedArgument (text : String)
  | unknownCommand (text : String)
  | missingCommand
  | missingValue (setting : Setting)
  | repeated (setting : Setting)
  | missingOperand (verb : Verb)
deriving DecidableEq, Repr

def UsageError.message : UsageError → String
  | unexpectedArgument text => "unexpected argument `" ++ text ++ "`"
  | unknownCommand text => "unknown command `" ++ text ++ "`"
  | missingCommand => "a command is missing"
  | missingValue setting => "a value is missing for `--" ++ setting.name ++ "`"
  | repeated setting => "`--" ++ setting.name ++ "` is given more than once"
  | missingOperand verb => "an operand is missing for `" ++ verb.name ++ "`"

/-! ## One argument -/

inductive Argument where
  /-- The argument `--`. -/
  | endOfOptions
  | version
  /-- An option, with its value when that is attached. -/
  | setting (setting : Setting) (attached : Option String)
  /-- An option that is not known. -/
  | unknown
  | operand
deriving DecidableEq, Repr

namespace Argument

/-- A value behind a letter may follow an equals sign; an empty one is none. -/
def attachedToLetter : List Char → Option String
  | [] => none
  | '=' :: value => some (String.ofList value)
  | value => some (String.ofList value)

def ofLong (verb : Option Verb) (text : List Char) : Argument :=
  let name := text.takeWhile (· ≠ '=')
  let attached := match text.dropWhile (· ≠ '=') with
    | [] => none
    | _ :: value => some (String.ofList value)
  match (Setting.known verb).find? (·.name.toList = name) with
  | some known => .setting known attached
  | none => if verb.isNone ∧ text = "version".toList then .version else .unknown

def ofShort (verb : Option Verb) (letter : Char) (rest : List Char) :
    Argument :=
  match (Setting.known verb).find? (·.letter? = some letter) with
  | some known => .setting known (attachedToLetter rest)
  | none => if verb.isNone ∧ letter = 'V' then .version else .unknown

/-- What an argument is, behind the command or before one is named. -/
def classify (verb : Option Verb) (text : String) : Argument :=
  match text.toList with
  | ['-', '-'] => .endOfOptions
  | '-' :: '-' :: long => ofLong verb long
  | '-' :: letter :: rest => ofShort verb letter rest
  | _ => .operand

/-- Whether an argument can be the value of the option before it. -/
def canBeValue (verb : Option Verb) (text : String) : Bool :=
  classify verb text = .operand

end Argument

/-! ## All arguments -/

abbrev Settings := List (Setting × String)

/-- The values of the options on one side of the command, and one more. -/
def Settings.add (settings : Settings) (setting : Setting) (value : String) :
    Except UsageError Settings :=
  match settings.lookup setting with
  | some _ => .error (.repeated setting)
  | none => .ok ((setting, value) :: settings)

/-- The arguments behind the command: the values of its options, and its
operands. -/
def readOperands (verb : Verb) (settings : Settings) (operands : List String) :
    List String → Except UsageError (Settings × List String)
  | [] => .ok (settings, operands)
  | text :: rest =>
    match Argument.classify (some verb) text with
    | .endOfOptions => .ok (settings, operands ++ rest)
    | .version | .unknown => .error (.unexpectedArgument text)
    | .operand => readOperands verb settings (operands ++ [text]) rest
    | .setting setting (some value) => do
      readOperands verb (← settings.add setting value) operands rest
    | .setting setting none =>
      match rest with
      | [] => .error (.missingValue setting)
      | value :: rest =>
        if Argument.canBeValue (some verb) value then do
          readOperands verb (← settings.add setting value) operands rest
        else .error (.missingValue setting)

def commandOf (verb : Verb) (settings : Settings) (operands : List String) :
    Except UsageError Command :=
  match verb, operands.map String.toList with
  | .emitPath, [file] => .ok (.emitPath file)
  | .moduleName, [imported, containing] => .ok (.moduleName imported containing)
  | .resolve, [specifier] =>
    .ok (.resolve specifier ((settings.lookup .containing).map String.toList))
  | .metadata, [file] => .ok (.metadata file)
  | .symbols, [] => .ok .symbols
  | .emitPath, _ :: extra :: _ | .moduleName, _ :: _ :: extra :: _ | .resolve,
    _ :: extra :: _
  | .metadata, _ :: extra :: _ | .symbols, extra :: _ =>
    .error (.unexpectedArgument (String.ofList extra))
  | verb, _ => .error (.missingOperand verb)

def standardProject : String := "tsconfig.json"

def standardLogLevel : String := "info"

/-- The request of a command with the arguments behind it; `outer` holds the
options before it. -/
def readCommand (outer : Settings) (verb : Verb) (arguments : List String) :
    Except UsageError Request := do
  let (inner, operands) ← readOperands verb [] [] arguments
  let settings := inner ++ outer
  let command ← commandOf verb settings operands
  return .run
    { project := ((settings.lookup .project).getD standardProject).toList
      logLevel := (settings.lookup .logLevel).getD standardLogLevel
      command }

/-- Reads the arguments before the command, given those options that were read
already, and then the rest. -/
def readFrom (settings : Settings) : List String → Except UsageError Request
  | [] => .error .missingCommand
  | text :: rest =>
    match Argument.classify none text with
    | .endOfOptions | .unknown => .error (.unexpectedArgument text)
    | .version => .ok .version
    | .operand =>
      match Verb.ofName? text with
      | some verb => readCommand settings verb rest
      | none => .error (.unknownCommand text)
    | .setting setting
        (some value) => do readFrom (← settings.add setting value) rest
    | .setting setting none =>
      match rest with
      | [] => .error (.missingValue setting)
      | value :: rest =>
        if Argument.canBeValue none value then do
          readFrom (← settings.add setting value) rest
        else .error (.missingValue setting)

def Request.ofArguments (arguments : List String) : Except UsageError Request :=
  readFrom [] arguments

end CommandLine
end BuildHost
