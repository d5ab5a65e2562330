import BuildHost.FileSystem.Disk
import BuildHost.Glob.Pattern

/-!
# Files by pattern

The entries of a disk that a pattern stands for.  A pattern is followed
component by component; here a wildcard never passes a separator, and a `**` at
the end stands for directories alone.
-/

namespace BuildHost
namespace Glob

inductive Component where
  /-- Exactly this name. -/
  | exactly (name : Path)
  /-- A name of this form. -/
  | pattern (tokens : List Token)
  /-- Any directories. -/
  | directories
deriving DecidableEq, Repr

namespace Component

def nameOf? (tokens : List Token) : Option Path :=
  tokens.mapM fun token =>
    match token with
    | .char c => some c
    | _ => none

def parse (text : Path) : Except PatternFault Component := do
  let tokens ← Glob.parse text
  if tokens = [.anyDirectories] then return .directories
  else
    match nameOf? tokens with
    | some name => return .exactly name
    | none => return .pattern tokens

def accepts (component : Component) (name : Path) : Bool :=
  match component with
  | .exactly text => text = name
  | .pattern tokens => Glob.accepts tokens name
  | .directories => true

end Component

def collapse : List Component → List Component
  | .directories :: rest =>
    match collapse rest with
    | .directories :: rest => .directories :: rest
    | rest => .directories :: rest
  | component :: rest => component :: collapse rest
  | [] => []

/-- The texts between the separators; a separator at the end has none behind
it. -/
def componentTexts (pattern : Path) : List Path :=
  let texts := pattern.splitOn Path.separator
  if texts.getLast? = some [] then texts.dropLast else texts

/-- Where the walk along a pattern starts, and the components that it
follows. -/
def parseWalk (pattern : Path) :
    Except PatternFault (Path × List Component) := do
  let _ ← Glob.parse pattern
  let (start, rest) := match pattern with
    | '/' :: rest => (Path.Root.slash.text, rest)
    | rest => (Path.here, rest)
  return (start, collapse (← (componentTexts rest).mapM Component.parse))

def child (dir name : Path) : Path :=
  if dir.getLast? = some Path.separator then dir ++ name
  else dir ++ Path.separator :: name

/-- The names that stand for a directory itself and for the one around it, where
a pattern starts with a dot and stands for them. -/
def dotNames (tokens : List Token) : List Path :=
  if tokens.head? = some (.char '.')
    then [Path.here, Path.up].filter (accepts tokens) else []

/-- The paths of the entries that components lead to from a directory. -/
def walk (disk : Disk) : List Component → Path → List Path
  | [], p => [p]
  | .exactly text :: rest, dir =>
    if disk.exists? (child dir text)
      then walk disk rest (child dir text) else []
  | .pattern tokens :: rest, dir =>
    if disk.isDirectory dir then
      ((disk.names dir).filter (accepts tokens) ++ dotNames tokens).flatMap
        fun name =>
        walk disk rest (child dir name)
    else []
  | [.directories], dir =>
    ((disk.below dir).map fun way => way.foldl child dir).filter
      disk.isDirectory
  | .directories :: component :: rest, dir =>
    (disk.below dir).flatMap fun way =>
      if way.getLast?.any component.accepts
        then walk disk rest (way.foldl child dir) else []

def find (disk : Disk) (pattern : Path) : Except PatternFault (List Path) := do
  let (start, components) ← parseWalk pattern
  return walk disk components start

end Glob
end BuildHost
