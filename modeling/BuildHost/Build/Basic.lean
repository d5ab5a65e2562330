import BuildHost.Build.Options
import BuildHost.Build.Program
import BuildHost.Log
import BuildHost.Metadata.Record
import BuildHost.Resolution.Specifier

/-!
# The host of a build

What the template compiler asks while it compiles: where files are emitted, how
files import each other, and what files hold.  A `Build` is what stays the same
during one compilation, and a `Build.State` what changes; an action that fails
keeps the state it has reached.
-/

namespace BuildHost

/-- Describes what a source file exports; nothing when it exports nothing. -/
abbrev MetadataCollector := SourceFile → Option MetadataRecord

structure Build where
  options : Options
  layout : Layout
  program : Program
  resolver : ModuleResolver
  collector : MetadataCollector

namespace Build

structure State where
  files : KnownFiles
  /-- The records of the metadata files that were read. -/
  cache : List (Path × List MetadataRecord)
  log : Log

def State.start (fs : FileSystem) : State where
  files := { fs, planned := [] }
  cache := []
  log := []

abbrev Action (α : Type) := ExceptT HostError (StateM State) α

def make (options : Options) (program : Program)
    (collector : MetadataCollector) :
    Except HostError Build := do
  let layout ← options.layout
  let resolver := NodeResolution.resolver (layout.rootDirs.map (·.path))
  return { options, layout, program, resolver, collector }

/-! ## Logging -/

def log (level : LogLevel) (message : String) : Action Unit :=
  modify fun state => { state with log := state.log ++ [⟨level, message⟩] }

/-! ## Files -/

def modifyFiles (f : KnownFiles → KnownFiles) : Action Unit :=
  modify fun state => { state with files := f state.files }

def fileText (p : Path) : Action String := do
  let fs := (← get).files.fs
  modifyFiles (·.countReads [p])
  match fs.read p with
  | .ok text => return text
  | .error fault => throw (.io p fault)

def loadResource (p : Path) : Action String := do
  let fs := (← get).files.fs
  modifyFiles (·.countReads [p])
  match fs.loadResource p with
  | .ok text => return text
  | .error fault => throw (.resource fault)

def loadSummary (p : Path) : Action (Option String) := do
  let fs := (← get).files.fs
  if fs.isFile p then
    modifyFiles (·.countReads [p])
    return (fs.read p).toOption
  else return none

def sourceFile (build : Build) (p : Path) : Action SourceFile := do
  match build.program.find? p with
  | some file => return file
  | none =>
    if (← get).files.fs.isFile p then return ⟨p, ← fileText p⟩
    else throw (.sourceFileNotFound p)

/-- The declaration file that describes the compiled form of a file. -/
def declarationFileOf (p : Path) : Path :=
  p.withoutExtension ++ declarationExtension

def isInput (build : Build) (p : Path) : Bool :=
  (FileRole.classify p).isCompilationInput build.layout.generateForLibraries

/-! ## Places and specifiers -/

def traceMessage (p : Path) (dir : Directory) : String :=
  "Check if " ++ String.ofList p ++ " is under rootDirs element "
    ++ String.ofList dir.path

def emitPath (build : Build) (p : Path) : Action Path := do
  if build.options.trace then
    for dir in build.layout.rootDirs do
      log .debug (traceMessage p dir)
  return build.layout.emitPath p

/-- The specifier by which the generated file `containing` imports `imported`;
an imported file that does not exist is planned. -/
def specifierOf (build : Build) (imported containing : Path) : Action Path := do
  modifyFiles (·.importing imported)
  return build.layout.specifierOf imported containing

def resolve (build : Build) (specifier : Path) (containing : Option Path) :
    Action (Option Path) := do
  match build.layout.resolve build.resolver (← get).files specifier
    containing with
  | .error fault => throw fault
  | .ok resolution =>
    modifyFiles (·.countReads resolution.manifests)
    return resolution.target

end Build
end BuildHost
