import BuildHost.Build.CodeGeneration
import BuildHost.CommandLine.Arguments
import BuildHost.Metadata.Collector
import BuildHost.Project.Options
import BuildHost.Project.RootFiles
import BuildHost.Version

/-!
# Outcome of a command line

What a command line writes, and the code with which it ends.  A command writes
its answer only when it succeeds; the messages logged on the way are written in
either case.
-/

namespace BuildHost
namespace CommandLine

structure Outcome where
  code : UInt8
  output : String
  errors : String
deriving DecidableEq, Repr

inductive Failure where
  /-- The text names no level. -/
  | logLevel (text : String)
  | project (source : ProjectFault)
  | host (source : HostError)
  /-- No file has the specifier. -/
  | unresolved (specifier : Path)
  /-- The file to describe does not exist. -/
  | nonexistent (file : Path)
deriving Repr

def Failure.chain : Failure → List String
  | logLevel text => [LogLevel.unknownMessage text]
  | project source => source.chain
  | host source => source.chain
  | unresolved specifier => ["Cannot resolve " ++ String.ofList specifier]
  | nonexistent file => [String.ofList file ++ " does not exist"]

def Failure.line (failure : Failure) : String :=
  "Error: " ++ ": ".intercalate failure.chain

def versionLine : String := "ngc-paths " ++ Version.current.display

def unlines (lines : List String) : String :=
  String.join (lines.map (· ++ "\n"))

/-- The path of the folder from which relative paths are followed. -/
def workingPath (disk : Disk) : Path :=
  Path.separator :: [Path.separator].intercalate disk.workingFolder

def absolute (disk : Disk) (p : Path) : Path :=
  if p.head? = some Path.separator then p.normalize
  else (workingPath disk ++ Path.separator :: p).normalize

/-- The options and the program of a project; an absolute path names the project
file. -/
def loadProgram (disk : Disk) (project : Path) :
    Except Failure (Options × Program) := do
  let config ← (ProjectConfig.load disk project).mapError .project
  let options := config.options project.dirname
  let roots ← (config.rootFiles disk project.dirname).mapError .project
  let (program, _) ← (Program.load (.onDisk disk) roots Program.empty).mapError
      .host
  return (options, program)

open Build in
def answer (disk : Disk) (build : Build) :
    Command → StateM State (Except Failure (List String))
  | .emitPath file => do
    return ((← (build.emitPath (absolute disk file)).run).mapError .host).map
      fun p =>
      [String.ofList p]
  | .moduleName imported containing => do
    let specifier ← (build.specifierOf (absolute disk imported)
        (absolute disk containing)).run
    return (specifier.mapError .host).map fun p => [String.ofList p]
  | .resolve specifier containing => do
    match ← (build.resolve specifier (containing.map (absolute disk))).run with
    | .error fault => return .error (.host fault)
    | .ok none => return .error (.unresolved specifier)
    | .ok (some p) => return .ok [String.ofList p]
  | .metadata file => do
    match ← (build.metadataOf (absolute disk file)).run with
    | .error fault => return .error (.host fault)
    | .ok none => return .error (.nonexistent (absolute disk file))
    | .ok (some records) =>
      let value := ((newest? records).map (·.toValue)).getD .null
      return .ok [value.pretty]
  | .symbols => do
    return ((← build.programSymbols.run).mapError .host).map fun symbols =>
      symbols.map fun symbol => String.ofList symbol.path ++ "#" ++ symbol.name

/-- The outcome of a failed command, after the lines that were already
written. -/
def Outcome.failed (before : List String) (failure : Failure) : Outcome where
  code := 1
  output := ""
  errors := unlines (before ++ [failure.line])

/-- The outcome of a command for a build, after the lines that were already
written. -/
def Outcome.ofBuild (disk : Disk) (level : LogLevel) (command : Command)
    (before : List String) (build : Build) : Outcome :=
  let (result, state) :=
    (answer disk build command).run (Build.State.start (.onDisk disk))
  let written := before ++ (Logger.console level).lines state.log
  match result with
  | .ok lines =>
    { code := 0, output := unlines lines, errors := unlines written }
  | .error failure => .failed written failure

/-- The outcome of a command for the program of a project; a log of all levels
opens with the version of this library. -/
def Outcome.ofProgram (disk : Disk) (level : LogLevel) (command : Command)
    (options : Options) (program : Program) : Outcome :=
  let before := if level = .debug then [Version.banner] else []
  match Build.make options program MetadataCollector.ofText with
  | .error fault => .failed before (.host fault)
  | .ok build => .ofBuild disk level command before build

def Outcome.ofInvocation (disk : Disk) (invocation : Invocation) : Outcome :=
  match LogLevel.parse invocation.logLevel with
  | .error text => .failed [] (.logLevel text)
  | .ok level =>
    match loadProgram disk (absolute disk invocation.project) with
    | .error failure => .failed [] failure
    | .ok (options, program) =>
      .ofProgram disk level invocation.command options program

def Outcome.ofArguments (disk : Disk) (arguments : List String) : Outcome :=
  match Request.ofArguments arguments with
  | .error fault =>
    { code := 2, output := "", errors := "error: " ++ fault.message ++ "\n" }
  | .ok .version => { code := 0, output := versionLine ++ "\n", errors := "" }
  | .ok (.run invocation) => .ofInvocation disk invocation

end CommandLine
end BuildHost
