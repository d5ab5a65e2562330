import BuildHost.Build.Metadata

/-!
# Code generation

The symbols of a program go to the template compiler, and the modules that come
back are written where their source files' counterparts belong.
-/

namespace BuildHost

structure StaticSymbol where
  path : Path
  name : String
deriving DecidableEq, Repr

structure GeneratedModule where
  /-- The source file that the module was compiled from. -/
  fileUrl : Path
  /-- The path of the module, as if it lay beside its source file. -/
  moduleUrl : Path
  source : String
deriving DecidableEq, Repr

structure WriteAttempt where
  path : Path
  content : String
  /-- The files of the program that the file was generated for. -/
  dependencies : List Path
  /-- Why the file could not be written, if it could not. -/
  fault? : Option IoError
deriving DecidableEq, Repr

namespace Build

/-- The template compiler: from symbols, and the texts of another language if
there are any, to modules. -/
abbrev TemplateCompiler := List StaticSymbol → Option String → Action
  (List GeneratedModule)

def preamble : String :=
  "/**\n" ++
  " * @fileoverview This file is generated by the Angular template compiler.\n"
    ++
  " * Do not edit.\n" ++
  " * @suppress \x7bsuspiciousCode,uselessCode,missingProperties\x7d\n" ++
  " */\n" ++
  " /* tslint:disable */\n\n"

/-! ## Symbols -/

/-- The symbols of a record that could be described, as symbols of a file. -/
def symbolsOf (record : MetadataRecord) (p : Path) : List StaticSymbol :=
  (record.symbols.filter fun symbol => !isErrorSymbol symbol.2).map
    fun symbol => ⟨p, symbol.1⟩

/-- The symbols of one file; a file without metadata has none, and is
reported. -/
def fileSymbols (build : Build) (p : Path) : Action (List StaticSymbol) := do
  if !build.isInput p then return []
  else
    let records ← build.metadataOf p
    match records.bind newest? with
    | none =>
      log .warn ("no metadata found for " ++ String.ofList p)
      return []
    | some record =>
      let declaring ← build.resolve p (some p)
      return symbolsOf record (declaring.getD p)

def symbolsOfFiles (build : Build) : List Path → Action (List StaticSymbol)
  | [] => return []
  | p :: rest => do
    let symbols ← build.fileSymbols p
    return symbols ++ (← symbolsOfFiles build rest)

def programSymbols (build : Build) : Action (List StaticSymbol) :=
  build.symbolsOfFiles (build.program.sourceFiles.map (·.path))

/-! ## Texts of another language -/

/-- The text of the catalog of texts, if the options name one, and the file
system after it was read. -/
def loadCatalog (fs : FileSystem) (options : Options) :
    Except HostError (Option String × FileSystem) :=
  match options.catalogFile with
  | none => .ok (none, fs)
  | some file =>
    if (options.locale.getD "").isEmpty then .error (.missingLocale file)
    else if !fs.isFile file then .error (.resource (.notFound file))
    else
      match fs.read file with
      | .ok text => .ok (some text, fs.countRead file)
      | .error fault => .error (.io file fault)

/-! ## Writing -/

/-- Writes a generated file, and makes the folders that it needs. -/
def writeGenerated (fs : FileSystem) (p : Path) (content : String) :
    Except IoError Unit × FileSystem :=
  match fs.ensureFolder p.dirname with
  | (.error fault, fs) => (.error fault, fs)
  | (.ok _, fs) => fs.write p content.toUTF8

def emitModule (build : Build) (module : GeneratedModule) :
    Action WriteAttempt := do
  let p ← build.emitPath module.moduleUrl
  let content := preamble ++ module.source
  let dependencies := ((build.program.find? module.fileUrl).map (·.path)).toList
  let (result, fs) := writeGenerated (← get).files.fs p content
  modifyFiles fun files => { files with fs }
  return { path := p, content, dependencies, fault? := match result with
    | .ok _ => none
    | .error fault => some fault }

/-- Writes modules one after the other, up to the first that cannot be
written. -/
def emitModules (build : Build) :
    List GeneratedModule → Action (List WriteAttempt)
  | [] => return []
  | module :: rest => do
    let attempt ← build.emitModule module
    if attempt.fault?.isSome then return [attempt]
    else return attempt :: (← emitModules build rest)

structure Generation where
  /-- What the template compiler was given, if it was reached. -/
  compiled : Option (List StaticSymbol × Option String)
  writes : List WriteAttempt
  /-- The fault that ended the generation, if one did. -/
  fault? : Option HostError

namespace Generation

/-- The paths of the files that were written, in the order of their modules. -/
def emitted (g : Generation) : List Path :=
  (g.writes.filter (·.fault?.isNone)).map (·.path)

def writeFault? (writes : List WriteAttempt) : Option HostError :=
  writes.findSome? fun attempt => attempt.fault?.map (.emit attempt.path)

end Generation

def generate (build : Build) (compiler : TemplateCompiler)
    (catalog : Option String) :
    StateM State Generation := do
  match ← build.programSymbols.run with
  | .error fault =>
    return { compiled := none, writes := [], fault? := some fault }
  | .ok symbols =>
    let compiled := some (symbols, catalog)
    match ← (compiler symbols catalog).run with
    | .error fault => return { compiled, writes := [], fault? := some fault }
    | .ok modules =>
      match ← (build.emitModules modules).run with
      | .error fault => return { compiled, writes := [], fault? := some fault }
      | .ok writes =>
        return { compiled, writes, fault? := Generation.writeFault? writes }

end Build
end BuildHost
