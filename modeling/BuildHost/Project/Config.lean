import BuildHost.Json.Reader

/-!
# Project files

A project file is a JSON object that lists the files of a program, by path or by
pattern, and the options of its build.  Every field may be left out, and members
without a field are passed over.  A project file, and each of the two groups of
options in it, may also be a list of its fields in order.
-/

namespace BuildHost

open Json

/-- The options that the language compiler shares with the build. -/
structure CompilerOptions where
  baseUrl : Option String
  rootDirs : Option (List String)
deriving DecidableEq, Repr

structure TemplateOptions where
  genDir : Option String
  basePath : Option String
  generateForLibraries : Bool
  trace : Bool
  skipMetadataEmit : Bool
  catalogFile : Option String
  catalogFormat : Option String
  locale : Option String
deriving DecidableEq, Repr

structure ProjectConfig where
  compiler : CompilerOptions
  /-- The files that are listed by path. -/
  files : Option (List String)
  /-- The patterns of further files. -/
  included : Option (List String)
  /-- The patterns of files that no pattern includes. -/
  excluded : Option (List String)
  template : TemplateOptions
deriving DecidableEq, Repr

def Json.Reader.texts? (depth : Nat) : Reader (Option (List String)) :=
  Reader.optional (Reader.sequence depth fun _ => Reader.text)

def Json.Reader.text? : Reader (Option String) := Reader.optional Reader.text

namespace CompilerOptions

def structName : String := "CompilerOptions"

structure Draft where
  baseUrl : Option (Option String) := none
  rootDirs : Option (Option (List String)) := none

def Draft.options (draft : Draft) : CompilerOptions where
  baseUrl := draft.baseUrl.getD none
  rootDirs := draft.rootDirs.getD none

def field (depth : Nat) (name : String) (draft : Draft) : Reader Draft := do
  match name with
  | "baseUrl" =>
    return { draft with
      baseUrl := ← Reader.once name draft.baseUrl Reader.text? }
  | "rootDirs" =>
    return { draft with
      rootDirs := ← Reader.once name draft.rootDirs (Reader.texts? depth) }
  | _ => Reader.unknown draft

def inOrder (depth : Nat) : Reader CompilerOptions := do
  let wanted := s!"struct {structName} with 2 elements"
  let baseUrl ← Reader.element 0 wanted Reader.text?
  let rootDirs ← Reader.element 1 wanted (Reader.texts? depth)
  return { baseUrl, rootDirs }

def read (depth : Nat) : Reader CompilerOptions :=
  Reader.struct structName depth {} field
    (fun draft => return draft.options) inOrder

end CompilerOptions

namespace TemplateOptions

def structName : String := "AngularCompilerOptions"

structure Draft where
  genDir : Option (Option String) := none
  basePath : Option (Option String) := none
  generateForLibraries : Option Bool := none
  trace : Option Bool := none
  skipMetadataEmit : Option Bool := none
  catalogFile : Option (Option String) := none
  catalogFormat : Option (Option String) := none
  locale : Option (Option String) := none

/-- The options of a draft; code is generated for libraries unless a file says
otherwise. -/
def Draft.options (draft : Draft) : TemplateOptions where
  genDir := draft.genDir.getD none
  basePath := draft.basePath.getD none
  generateForLibraries := draft.generateForLibraries.getD true
  trace := draft.trace.getD false
  skipMetadataEmit := draft.skipMetadataEmit.getD false
  catalogFile := draft.catalogFile.getD none
  catalogFormat := draft.catalogFormat.getD none
  locale := draft.locale.getD none

def field (name : String) (draft : Draft) : Reader Draft := do
  match name with
  | "genDir" =>
    return { draft with genDir := ← Reader.once name draft.genDir Reader.text? }
  | "basePath" =>
    return { draft with
      basePath := ← Reader.once name draft.basePath Reader.text? }
  | "generateCodeForLibraries" =>
    return { draft with
      generateForLibraries :=
        ← Reader.once name draft.generateForLibraries Reader.bool }
  | "trace" =>
    return { draft with trace := ← Reader.once name draft.trace Reader.bool }
  | "skipMetadataEmit" =>
    return { draft with
      skipMetadataEmit :=
        ← Reader.once name draft.skipMetadataEmit Reader.bool }
  | "i18nFile" =>
    return { draft with
      catalogFile := ← Reader.once name draft.catalogFile Reader.text? }
  | "i18nFormat" =>
    return { draft with
      catalogFormat := ← Reader.once name draft.catalogFormat Reader.text? }
  | "locale" =>
    return { draft with locale := ← Reader.once name draft.locale Reader.text? }
  | _ => Reader.unknown draft

/-- Reads the options from a list; those with a default may be missing, but not
one behind them. -/
def inOrder : Reader TemplateOptions := do
  let wanted := s!"struct {structName} with 8 elements"
  let genDir ← Reader.element 0 wanted Reader.text?
  let basePath ← Reader.element 1 wanted Reader.text?
  let generateForLibraries ← Reader.element? false Reader.bool
  let trace ← Reader.element? false Reader.bool
  let skipMetadataEmit ← Reader.element? false Reader.bool
  let catalogFile ← Reader.element 5 wanted Reader.text?
  let catalogFormat ← Reader.element 6 wanted Reader.text?
  let locale ← Reader.element 7 wanted Reader.text?
  return Draft.options
    { genDir, basePath, generateForLibraries, trace, skipMetadataEmit,
      catalogFile, catalogFormat, locale }

def read (depth : Nat) : Reader TemplateOptions :=
  Reader.struct structName depth {} (fun _ => field)
    (fun draft => return draft.options)
    fun _ => inOrder

end TemplateOptions

namespace ProjectConfig

def structName : String := "TsConfig"

structure Draft where
  compiler : Option CompilerOptions := none
  files : Option (Option (List String)) := none
  included : Option (Option (List String)) := none
  excluded : Option (Option (List String)) := none
  template : Option TemplateOptions := none

def Draft.config (draft : Draft) : ProjectConfig where
  compiler := draft.compiler.getD (CompilerOptions.Draft.options {})
  files := draft.files.getD none
  included := draft.included.getD none
  excluded := draft.excluded.getD none
  template := draft.template.getD (TemplateOptions.Draft.options {})

def field (depth : Nat) (name : String) (draft : Draft) : Reader Draft := do
  match name with
  | "compilerOptions" =>
    return { draft with
      compiler := ← Reader.once name draft.compiler
        (CompilerOptions.read depth) }
  | "files" =>
    return { draft with
      files := ← Reader.once name draft.files (Reader.texts? depth) }
  | "include" =>
    return { draft with
      included := ← Reader.once name draft.included (Reader.texts? depth) }
  | "exclude" =>
    return { draft with
      excluded := ← Reader.once name draft.excluded (Reader.texts? depth) }
  | "angularCompilerOptions" =>
    return { draft with
      template := ← Reader.once name draft.template
        (TemplateOptions.read depth) }
  | _ => Reader.unknown draft

/-- Reads the fields from a list; the groups of options may be missing, but not
a field behind them. -/
def inOrder (depth : Nat) : Reader ProjectConfig := do
  let wanted := s!"struct {structName} with 5 elements"
  let compiler ← Reader.element? true (CompilerOptions.read depth)
  let files ← Reader.element 1 wanted (Reader.texts? depth)
  let included ← Reader.element 2 wanted (Reader.texts? depth)
  let excluded ← Reader.element 3 wanted (Reader.texts? depth)
  let template ← Reader.element? false (TemplateOptions.read depth)
  return Draft.config
    { compiler, files := some files, included := some included,
      excluded := some excluded, template }

def read (depth : Nat) : Reader ProjectConfig :=
  Reader.struct structName depth {} field
    (fun draft => return draft.config) inOrder

def parse (text : String) : Except Fault ProjectConfig :=
  Reader.parse (read Reader.maximalDepth) text

end ProjectConfig
end BuildHost
