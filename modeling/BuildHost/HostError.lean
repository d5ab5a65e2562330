import BuildHost.Json.Fault
import BuildHost.Resource

/-!
# Faults of a build

What stops a build, and the text that says so.
-/

namespace BuildHost

inductive LayoutField where
  | basePath
  | genDir
  | rootDirs
deriving DecidableEq, Repr

def LayoutField.name : LayoutField → String
  | basePath => "basePath"
  | genDir => "genDir"
  | rootDirs => "rootDirs"

inductive HostError where
  /-- A relative specifier is to be resolved, and it is not known from where. -/
  | relativeWithoutContainingFile (specifier : Path)
  /-- A directory of the configuration is not absolute. -/
  | invalidLayout (field : LayoutField) (path : Path)
  /-- A file is neither in the program nor in the file system. -/
  | sourceFileNotFound (path : Path)
  /-- A file cannot be read. -/
  | io (path : Path) (source : IoError)
  /-- A metadata file holds no records. -/
  | metadataParse (path : Path) (source : Json.Fault)
  /-- A resource cannot be had. -/
  | resource (source : ResourceError)
  /-- A catalog of texts is given without its language. -/
  | missingLocale (catalogFile : Path)
  /-- A generated file cannot be written. -/
  | emit (path : Path) (source : IoError)
  /-- The template compiler gives up. -/
  | compilation (reason : String)
deriving Repr

namespace HostError

def message : HostError → String
  | relativeWithoutContainingFile specifier =>
    "Resolution of relative paths requires a containing file. (resolving `" ++
      String.ofList specifier ++ "`)"
  | invalidLayout field path =>
    "`" ++ field.name ++ "` must be an absolute path, got `"
      ++ String.ofList path ++ "`"
  | sourceFileNotFound path =>
    "Source file " ++ String.ofList path ++ " not present in program."
  | io path source =>
    "Failed to read " ++ String.ofList path ++ ": " ++ source.message
  | metadataParse path source =>
    "Failed to read JSON file " ++ String.ofList path ++ ": " ++ source.message
  | resource source => source.message
  | missingLocale catalogFile =>
    "The translation file (" ++ String.ofList catalogFile ++
      ") locale must be provided. Use the --locale option."
  | emit path source =>
    "Failed to write generated file " ++ String.ofList path ++ ": "
      ++ source.message
  | compilation reason => "Compilation failed: " ++ reason

/-- The texts of a fault and of the fault that caused it, if there is one. -/
def chain (e : HostError) : List String :=
  e.message ::
    match e with
    | io _ source => [source.message]
    | metadataParse _ source => [source.message]
    | emit _ source => [source.message]
    | _ => []

end HostError
end BuildHost
