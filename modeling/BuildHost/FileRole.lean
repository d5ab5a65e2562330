import BuildHost.Path.Basic
import BuildHost.Unicode.Word
import BuildHost.Utf8

/-!
# Roles of files

What a file is to a build follows from its path alone: hand-written source,
output of the template compiler, a declaration file, or a file of an installed
dependency.
-/

namespace BuildHost

def dependencyFolder : Path := "node_modules".toList

def dependencyMarker : Path := "/node_modules/".toList

/-- Splits a text at the first place where `marker` stands; the marker is in
neither part. -/
def Path.cutAt? (marker : Path) : Path → Option (Path × Path)
  | [] => if marker.isEmpty then some ([], []) else none
  | c :: rest =>
    match marker.isPrefixOf? (c :: rest) with
    | some after => some ([], after)
    | none =>
      (cutAt? marker rest).map fun (before, after) => (c :: before, after)

def dependencyModule? (p : Path) : Option Path :=
  (Path.cutAt? dependencyMarker p).map (·.2)

/-- How many bytes of UTF-8 come before the first dependency marker. -/
def dependencyMarkerOffset? (p : Path) : Option Nat :=
  (Path.cutAt? dependencyMarker p).map fun (before, _) => Utf8.byteLength before

def declarationExtension : Path := ".d.ts".toList

def isDeclarationFile (p : Path) : Bool :=
  declarationExtension.isSuffixOf p

/-- The path with `suffix` in place of the ending of a declaration file. -/
def replaceDeclarationSuffix? (p suffix : Path) : Option Path :=
  (declarationExtension.isSuffixOf? p).map (· ++ suffix)

/-- The endings of files that the template compiler produces, with and without
their `.ts`. -/
def generatedExtensions : List Path :=
  [".ngfactory".toList, ".ngstyle".toList, ".ngfactory.ts".toList,
    ".ngstyle.ts".toList]

/-- Whether the path is one of a file that the template compiler produces. -/
def isGeneratedFile (p : Path) : Bool :=
  generatedExtensions.any (·.isSuffixOf p)

def isWord (p : Path) : Bool :=
  !p.isEmpty && p.all Unicode.isWordChar

/-- Whether a specifier names a package alone: a word, or a scope and a word
such as `@scope/name`. -/
def isShallowImport (specifier : Path) : Bool :=
  isWord specifier ||
    match specifier with
    | '@' :: rest =>
      match rest.splitOn Path.separator with
      | [scope, name] => isWord scope && isWord name
      | _ => false
    | _ => false

/-- What a path is, as far as emitting and importing are concerned. -/
inductive FileRole where
  /-- Hand-written code of the project. -/
  | source
  /-- Output of the template compiler, for a file of a dependency if it lies in
  one. -/
  | generated (dependency : Option Path)
  /-- A declaration file, of a dependency if it lies in one. -/
  | declaration (dependency : Option Path)
  /-- Another file of a dependency, named by its path below the dependency
  folder. -/
  | dependency (module : Path)
deriving DecidableEq, Repr

namespace FileRole

def classify (p : Path) : FileRole :=
  if isGeneratedFile p then .generated (dependencyModule? p)
  else if isDeclarationFile p then .declaration (dependencyModule? p)
  else
    match dependencyModule? p with
    | some module => .dependency module
    | none => .source

def isGenerated : FileRole → Bool
  | generated _ => true
  | _ => false

def isDeclaration : FileRole → Bool
  | declaration _ => true
  | _ => false

/-- The path below the dependency folder, for a file of a dependency. -/
def dependency? : FileRole → Option Path
  | source => none
  | generated below => below
  | declaration below => below
  | dependency module => some module

/-- Whether code generation considers the file: never its own output, and
declaration files only when code is generated for libraries. -/
def isCompilationInput (generateForLibraries : Bool) : FileRole → Bool
  | generated _ => false
  | declaration _ => generateForLibraries
  | source | dependency _ => true

end FileRole
end BuildHost
