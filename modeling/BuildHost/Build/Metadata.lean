import BuildHost.Build.Basic
import BuildHost.Metadata.FromValue

/-!
# Metadata of the files of a build

A declaration file is described by the metadata file beside it, every other file
by what its text exports.  A metadata file is read once; when it holds records
of version 1 and none of the current version, the first of them is upgraded,
with what the declaration file exports for the names that version 1 does not
know.
-/

namespace BuildHost
namespace Build

def metadataExtension : Path := ".metadata.json".toList

/-- A description for a name that may have one: only the description `null`
gives way. -/
def fillSymbol (symbols : List (String × Json.Value))
    (symbol : String × Json.Value) :
    List (String × Json.Value) :=
  match symbols.lookup symbol.1 with
  | some description =>
    if description.isNull then OrderedMap.insert symbol.1 symbol.2 symbols
    else symbols
  | none => symbols ++ [symbol]

/-- The record of version 1 as one of the current version, filled up from what
the declaration file exports. -/
def upgraded (old : MetadataRecord) (declared : Option MetadataRecord) :
    MetadataRecord :=
  let declaredSymbols := (declared.map (·.symbols)).getD []
  { MetadataRecord.empty MetadataRecord.currentVersion with
    symbols := declaredSymbols.foldl fillSymbol old.symbols
    reExports := old.reExports <|> declared.bind (·.reExports)
    importAs := old.importAs }

/-- Upgrades a record of version 1 that describes a declaration file. -/
def upgrade (build : Build) (old : MetadataRecord) (declarationFile : Path) :
    Action MetadataRecord := do
  return upgraded old (build.collector (← build.sourceFile declarationFile))

/-- The record that has to be upgraded, when records lack one of the current
version. -/
def outdated? (records : List MetadataRecord) : Option MetadataRecord :=
  if records.any (·.version = MetadataRecord.currentVersion) then none
  else records.find? (·.version = MetadataRecord.legacyVersion)

/-- The records of a metadata file, as they were read before or as the file
holds them. -/
def readMetadata (build : Build) (p declarationFile : Path) :
    Action (List MetadataRecord) := do
  match (← get).cache.lookup p with
  | some records => return records
  | none =>
    let text ← fileText p
    match MetadataRecord.parseFile text with
    | .error fault =>
      log .error ("Failed to read JSON file " ++ String.ofList p)
      throw (.metadataParse p fault)
    | .ok records =>
      let records ←
        match outdated? records with
        | none => pure records
        | some old => do pure (records ++ [← build.upgrade old declarationFile])
      modify fun state => { state with cache := (p, records) :: state.cache }
      return records

def metadataFileOf? (files : KnownFiles) (declarationFile : Path) :
    Option Path :=
  (replaceDeclarationSuffix? declarationFile metadataExtension).filter
    files.fileExists

/-- The records that describe a file; nothing when the file does not exist, or
is only planned and no part of the program. -/
def metadataOf (build : Build) (p : Path) :
    Action (Option (List MetadataRecord)) := do
  let files := (← get).files
  if files.existence? p ≠ some .onDisk ∧ !build.program.contains p
    then return none
  else if isDeclarationFile p then
    match metadataFileOf? files p with
    | some metadataFile => return some (← build.readMetadata metadataFile p)
    | none => return some [MetadataRecord.empty MetadataRecord.currentVersion]
  else
    return some (build.collector (← build.sourceFile p)).toList

/-- Of several records the one with the greatest version, of equal ones the
last. -/
def newest? (records : List MetadataRecord) : Option MetadataRecord :=
  records.foldl
    (fun best record =>
      match best with
      | none => some record
      | some b => if b.version ≤ record.version then some record else some b)
    none

end Build
end BuildHost
