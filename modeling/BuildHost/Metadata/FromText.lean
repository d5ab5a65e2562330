import BuildHost.Json.Reader
import BuildHost.Metadata.Record

/-!
# Reading metadata records from a text

The fields of a record may come in any order, each once; members without a field
are passed over.  A record may also be a list of its fields in order.
-/

namespace BuildHost

open Json

/-- The name that a value gives, if it has the form of one: a string, or an
object with a name and its alias, each given once. -/
def ExportedName.ofValue? : Value → Option ExportedName
  | .string name => some (.plain name)
  | .object members =>
    match members.filter (·.1 = "name"), members.filter (·.1 = "as") with
    | [(_, .string name)], [(_, .string publicName)] =>
      some (.renamed name publicName)
    | _, _ => none
  | _ => none

/-- What is wrong with a value that has not the form of an exported name. -/
def ExportedName.mismatch : Cause := .noVariant "ExportedName"

def ExportedName.read (depth : Nat) : Reader ExportedName := do
  match ExportedName.ofValue? (← Reader.rawValue depth) with
  | some name => return name
  | none => Reader.faultWithin ExportedName.mismatch

namespace ReExport

def structName : String := "ModuleExportMetadata"

structure Draft where
  source : Option String := none
  names : Option (Option (List ExportedName)) := none

def field (depth : Nat) (name : String) (draft : Draft) : Reader Draft := do
  match name with
  | "from" =>
    return { draft with source := ← Reader.once name draft.source Reader.text }
  | "export" =>
    return { draft with
      names := ← Reader.once name draft.names
        (Reader.optional (Reader.sequence depth ExportedName.read)) }
  | _ => Reader.unknown draft

def finish (draft : Draft) : Reader ReExport :=
  match draft.source with
  | some source => return { source, names := draft.names.getD none }
  | none => Reader.faultWithin (.missingField "from")

def inOrder (depth : Nat) : Reader ReExport := do
  let source ← Reader.element 0 s!"struct {structName} with 2 elements"
      Reader.text
  let names ← Reader.element? false
      (Reader.optional (Reader.sequence depth ExportedName.read))
  return { source, names := names.getD none }

def read (depth : Nat) : Reader ReExport :=
  Reader.struct structName depth {} field finish inOrder

end ReExport

namespace MetadataRecord

def structName : String := "ModuleMetadata"

structure Draft where
  symbolic : Option String := none
  version : Option UInt32 := none
  symbols : Option (List (String × Value)) := none
  reExports : Option (Option (List ReExport)) := none
  importAs : Option (Option String) := none
  origins : Option (Option (List (String × String))) := none

/-- The record of a draft; a field that is not there has its default. -/
def Draft.record (draft : Draft) : MetadataRecord where
  symbolic := draft.symbolic.getD moduleKind
  version := draft.version.getD legacyVersion
  symbols := draft.symbols.getD []
  reExports := draft.reExports.getD none
  importAs := draft.importAs.getD none
  origins := draft.origins.getD none

def readSymbols (depth : Nat) : Reader (List (String × Value)) :=
  Reader.map depth Reader.value

def readReExports (depth : Nat) : Reader (Option (List ReExport)) :=
  Reader.optional (Reader.sequence depth ReExport.read)

def readOrigins (depth : Nat) : Reader (Option (List (String × String))) :=
  Reader.optional (Reader.map depth fun _ => Reader.text)

def field (depth : Nat) (name : String) (draft : Draft) : Reader Draft := do
  match name with
  | "__symbolic" =>
    return { draft with
      symbolic := ← Reader.once name draft.symbolic Reader.text }
  | "version" =>
    return { draft with
      version := ← Reader.once name draft.version Reader.uint32 }
  | "metadata" =>
    return { draft with
      symbols := ← Reader.once name draft.symbols (readSymbols depth) }
  | "exports" =>
    return { draft with
      reExports := ← Reader.once name draft.reExports (readReExports depth) }
  | "importAs" =>
    return { draft with
      importAs := ← Reader.once name draft.importAs
        (Reader.optional Reader.text) }
  | "origins" =>
    return { draft with
      origins := ← Reader.once name draft.origins (readOrigins depth) }
  | _ => Reader.unknown draft

/-- Reads the fields of a record from a list; those at its end may be
missing. -/
def inOrder (depth : Nat) : Reader MetadataRecord := do
  let symbolic ← Reader.element? true Reader.text
  let version ← Reader.element? symbolic.isNone Reader.uint32
  let symbols ← Reader.element? symbolic.isNone (readSymbols depth)
  let reExports ← Reader.element? symbolic.isNone (readReExports depth)
  let importAs ← Reader.element? symbolic.isNone (Reader.optional Reader.text)
  let origins ← Reader.element? symbolic.isNone (readOrigins depth)
  return Draft.record
    { symbolic, version, symbols, reExports, importAs, origins }

def read (depth : Nat) : Reader MetadataRecord :=
  Reader.struct structName depth {} field
    (fun draft => return draft.record) inOrder

def parse (text : String) : Except Fault MetadataRecord :=
  Reader.parse (read Reader.maximalDepth) text

end MetadataRecord

end BuildHost
