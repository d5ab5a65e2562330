import BuildHost.Json.Printer

/-!
# Metadata records

What a module tells the template compiler about its exports: a symbolic
description for each exported name, and the directives that export again what
another module exports.  A record is written as a JSON object that leaves out
what is absent.
-/

namespace BuildHost

inductive ExportedName where
  /-- Under the name it has. -/
  | plain (name : String)
  /-- Under another name. -/
  | renamed (name : String) (publicName : String)
deriving DecidableEq, Repr

/-- A directive that exports what the module `source` exports: all of it, or the
names listed. -/
structure ReExport where
  source : String
  names : Option (List ExportedName)
deriving DecidableEq, Repr

structure MetadataRecord where
  /-- The kind of the record; `module` unless a file says otherwise. -/
  symbolic : String
  version : UInt32
  /-- The description of each exported name. -/
  symbols : List (String × Json.Value)
  reExports : Option (List ReExport)
  /-- The specifier under which the module asks to be imported. -/
  importAs : Option String
  /-- Where names that the module exports were declared. -/
  origins : Option (List (String × String))
deriving Repr

namespace MetadataRecord

def currentVersion : UInt32 := 3

def legacyVersion : UInt32 := 1

def moduleKind : String := "module"

def empty (version : UInt32) : MetadataRecord where
  symbolic := moduleKind
  version := version
  symbols := []
  reExports := none
  importAs := none
  origins := none

/-- Whether the record neither describes a symbol nor exports one again. -/
def isEmpty (r : MetadataRecord) : Bool :=
  r.symbols.isEmpty && (r.reExports.getD []).isEmpty

end MetadataRecord

/-- Whether a symbol's description says that it could not be described. -/
def isErrorSymbol (description : Json.Value) : Bool :=
  match description.member? "__symbolic" with
  | some (.string kind) => kind = "error"
  | _ => false

/-- The names whose description says that they could not be described. -/
def MetadataRecord.errorSymbols (r : MetadataRecord) : List String :=
  (r.symbols.filter fun symbol => isErrorSymbol symbol.2).map (·.1)

/-! ## Writing -/

def ExportedName.toValue : ExportedName → Json.Value
  | plain name => .string name
  | renamed name publicName =>
    .object [("name", .string name), ("as", .string publicName)]

def ReExport.toValue (e : ReExport) : Json.Value :=
  .object <| [("from", .string e.source)] ++
    (e.names.map fun names =>
      ("export", Json.Value.array (names.map (·.toValue)))).toList

def MetadataRecord.toValue (r : MetadataRecord) : Json.Value :=
  .object <|
    [("__symbolic", .string r.symbolic),
      ("version", .ofNat r.version.toNat),
      ("metadata", .object r.symbols)] ++
    (r.reExports.map
      fun es => ("exports", Json.Value.array (es.map (·.toValue)))).toList ++
    (r.importAs.map fun name => ("importAs", Json.Value.string name)).toList ++
    (r.origins.map fun origins =>
      ("origins", Json.Value.object
        (origins.map fun o => (o.1, .string o.2)))).toList

end BuildHost
