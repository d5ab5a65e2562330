import BuildHost.Metadata.FromText

/-!
# Reading metadata records from a JSON value

A metadata file is read as a JSON value first, and its records are taken from
the value; a fault of the value has no place in the text.
-/

namespace BuildHost

namespace Json.Value

def found : Value → Found
  | null => .null
  | bool b => .bool b
  | number n => .number n
  | string s => .string s
  | array _ => .sequence
  | object _ => .map

def wrongKind {α : Type} (wanted : String) (v : Value) : Except Cause α :=
  .error (.invalidType v.found wanted)

def toText : Value → Except Cause String
  | string s => .ok s
  | v => v.wrongKind "a string"

def toUInt32 : Value → Except Cause UInt32
  | number n => Reader.natural32 n
  | v => v.wrongKind "u32"

def toOptional {α : Type} (convert : Value → Except Cause α) :
    Value → Except Cause (Option α)
  | null => .ok none
  | v => (convert v).map some

def toSequence {α : Type} (convert : Value → Except Cause α) :
    Value → Except Cause (List α)
  | array items => items.mapM convert
  | v => v.wrongKind "a sequence"

def toMap {α : Type} (convert : Value → Except Cause α) :
    Value → Except Cause (List (String × α))
  | object members => members.mapM fun member =>
    return (member.1, ← convert member.2)
  | v => v.wrongKind "a map"

/-- The structure of an object, whose members are added to a draft one after the
other, or of an array with all fields in order, none of which may be left
over. -/
def toStruct {σ α : Type} (wanted : String) (empty : σ)
    (field : σ → String → Value → Except Cause σ) (finish : σ → Except Cause α)
    (inOrder : List Value → Except Cause (α × List Value)) :
    Value → Except Cause α
  | object members => do
    finish
      (← members.foldlM
        (fun draft member => field draft member.1 member.2) empty)
  | array items => do
    match ← inOrder items with
    | (a, []) => return a
    | _ => throw (.invalidLength items.length "fewer elements in array")
  | v => v.wrongKind ("struct " ++ wanted)

def takeItem {α : Type} (convert : Value → Except Cause α) :
    List Value → Except Cause (Option α × List Value)
  | [] => .ok (none, [])
  | item :: rest => return (some (← convert item), rest)

end Json.Value

open Json

def ExportedName.ofValue (v : Value) : Except Cause ExportedName :=
  match ExportedName.ofValue? v with
  | some name => .ok name
  | none => .error ExportedName.mismatch

namespace ReExport

def addMember (draft : Draft) (name : String) (v : Value) :
    Except Cause Draft := do
  match name with
  | "from" => return { draft with source := some (← v.toText) }
  | "export" =>
    return { draft with
      names := some (← v.toOptional (Value.toSequence ExportedName.ofValue)) }
  | _ => return draft

def ofDraft (draft : Draft) : Except Cause ReExport :=
  match draft.source with
  | some source => .ok { source, names := draft.names.getD none }
  | none => .error (.missingField "from")

def ofItems (items : List Value) : Except Cause (ReExport × List Value) := do
  match ← Value.takeItem Value.toText items with
  | (none, _) =>
    throw (.invalidLength 0 s!"struct {structName} with 2 elements")
  | (some source, items) =>
    let (names, items) ←
      Value.takeItem (Value.toOptional (Value.toSequence ExportedName.ofValue))
        items
    return ({ source, names := names.getD none }, items)

def ofValue : Value → Except Cause ReExport :=
  Value.toStruct structName {} addMember ofDraft ofItems

end ReExport

namespace MetadataRecord

def symbolsOfValue : Value → Except Cause (List (String × Value)) :=
  Value.toMap .ok

def reExportsOfValue : Value → Except Cause (Option (List ReExport)) :=
  Value.toOptional (Value.toSequence ReExport.ofValue)

def originsOfValue : Value → Except Cause (Option (List (String × String))) :=
  Value.toOptional (Value.toMap Value.toText)

def addMember (draft : Draft) (name : String) (v : Value) :
    Except Cause Draft := do
  match name with
  | "__symbolic" => return { draft with symbolic := some (← v.toText) }
  | "version" => return { draft with version := some (← v.toUInt32) }
  | "metadata" => return { draft with symbols := some (← symbolsOfValue v) }
  | "exports" => return { draft with reExports := some (← reExportsOfValue v) }
  | "importAs" =>
    return { draft with importAs := some (← v.toOptional Value.toText) }
  | "origins" => return { draft with origins := some (← originsOfValue v) }
  | _ => return draft

def ofItems (items : List Value) :
    Except Cause (MetadataRecord × List Value) := do
  let (symbolic, items) ← Value.takeItem Value.toText items
  let (version, items) ← Value.takeItem Value.toUInt32 items
  let (symbols, items) ← Value.takeItem symbolsOfValue items
  let (reExports, items) ← Value.takeItem reExportsOfValue items
  let (importAs, items) ← Value.takeItem (Value.toOptional Value.toText) items
  let (origins, items) ← Value.takeItem originsOfValue items
  return (Draft.record
    { symbolic, version, symbols, reExports, importAs, origins }, items)

def ofValue : Value → Except Cause MetadataRecord :=
  Value.toStruct structName {} addMember (fun draft => .ok draft.record) ofItems

/-- The records of a metadata file, which holds one record, a list of records,
or `null`. -/
def parseFile (text : String) : Except Fault (List MetadataRecord) := do
  let v ← Value.parse text
  let records : Except Cause (List MetadataRecord) :=
    match v with
    | .null => .ok []
    | .array items => items.mapM ofValue
    | record => (ofValue record).map ([·])
  records.mapError fun cause => ⟨cause, none⟩

end MetadataRecord
end BuildHost
