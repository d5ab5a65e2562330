import BuildHost.FileRole

/-!
# Dialects of source texts

Which language a source text is written in follows from the name of its file.
-/

namespace BuildHost
namespace Script

structure Dialect where
  /-- Whether types may be written. -/
  typed : Bool
  /-- Whether markup may stand among expressions. -/
  markup : Bool
  /-- Whether the text declares what is defined elsewhere. -/
  ambient : Bool
  /-- Whether the text is a module, in which `await` is a keyword. -/
  isModule : Bool
deriving DecidableEq, Repr

namespace Dialect

/-- Typed modules without markup: what a text is whose file says nothing
else. -/
def standard : Dialect := ⟨true, false, false, true⟩

/-- The name of the file under a path, if the path does not end in a climb. -/
def fileName? (p : Path) : Option Path :=
  match ((p.splitOn Path.separator).filter fun name =>
    name ≠ [] ∧ name ≠ Path.here).getLast? with
  | none => none
  | some name => if name = Path.up then none else some name

/-- Cuts a name at its last dot; a dot at the start begins no ending. -/
def cutEnding? (name : Path) : Option (Path × Path) :=
  match name.reverse.span (· ≠ '.') with
  | (_, []) => none
  | (ending, _ :: stem) =>
    if stem = [] then none else some (stem.reverse, ending.reverse)

/-- Whether the stem of a name is one of a declaration file: its last part, or
one inside, is `d`. -/
def isDeclarationStem (stem : Path) : Bool :=
  ".d".toList.isSuffixOf stem || (Path.cutAt? ".d.".toList stem).isSome

def ofPath (p : Path) : Dialect :=
  match (fileName? p).bind cutEnding? with
  | none => standard
  | some (stem, ending) =>
    let ambient := isDeclarationStem stem
    match String.ofList ending with
    | "ts" | "mts" => ⟨true, false, ambient, true⟩
    | "cts" => ⟨true, false, ambient, false⟩
    | "tsx" => ⟨true, true, false, true⟩
    | "js" | "mjs" => ⟨false, false, false, true⟩
    | "cjs" => ⟨false, false, false, false⟩
    | "jsx" => ⟨false, true, false, true⟩
    | _ => standard

end Dialect
end Script
end BuildHost
