import BuildHost.Json.Reader

/-!
# Package manifests

The file `package.json` of a package names the file that declares its types, in
the field `typings` or else in the field `types`.
-/

namespace BuildHost

open Json

structure PackageManifest where
  typings : Option String
  types : Option String
deriving DecidableEq, Repr

namespace PackageManifest

structure Draft where
  typings : Option (Option String) := none
  types : Option (Option String) := none

def field (name : String) (draft : Draft) : Reader Draft := do
  match name with
  | "typings" =>
    return { draft with
      typings := ← Reader.once name draft.typings
        (Reader.optional Reader.text) }
  | "types" =>
    return { draft with
      types := ← Reader.once name draft.types (Reader.optional Reader.text) }
  | _ => Reader.unknown draft

def inOrder : Reader PackageManifest := do
  let wanted := "struct PackageJson with 2 elements"
  let typings ← Reader.element 0 wanted (Reader.optional Reader.text)
  let types ← Reader.element 1 wanted (Reader.optional Reader.text)
  return { typings, types }

def read : Reader PackageManifest :=
  Reader.struct "PackageJson" Reader.maximalDepth {} (fun _ => field)
    (fun draft => return ⟨draft.typings.getD none, draft.types.getD none⟩)
    (fun _ => inOrder)

/-- The file that declares the types of a package, by the text of its manifest;
a text that is no manifest names none. -/
def entry? (text : String) : Option String :=
  match Reader.parse read text with
  | .ok manifest => manifest.typings <|> manifest.types
  | .error _ => none

end PackageManifest
end BuildHost
