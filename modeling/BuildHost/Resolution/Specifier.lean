import BuildHost.Layout
import BuildHost.Resolution.Files
import BuildHost.Resolution.Node

/-!
# Import specifiers

The specifier by which generated code imports a file, and the file that a
specifier names.  Files of dependencies are imported by their name below the
dependency folder; generated files from where they are emitted; other files from
where they lie or, when nothing generated goes among the sources, from where
their counterparts go.
-/

namespace BuildHost
namespace Layout

/-- The specifier by which the generated file `containing` imports
`imported`. -/
def specifierOf (layout : Layout) (imported containing : Path) : Path :=
  let source := (layout.moveToGenDir containing).dirname
  let imported := imported.withoutExtension
  match FileRole.classify imported with
  | .generated (some module) =>
    source.dotRelative (layout.genDir.path.join [dependencyFolder, module])
  | .generated none => source.dotRelative (layout.moveToGenDir imported)
  | .declaration (some module) | .dependency module => module
  | .declaration none | .source =>
    let imported :=
      if layout.genDirInsideBasePath then imported
      else layout.replaceBasePath imported
    if isShallowImport imported then imported else source.dotRelative imported

/-- The file from which a specifier is resolved: the given one, or one at the
base path, which can be taken for specifiers that do not start with a dot. -/
def containingFile (layout : Layout) (specifier : Path)
    (containing : Option Path) :
    Except HostError Path :=
  match containing with
  | some (c :: rest) => .ok (c :: rest)
  | _ =>
    if specifier.head? = some '.'
      then .error (.relativeWithoutContainingFile specifier)
    else .ok (layout.basePath.path.join ["index.ts".toList])

def resolve (layout : Layout) (resolver : ModuleResolver) (files : KnownFiles)
    (specifier : Path) (containing : Option Path) :
    Except HostError Resolution := do
  let containing ← layout.containingFile specifier containing
  return resolver files.resolutionHost specifier.withoutExtension containing

end Layout

/-- The files after `imported` was imported: when it does not exist, it is
planned. -/
def KnownFiles.importing (files : KnownFiles) (imported : Path) : KnownFiles :=
  if files.fileExists imported then files else files.plan imported

end BuildHost
