import BuildHost.Build.CodeGeneration

/-!
# Collaborators for trying out a build

A compiler that writes a factory for every symbol, compilers with a fixed
outcome, and a collector that looks its records up in a table.
-/

namespace BuildHost

/-- The collector of a table of records; a value that is no record counts as
none. -/
def MetadataCollector.ofTable (table : List (Path × Json.Value)) :
    MetadataCollector := fun file =>
  match table.lookup file.path with
  | some v => (MetadataRecord.ofValue v).toOption
  | none => none

namespace Build
namespace TemplateCompiler

def failing (reason : String) : TemplateCompiler :=
  fun _ _ => throw (.compilation reason)

def fixed (modules : List GeneratedModule) : TemplateCompiler :=
  fun _ _ => return modules

def factoryUrl (p : Path) : Path := p.withoutExtension ++ ".ngfactory.ts".toList

def factoryLine (name : String) : String :=
  "export const " ++ name ++ "NgFactory = i0." ++ name ++ ";\n"

/-- Adds the factory of a symbol to the module of its file; the first symbol
starts the module. -/
def addFactory (build : Build) (modules : List GeneratedModule)
    (symbol : StaticSymbol) :
    Action (List GeneratedModule) := do
  let url := factoryUrl symbol.path
  if modules.any (·.moduleUrl = url) then
    return modules.map fun module =>
      if module.moduleUrl = url then
        { module with source := module.source ++ factoryLine symbol.name }
      else module
  else
    let specifier ← build.specifierOf symbol.path url
    let opening := "import * as i0 from '" ++ String.ofList specifier ++ "';\n"
    return modules ++ [⟨symbol.path, url, opening ++ factoryLine symbol.name⟩]

def factories (build : Build) : TemplateCompiler := fun symbols _ =>
  symbols.foldlM (addFactory build) []

end TemplateCompiler
end Build
end BuildHost
