import BuildHost.Resolution.Basic

/-!
# Resolution that answers with its question

A resolver for looking at what a build asks of resolvers: its answer spells out
the specifier, the containing file, and what the view of the files says about
both.
-/

namespace BuildHost

def flagText (b : Bool) : Path := (if b then "true" else "false").toList

def ModuleResolver.echo : ModuleResolver := fun host specifier containing =>
  { target := some <| ['|'].intercalate
      [specifier, containing, flagText (host.fileExists specifier),
        flagText (host.directoryExists containing)]
    manifests := [] }

end BuildHost
