import BuildHost.CommandLine.Surroundings

/-!
# The program

Reads the folders that a command line may look into, and writes the outcome.
-/

namespace BuildHost
namespace CommandLine

/-- An entry of the folder at a location, with everything below it.  Links to
folders lead into them; what cannot be read is passed over. -/
partial def entriesAt (around : DiskLocation) (entry : IO.FS.DirEntry) :
    IO (List (DiskLocation × DiskEntry)) := do
  let location := around ++ [entry.fileName.toList]
  try
    if ← entry.path.isDir then
      let below ← (← entry.path.readDir).toList.mapM (entriesAt location)
      return (location, .folder) :: below.flatten
    else
      return [(location, .file (← IO.FS.readBinFile entry.path))]
  catch _ => return []

def readLocation (location : DiskLocation) :
    IO (Option (DiskLocation × List (DiskLocation × DiskEntry))) := do
  match location.getLast? with
  | none => return none
  | some name =>
    let around :=
      Path.separator :: [Path.separator].intercalate location.dropLast
    let entries ← entriesAt location.dropLast
      { root := String.ofList around, fileName := String.ofList name }
    return if entries.isEmpty then none else some (location, entries)

def readFolders (workingFolder : DiskLocation) (folders : List Path) :
    IO Disk := do
  return diskOf workingFolder
    (← (locationsToRead folders).filterMapM readLocation)

def readDisk (arguments : List String) : IO Disk := do
  let workingFolder := locationOf (← IO.currentDir).toString.toList
  match Request.ofArguments arguments with
  | .ok (.run invocation) =>
    let project := absolute (diskOf workingFolder []) invocation.project
    let disk ← readFolders workingFolder [project.dirname]
    readFolders workingFolder (furtherFolders disk invocation)
  | _ => return diskOf workingFolder []

end CommandLine
end BuildHost

def main (arguments : List String) : IO UInt32 := do
  let disk ← BuildHost.CommandLine.readDisk arguments
  let outcome := BuildHost.CommandLine.Outcome.ofArguments disk arguments
  IO.eprint outcome.errors
  IO.print outcome.output
  return outcome.code.toUInt32
