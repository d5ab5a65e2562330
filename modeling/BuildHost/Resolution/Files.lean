import BuildHost.FileSystem.Basic
import BuildHost.FileRole
import BuildHost.Resolution.Basic

/-!
# The files that a build knows of

A file exists for a build when it is in the file system, and also when it is
only planned: an output that generated code imports before it is written.  For a
resolver a declaration file exists, besides, when a summary stands in for it.
-/

namespace BuildHost

inductive FileExistence where
  | onDisk
  | planned
deriving DecidableEq, Repr

/-- The file system of a build, and the outputs that will be written to it. -/
structure KnownFiles where
  fs : FileSystem
  /-- The paths of planned outputs, in normal form. -/
  planned : List Path

/-- The ending of the summary that can stand in for a declaration file. -/
def summaryExtension : Path := ".ngsummary.json".toList

namespace KnownFiles

def isPlanned (files : KnownFiles) (p : Path) : Bool :=
  files.planned.contains p.normalize

def plan (files : KnownFiles) (p : Path) : KnownFiles :=
  if files.isPlanned p then files
  else { files with planned := files.planned ++ [p.normalize] }

def existence? (files : KnownFiles) (p : Path) : Option FileExistence :=
  if files.fs.isFile p then some .onDisk
  else if files.isPlanned p then some .planned
  else none

def fileExists (files : KnownFiles) (p : Path) : Bool :=
  (files.existence? p).isSome

def hasSummary (files : KnownFiles) (p : Path) : Bool :=
  match replaceDeclarationSuffix? p summaryExtension with
  | some summary => files.fs.isFile summary
  | none => false

/-- The view that resolvers get: only rooted paths exist as files. -/
def resolutionHost (files : KnownFiles) : ResolutionHost where
  fileExists p := p.isRooted && (files.fileExists p || files.hasSummary p)
  directoryExists p := files.fs.isDirectory p
  fileText p := (files.fs.read p).toOption

def countReads (files : KnownFiles) (manifests : List Path) : KnownFiles :=
  { files with fs := manifests.foldl FileSystem.countRead files.fs }

end KnownFiles
end BuildHost
