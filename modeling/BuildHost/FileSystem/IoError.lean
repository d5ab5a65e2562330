import BuildHost.Path.Basic
import BuildHost.Utf8

/-!
# Faults of file operations

What keeps a file or a folder from being read or written, in memory and on disk.
-/

namespace BuildHost

inductive IoError where
  /-- In memory: there is nothing to read under the path. -/
  | fileNotFound (path : Path)
  /-- In memory: there is nothing under the path. -/
  | pathNotFound
  /-- In memory: a file is to be written into a folder that is not there. -/
  | folderNotFound (folder : Path)
  /-- In memory: a folder is to be read. -/
  | isFolder
  /-- In memory: a file stands where a folder is to be made. -/
  | folderIsFile
  /-- In memory: the bytes of the file are no text. -/
  | notText (fault : Utf8.Fault)
  /-- On disk: an entry of the path is missing. -/
  | noEntry
  /-- On disk: a folder stands where a file is wanted. -/
  | isDirectory
  /-- On disk: a file stands where a folder is wanted. -/
  | notDirectory
  /-- On disk: something stands where a folder is to be made. -/
  | alreadyExists
  /-- On disk: the bytes of the file are no text. -/
  | notTextStream
  /-- On disk: the path holds a zero character. -/
  | zeroInPath
  /-- On disk: a name of the path is longer than the disk can hold. -/
  | nameTooLong
deriving DecidableEq, Repr

def IoError.message : IoError → String
  | fileNotFound path => "File not found: " ++ String.ofList path
  | pathNotFound => "Path not found"
  | folderNotFound folder =>
    "Directory " ++ String.ofList folder ++ " not found"
  | isFolder => "Is a directory"
  | folderIsFile => "Path component is not a directory"
  | notText fault => fault.message
  | noEntry => "No such file or directory (os error 2)"
  | isDirectory => "Is a directory (os error 21)"
  | notDirectory => "Not a directory (os error 20)"
  | alreadyExists => "File exists (os error 17)"
  | notTextStream => "stream did not contain valid UTF-8"
  | zeroInPath => "file name contained an unexpected NUL byte"
  | nameTooLong => "File name too long (os error 36)"

end BuildHost
