import BuildHost.FileSystem.Basic

/-!
# Resources

Templates, styles and other files that source text refers to by path.
-/

namespace BuildHost

inductive ResourceError where
  /-- No file stands under the path. -/
  | notFound (url : Path)
  /-- The file cannot be read. -/
  | loadFailed (url : Path) (source : IoError)
deriving DecidableEq, Repr

namespace ResourceError

def url : ResourceError → Path
  | notFound url => url
  | loadFailed url _ => url

def message : ResourceError → String
  | notFound url =>
    "Compilation failed. Resource file not found: " ++ String.ofList url
  | loadFailed url source =>
    "Failed to load " ++ String.ofList url ++ ": " ++ source.message

end ResourceError

namespace FileSystem

def canPreload (fs : FileSystem) (url : Path) : Bool := fs.isFile url

def loadResource (fs : FileSystem) (url : Path) : Except ResourceError String :=
  if fs.isFile url then (fs.read url).mapError (.loadFailed url)
  else .error (.notFound url)

end FileSystem
end BuildHost
