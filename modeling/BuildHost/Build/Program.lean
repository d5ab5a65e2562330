import BuildHost.HostError
import BuildHost.OrderedMap

/-!
# Programs

The files that a build compiles, in the order in which they were added.
-/

namespace BuildHost

structure SourceFile where
  path : Path
  text : String
deriving DecidableEq, Repr

structure Program where
  files : List (Path × String)

namespace Program

def empty : Program := ⟨[]⟩

/-- The program with a file; a file added again keeps its place and gets the new
text. -/
def add (program : Program) (p : Path) (text : String) : Program :=
  ⟨OrderedMap.insert p text program.files⟩

def find? (program : Program) (p : Path) : Option SourceFile :=
  (program.files.lookup p).map fun text => ⟨p, text⟩

def contains (program : Program) (p : Path) : Bool :=
  (program.find? p).isSome

def sourceFiles (program : Program) : List SourceFile :=
  program.files.map fun file => ⟨file.1, file.2⟩

def load (fs : FileSystem) :
    List Path → Program → Except HostError (Program × FileSystem)
  | [], program => .ok (program, fs)
  | p :: rest, program =>
    match fs.read p with
    | .ok text => load (fs.countRead p) rest (program.add p text)
    | .error fault => .error (.io p fault)

end Program
end BuildHost
