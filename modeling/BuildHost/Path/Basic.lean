/-!
# Paths

Paths as text, and the algebra on them that needs no file system: reading a path
as a root and a list of segments, collapsing it to its normal form, joining,
splitting off the last segment, and going from one directory to another.

The separator is `/`; a backslash is read as one.  A path is *rooted* when it
starts at `/` or at a drive such as `C:/`.
-/

namespace BuildHost

abbrev Path := List Char

namespace Path

def separator : Char := '/'

def here : Path := ['.']

def up : Path := ['.', '.']

def normalizeSeparators (p : Path) : Path :=
  p.map fun c => if c = '\\' then '/' else c

/-! ## Roots -/

inductive Root where
  /-- The path is relative to some directory. -/
  | none
  /-- The path starts at `/`. -/
  | slash
  /-- The path starts at a drive, such as `C:/`. -/
  | drive (letter : Char)
deriving DecidableEq, Repr

namespace Root

def text : Root → Path
  | none => []
  | slash => ['/']
  | drive letter => [letter, ':', '/']

def isRooted : Root → Bool
  | none => false
  | _ => true

end Root

/-- Splits a path written with `/` into its root and what follows it. -/
def splitRoot (p : Path) : Root × Path :=
  match p with
  | '/' :: rest => (.slash, rest)
  | letter :: ':' :: '/' :: rest =>
    if letter.isAlpha then (.drive letter, rest) else (.none, p)
  | _ => (.none, p)

def isRooted (p : Path) : Bool :=
  (splitRoot (normalizeSeparators p)).1.isRooted

/-! ## Normal form -/

/-- One step of a walk along segments; `visited` holds the segments walked so
far, last first.  Empty segments and `.` stay; `..` takes back the last step, is
dropped at a root, and is kept where a relative path climbs above its start. -/
def step (root : Root) (visited : List Path) (segment : Path) : List Path :=
  if segment = [] ∨ segment = here then visited
  else if segment = up then
    match visited with
    | [] => if root.isRooted then [] else [up]
    | last :: before =>
      if last ≠ up then before else if root.isRooted then visited
        else up :: visited
  else segment :: visited

def collapse (root : Root) (segments : List Path) : List Path :=
  (segments.foldl (step root) []).reverse

/-- The text of a root followed by segments; a relative path without segments is
`.`. -/
def render (root : Root) (segments : List Path) : Path :=
  if root = .none ∧ segments = [] then here
  else root.text ++ [separator].intercalate segments

/-- The normal form of a path: one separator between segments, no `.`, and `..`
only where a relative path climbs above its start. -/
def normalize (p : Path) : Path :=
  let (root, rest) := splitRoot (normalizeSeparators p)
  render root (collapse root (rest.splitOn separator))

def IsNormal (p : Path) : Prop := normalize p = p

instance (p : Path) : Decidable (IsNormal p) :=
  inferInstanceAs (Decidable (normalize p = p))

/-- The root and the segments of a path: how its normal form is read. -/
def view (p : Path) : Root × List Path :=
  let (root, rest) := splitRoot (normalize p)
  (root, (rest.splitOn separator).filter (· ≠ []))

/-! ## Joining -/

/-- Appends one fragment, with a separator between unless one is there already;
an empty fragment changes nothing. -/
def append (base fragment : Path) : Path :=
  if fragment = [] then base
  else if base = [] ∨ base.getLast? = some separator then base ++ fragment
  else base ++ separator :: fragment

/-- The normal form of the fragments appended to `base` one after the other. -/
def join (base : Path) (fragments : List Path) : Path :=
  normalize (fragments.foldl append base)

/-- The path that `p` is when it is read from the directory `dir`, in normal
form. -/
def readFrom (dir p : Path) : Path :=
  if isRooted p then normalize p else join dir [p]

/-! ## The last segment -/

def dropTrailing (p : Path) : Path :=
  (p.reverse.dropWhile (· = separator)).reverse

/-- Cuts a path at its last separator, which is in neither part. -/
def cutLast? (p : Path) : Option (Path × Path) :=
  match p.reverse.span (· ≠ separator) with
  | (_, []) => none
  | (last, _ :: before) => some (before.reverse, last.reverse)

/-- Whether a text is one ASCII character and a colon, the name of a drive
without its root. -/
def isDriveName : Path → Bool
  | [c, ':'] => c.val < 128
  | _ => false

/-- The path of the directory that holds the path's last segment. -/
def dirname (p : Path) : Path :=
  let p := normalizeSeparators p
  let trimmed := dropTrailing p
  if trimmed = [] then
    (if p.head? = some separator then Root.slash.text else here)
  else
    match cutLast? trimmed with
    | none => here
    | some ([], _) => Root.slash.text
    | some (dir, _) => if isDriveName dir then dir ++ [separator] else dir

def basename (p : Path) : Path :=
  let trimmed := dropTrailing (normalizeSeparators p)
  match cutLast? trimmed with
  | none => trimmed
  | some (_, last) => last

/-- The path and the directories above it, up to the first that is its own
directory; `fuel` bounds their number. -/
def ancestorsWithin : Nat → Path → List Path
  | 0, p => [p]
  | fuel + 1, p =>
    if dirname p = p then [p] else p :: ancestorsWithin fuel (dirname p)

/-- The path and the directories above it.  A path has fewer of them than
characters, `.` and `/` apart. -/
def ancestors (p : Path) : List Path :=
  ancestorsWithin (p.length + 2) p

/-! ## From one directory to another -/

def sharedLength : List Path → List Path → Nat
  | a :: as, b :: bs => if a = b then sharedLength as bs + 1 else 0
  | _, _ => 0

/-- The path from the directory `source` to `target`: empty when they are the
same, and `target` itself when they have different roots. -/
def relative (source target : Path) : Path :=
  if normalize source = normalize target then []
  else
    let (sourceRoot, leaving) := view source
    let (targetRoot, entering) := view target
    if sourceRoot ≠ targetRoot then normalize target
    else
      let shared := sharedLength leaving entering
      [separator].intercalate
        (List.replicate (leaving.length - shared) up ++ entering.drop shared)

/-- Whether a relative path stays inside the directory that it starts from. -/
def staysInside (p : Path) : Bool :=
  !isRooted p && p ≠ up && !(up ++ [separator]).isPrefixOf p

def isWithin (dir p : Path) : Bool :=
  staysInside (relative dir p)

/-- Moves `p` from the directory `source` to `target`; nothing when `p` is
neither `source` nor spelled below it. -/
def replaceRoot (p source target : Path) : Option Path :=
  if p = source then some target
  else
    let below :=
      if source.getLast? = some separator then source else source ++ [separator]
    (below.isPrefixOf? p).map fun rest => join target [rest]

/-- A specifier that reaches `target` from the directory `source`; it always
starts with `./` or `../`, or is `.` or `..`. -/
def dotRelative (source target : Path) : Path :=
  let p := relative source target
  if p = here ∨ p = up ∨ (here ++ [separator]).isPrefixOf p ∨
    (up ++ [separator]).isPrefixOf p then p
  else here ++ separator :: p

/-! ## Endings -/

/-- The endings of files that hold source text, longest first where one ends
another. -/
def sourceExtensions : List Path :=
  [".d.ts".toList, ".ts".toList, ".tsx".toList, ".jsx".toList, ".js".toList]

def withoutExtension (p : Path) : Path :=
  (sourceExtensions.findSome? fun ending => ending.isSuffixOf? p).getD p

end Path

end BuildHost
