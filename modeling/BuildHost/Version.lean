/-!
# Versions

A version is three numbers with an optional prerelease tag, as in `3.1.4-rc.1`.
-/

namespace BuildHost

structure Version where
  major : UInt32
  minor : UInt32
  patch : UInt32
  /-- What follows the first hyphen. -/
  prerelease : Option String
deriving DecidableEq, Repr

namespace Version

def cutAt (c : Char) (text : List Char) : List Char × Option (List Char) :=
  match text.span (· ≠ c) with
  | (before, []) => (before, none)
  | (before, _ :: after) => (before, some after)

/-- A number of at most 32 bits in decimal digits; a leading `+` is allowed. -/
def parseNumber? (text : List Char) : Option UInt32 :=
  let digits := match text with
    | '+' :: rest => rest
    | _ => text
  if digits.isEmpty || !digits.all Char.isDigit then none
  else
    let value := digits.foldl (fun n c => 10 * n + (c.toNat - '0'.toNat)) 0
    if value < UInt32.size then some (UInt32.ofNat value) else none

/-- Reads `major.minor.patch`, with a prerelease tag after the first hyphen;
what follows the third number and a further dot is not looked at. -/
def parse? (text : String) : Option Version :=
  let (core, tag) := cutAt '-' text.toList
  match core.splitOn '.' with
  | major :: minor :: patch :: _ => do
    let major ← parseNumber? major
    let minor ← parseNumber? minor
    let patch ← parseNumber? patch
    return { major, minor, patch, prerelease := tag.map String.ofList }
  | _ => none

def display (v : Version) : String :=
  s!"{v.major.toNat}.{v.minor.toNat}.{v.patch.toNat}" ++
    match v.prerelease with
    | none => ""
    | some tag => "-" ++ tag

def current : Version :=
  { major := 0, minor := 1, patch := 0, prerelease := none }

def banner : String := "Angular AOT host v" ++ current.display

end Version
end BuildHost
