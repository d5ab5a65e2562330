import BuildHost.Path.Lemmas

/-!
# Directories of a build

A directory that a build is configured with is rooted and in normal form,
whatever spelling it was given in.
-/

namespace BuildHost

structure Directory where
  /-- The text of the path. -/
  path : Path
  isRooted_path : Path.isRooted path = true
  isNormal_path : Path.IsNormal path
deriving DecidableEq

namespace Directory

/-- The directory that a path names; nothing when the path is not rooted. -/
def ofPath? (p : Path) : Option Directory :=
  if h : Path.isRooted p = true then
    some ⟨Path.normalize p, Path.isRooted_normalize h,
      Path.normalize_normalize p⟩
  else none

theorem ofPath?_path (d : Directory) : ofPath? d.path = some d := by
  have h := d.isNormal_path
  rw [ofPath?, dif_pos d.isRooted_path]
  cases d
  exact congrArg some (Directory.mk.injEq .. ▸ h)

end Directory
end BuildHost
