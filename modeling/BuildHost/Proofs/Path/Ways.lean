import BuildHost.Proofs.Resolution.Bare

/-!
# Ways that are followed back

Joined to its own source, the way from one directory to another is its target,
with a dot in front of it and without (`relative_inverted_by_join`).  It climbs
out of the segments of the source that are no longer shared with the target, one
by one, and enters those of the target (`exists_relative_eq`).
-/

namespace BuildHost
namespace Path

theorem prefix_take_sharedLength {as bs other : List Path} (has : other <+: as)
    (hbs : other <+: bs) : other <+: as.take (sharedLength as bs) := by
  rcases has with ⟨leaving, rfl⟩
  rcases hbs with ⟨entering, rfl⟩
  rw [sharedLength_append, List.take_length_add_append]
  exact List.prefix_append other _

/-- The segments of two lists: those that both start with, and what is left of
each. -/
structure IsFork (as bs common leaving entering : List Path) : Prop where
  left_eq : as = common ++ leaving
  right_eq : bs = common ++ entering
  longest : ∀ other, other <+: as → other <+: bs → other <+: common

theorem isFork_sharedLength (as bs : List Path) :
    IsFork as bs (as.take (sharedLength as bs)) (as.drop (sharedLength as bs))
      (bs.drop (sharedLength as bs)) where
  left_eq := (List.take_append_drop _ as).symm
  right_eq := by
    rw [take_sharedLength, List.take_append_drop]
  longest _ has hbs := prefix_take_sharedLength has hbs

section Ways

variable {source target : Path}

/-- A way climbs once for each segment of its source behind the longest common
start, and then enters the rest of its target. -/
theorem exists_relative_eq (htarget : isRooted target = true)
    (hroot : (view source).1 = (view target).1) :
    ∃ common leaving entering,
      IsFork (view source).2 (view target).2 common leaving entering ∧
      relative source target
        = [separator].intercalate (List.replicate leaving.length up
          ++ entering) ∧
      ∀ s ∈ entering, IsPlain s := by
  refine ⟨_, _, _, isFork_sharedLength (view source).2 (view target).2, ?_, ?_⟩
  · rw [relative_of_root_eq hroot, List.length_drop]
  · intro s hs
    exact (isPlace_view htarget).isPlain s (List.mem_of_mem_drop hs)

theorem join_relative (hsource : isRooted source = true)
    (htarget : isRooted target = true)
    (hroot : (view source).1 = (view target).1) :
    join source [relative source target] = normalize target := by
  apply eq_of_view_eq (isNormal_join _ _) (normalize_normalize _)
    (isRooted_join hsource _) (isRooted_normalize htarget)
  rw [view_join_relative source hsource htarget, followed_self hroot,
    view_normalize]

theorem not_isBare_of_isDotted {specifier : Path} (h : IsDotted specifier) :
    ¬ NodeResolution.IsBare specifier := by
  intro hbare
  have hrelative := NodeResolution.isRelative_of_isDotted h
  rw [hbare.isRelative_eq] at hrelative
  cases hrelative

/-- The way from one rooted path to another with the same root, in any spelling
of the two, leads from the first to the second, and is never taken for the name
of a package when it starts with a dot. -/
theorem relative_inverted_by_join (hsource : isRooted source = true)
    (htarget : isRooted target = true)
    (hroot : (view source).1 = (view target).1) :
    join source [relative source target] = normalize target ∧
      join source [dotRelative source target] = normalize target ∧
      (∃ common leaving entering,
        IsFork (view source).2 (view target).2 common leaving entering ∧
        relative source target
          = [separator].intercalate (List.replicate leaving.length up
            ++ entering) ∧
        ∀ s ∈ entering, IsPlain s) ∧
      IsDotted (dotRelative source target) ∧
      ¬ NodeResolution.IsBare (dotRelative source target) := by
  have hdotted := isDotted_dotRelative source htarget
  refine ⟨join_relative hsource htarget hroot,
    join_dotRelative hsource htarget hroot, exists_relative_eq htarget hroot,
    hdotted, not_isBare_of_isDotted hdotted⟩

/-- Two spellings on one drive, with a hidden name to enter. -/
theorem relative_inverted_by_join_onDrive :
    let source : Path := "C:\\a/./b/x".toList
    let target : Path := "C:/a//c/../b/..d".toList
    relative source target = "../..d".toList ∧
      join source ["../..d".toList] = "C:/a/b/..d".toList ∧
      ¬ NodeResolution.IsBare (dotRelative source target) := by
  intro source target
  have hrelative : relative source target = "../..d".toList := by decide
  have hnormal : normalize target = "C:/a/b/..d".toList := by decide
  have hsource : isRooted source = true := by decide
  have htarget : isRooted target = true := by decide
  rcases relative_inverted_by_join hsource htarget (by decide) with
    ⟨hjoin, -, -, -, hbare⟩
  rw [hrelative, hnormal] at hjoin
  exact ⟨hrelative, hjoin, hbare⟩

end Ways

end Path
end BuildHost
