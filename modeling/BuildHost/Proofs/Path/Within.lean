import BuildHost.Proofs.Path.Spelling

/-!
# Containment as it is tested

The test for containment looks at the text of the way from a directory to a
path.  The text tells exactly whether the directory contains the path, with one
exception: a way that starts with the name of a drive and goes on behind it is
taken for a rooted path (`isWithin_iff_contains`).  So the test is passed by
every path from itself, and two paths that pass it from each other have one
normal form; through a directory between, it is passed in two steps but not in
one exactly where the directory between is a folder with the name of a drive
(`isWithin_trans_iff`).
-/

namespace BuildHost
namespace Path

variable {dir between p : Path}

/-! ## Segments that follow each other -/

theorem spellsDrive_append_iff {front rest : List Path}
    (hfront : spellsDrive front = false) (hrest : spellsDrive rest = false) :
    spellsDrive (front ++ rest) = true ↔
      (∃ letter : Char, letter.isAlpha = true ∧ front = [[letter, ':']]) ∧
        rest ≠ [] := by
  cases front with
  | nil =>
      rw [List.nil_append, hrest]
      refine iff_of_false Bool.false_ne_true ?_
      rintro ⟨⟨letter, -, hnil⟩, -⟩
      exact List.cons_ne_nil _ _ hnil.symm
  | cons first others =>
      cases others with
      | cons second more =>
          -- the first two segments show whether a drive is spelled
          rw [← Bool.not_eq_true, spellsDrive_cons_cons_iff] at hfront
          rw [List.cons_append, List.cons_append, spellsDrive_cons_cons_iff]
          refine iff_of_false hfront ?_
          rintro ⟨⟨letter, -, heq⟩, -⟩
          exact List.cons_ne_nil second more (List.cons.inj heq).2
      | nil =>
          cases rest with
          | nil =>
              rw [List.append_nil, hfront]
              exact iff_of_false Bool.false_ne_true fun h => h.2 rfl
          | cons second more =>
              rw [List.singleton_append, spellsDrive_cons_cons_iff]
              constructor
              · rintro ⟨letter, halpha, rfl⟩
                exact ⟨⟨letter, halpha, rfl⟩, List.cons_ne_nil _ _⟩
              · rintro ⟨⟨letter, halpha, heq⟩, -⟩
                exact ⟨letter, halpha, (List.cons.inj heq).1⟩

/-! ## The test -/

theorem isWithin_self (hp : isRooted p = true) : isWithin p p = true :=
  (isWithin_iff hp).2 ⟨[], by rw [List.append_nil], rfl⟩

theorem Contains.antisymm (h : Contains dir p) (hback : Contains p dir) :
    view dir = view p :=
  Prod.ext h.1 (h.2.eq_of_length_le hback.2.length_le)

theorem normalize_eq_of_isWithin (hdir : isRooted dir = true)
    (hp : isRooted p = true) (h : isWithin dir p = true)
    (hback : isWithin p dir = true) : normalize dir = normalize p :=
  normalize_congr hdir hp
    ((contains_of_isWithin hp h).antisymm (contains_of_isWithin hdir hback))

/-- A folder in a directory that has the name of a drive. -/
def IsDriveNameIn (folder dir : Path) : Prop :=
  ∃ letter : Char, letter.isAlpha = true ∧
    view folder = ((view dir).1, (view dir).2 ++ [[letter, ':']])

theorem isWithin_trans_iff (hbetween : isRooted between = true)
    (hp : isRooted p = true) (hfirst : isWithin dir between = true)
    (hsecond : isWithin between p = true) :
    isWithin dir p = true ↔
      ¬ (IsDriveNameIn between dir ∧ IsBelow p between) := by
  rcases (isWithin_iff hbetween).1 hfirst with ⟨front, hfront, hfrontspells⟩
  rcases (isWithin_iff hp).1 hsecond with ⟨rest, hrest, hrestspells⟩
  have hview : view p = ((view dir).1, (view dir).2 ++ (front ++ rest)) := by
    rw [hrest, hfront, List.append_assoc]
  have hcontains : Contains dir p := contains_iff.2 ⟨_, hview⟩
  have hdrive : IsDriveNameIn between dir ↔
      ∃ letter : Char, letter.isAlpha = true ∧ front = [[letter, ':']] := by
    rw [IsDriveNameIn, hfront]
    simp only [Prod.mk.injEq, true_and, List.append_cancel_left_eq]
  have hbelow : IsBelow p between ↔ rest ≠ [] := by
    constructor
    · rintro ⟨more, hne, hmore⟩
      rw [hrest, Prod.mk.injEq] at hmore
      exact List.append_cancel_left hmore.2 ▸ hne
    · intro hne
      exact ⟨rest, hne, hrest⟩
  rw [isWithin_iff_contains hp, and_iff_right hcontains, hview, List.drop_left,
    ← Bool.not_eq_true, spellsDrive_append_iff hfrontspells hrestspells,
    hdrive, hbelow]

/-- A path passes the test from a directory exactly when the directory has its
root and starts its segments, unless the way from the directory is spelled like
a path on a drive.  The test is passed by every path from itself and, from each
other, by spellings of one path only; it is passed in one step where it is
passed in two, unless the steps meet in a folder that has the name of a
drive. -/
theorem isWithin_segmentwise (hdir : isRooted dir = true)
    (hbetween : isRooted between = true) (hp : isRooted p = true) :
    (isWithin dir p = true ↔
      ((view dir).1 = (view p).1 ∧ (view dir).2 <+: (view p).2) ∧
        spellsDrive ((view p).2.drop (view dir).2.length) = false) ∧
    isWithin p p = true ∧
    (isWithin dir between = true → isWithin between p = true →
      (isWithin dir p = true ↔
        ¬ (IsDriveNameIn between dir ∧ IsBelow p between))) ∧
    (isWithin dir p = true → isWithin p dir = true →
      normalize dir = normalize p) :=
  ⟨isWithin_iff_contains hp, isWithin_self hp, isWithin_trans_iff hbetween hp,
    normalize_eq_of_isWithin hdir hp⟩

/-- Three spellings on one drive; the one between is of a folder with the name
of another drive. -/
theorem isWithin_segmentwise_spellings :
    let dir : Path := "C:\\w/./x/..".toList
    let between : Path := "C:/w//D:".toList
    let p : Path := "C:/w/D:/y\\".toList
    isWithin dir between = true ∧ isWithin between p = true ∧
      isWithin dir p = false ∧
      IsDriveNameIn between dir ∧ isWithin p p = true := by
  intro dir between p
  have hfirst : isWithin dir between = true := by decide
  have hsecond : isWithin between p = true := by decide
  have hbelow : IsBelow p between := by decide
  have hdrive : IsDriveNameIn between dir := ⟨'D', by decide, by decide⟩
  have hdir : isRooted dir = true := by decide
  have hbetween : isRooted between = true := by decide
  have hp : isRooted p = true := by decide
  rcases isWithin_segmentwise hdir hbetween hp with ⟨-, hself, htrans, -⟩
  have hnot := mt (htrans hfirst hsecond).1 (not_not_intro ⟨hdrive, hbelow⟩)
  exact ⟨hfirst, hsecond, Bool.eq_false_iff.2 hnot, hdrive, hself⟩

/-- A path that a directory contains and that does not pass the test, though it
does so in two steps. -/
theorem isWithin_driveName_ne :
    let dir : Path := "/".toList
    let between : Path := "/C:".toList
    let p : Path := "/C:/x".toList
    isRooted dir = true ∧ isRooted between = true ∧ isRooted p = true ∧
      (view dir).1 = (view p).1 ∧ (view dir).2 <+: (view p).2 ∧
      isWithin dir between = true ∧ isWithin between p = true ∧
      isWithin dir p = false := by
  decide

end Path
end BuildHost
