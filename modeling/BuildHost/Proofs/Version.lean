import BuildHost.Version
import Mathlib.Data.List.TakeDrop
import Mathlib.Data.List.TakeWhile

/-!
# Versions as texts

A version is spelled by three numbers with dots between them and, behind a
hyphen, a prerelease tag of any characters (`Spells`).  Every such text is read
as the version that it spells, and the text that a version is displayed as is
one of them (`parse?_eq_some_iff_spells`).  What follows a dot behind the third
number is passed over, so that a text of more than three components is read as
well, and loses the others.
-/

namespace BuildHost
namespace Version

variable {text before digits major minor patch more : List Char} {n : UInt32}
  {v : Version}

/-! ## Numbers -/

/-- The spellings of a number: decimal digits, behind a plus sign or without
one. -/
def SpellsNumber (text : List Char) (n : UInt32) : Prop :=
  ∃ digits, (text = digits ∨ text = '+' :: digits) ∧ digits ≠ [] ∧
    (∀ c ∈ digits, c.isDigit = true) ∧
    Nat.ofDigitChars 10 digits 0 = n.toNat

def readDigits? (digits : List Char) : Option UInt32 :=
  if digits.isEmpty || !digits.all Char.isDigit then none
  else if Nat.ofDigitChars 10 digits 0 < UInt32.size then
    some (UInt32.ofNat (Nat.ofDigitChars 10 digits 0))
  else none

theorem readDigits?_eq_some_iff : readDigits? digits = some n ↔
    digits ≠ [] ∧ (∀ c ∈ digits, c.isDigit = true) ∧
      Nat.ofDigitChars 10 digits 0 = n.toNat := by
  rw [readDigits?]
  by_cases hdigits : digits ≠ [] ∧ ∀ c ∈ digits, c.isDigit = true
  · rcases hdigits with ⟨hne, hall⟩
    have htest : ¬ (digits.isEmpty || !digits.all Char.isDigit) = true := by
      simpa [hne] using hall
    rw [if_neg htest, and_iff_right hne, and_iff_right hall]
    by_cases hsize : Nat.ofDigitChars 10 digits 0 < UInt32.size
    · rw [if_pos hsize, Option.some_inj, ← UInt32.toNat_inj,
        UInt32.toNat_ofNat_of_lt' hsize]
    · rw [if_neg hsize]
      refine iff_of_false (Option.some_ne_none n).symm ?_
      intro hvalue
      exact hsize (hvalue ▸ n.toNat_lt)
  · have htest : (digits.isEmpty || !digits.all Char.isDigit) = true := by
      by_contra hfalse
      rw [Bool.not_eq_true, Bool.or_eq_false_iff, Bool.not_eq_false',
        List.all_eq_true, List.isEmpty_eq_false_iff] at hfalse
      exact hdigits hfalse
    rw [if_pos htest]
    refine iff_of_false (Option.some_ne_none n).symm ?_
    rintro ⟨hne, hall, -⟩
    exact hdigits ⟨hne, hall⟩

theorem parseNumber?_of_head?_ne (h : text.head? ≠ some '+') :
    parseNumber? text = readDigits? text := by
  unfold parseNumber?
  split
  next rest => exact absurd rfl h
  next => rfl

theorem parseNumber?_eq_some_iff :
    parseNumber? text = some n ↔ SpellsNumber text n := by
  constructor
  · intro h
    by_cases hsign : text.head? = some '+'
    · rcases List.head?_eq_some_iff.1 hsign with ⟨rest, rfl⟩
      exact ⟨rest, .inr rfl, readDigits?_eq_some_iff.1 h⟩
    · rw [parseNumber?_of_head?_ne hsign] at h
      exact ⟨text, .inl rfl, readDigits?_eq_some_iff.1 h⟩
  · rintro ⟨digits, rfl | rfl, hdigits⟩
    · have hsign : text.head? ≠ some '+' := by
        intro hhead
        exact absurd (hdigits.2.1 '+' (List.mem_of_mem_head? hhead)) (by decide)
      rw [parseNumber?_of_head?_ne hsign]
      exact readDigits?_eq_some_iff.2 hdigits
    · exact readDigits?_eq_some_iff.2 hdigits

theorem SpellsNumber.notMem (h : SpellsNumber text n) {c : Char}
    (hdigit : c.isDigit = false) (hsign : c ≠ '+') : c ∉ text := by
  rcases h with ⟨digits, hspelled, -, hall, -⟩
  have hdigits : c ∉ digits := by
    intro hmem
    rw [hall c hmem] at hdigit
    cases hdigit
  rcases hspelled with rfl | rfl
  · exact hdigits
  · exact List.not_mem_cons_of_ne_of_not_mem hsign hdigits

theorem spellsNumber_toDigits (n : UInt32) :
    SpellsNumber (Nat.toDigits 10 n.toNat) n :=
  ⟨_, .inl rfl, Nat.toDigits_ne_nil,
    fun _ hc => Nat.isDigit_of_mem_toDigits (by decide) (by decide) hc,
    Nat.ofDigitChars_ten_toDigits⟩

/-! ## Tags -/

/-- What a prerelease tag adds to a version. -/
def tagText : Option String → List Char
  | none => []
  | some tag => '-' :: tag.toList

theorem cutAt_append_tagText (h : '-' ∉ before) (tag : Option String) :
    cutAt '-' (before ++ tagText tag) = (before, tag.map String.toList) := by
  have hbefore : ∀ c ∈ before, decide (c ≠ '-') = true := by
    intro c hc
    rw [decide_eq_true_iff]
    rintro rfl
    exact h hc
  rw [cutAt, List.span_eq_takeWhile_dropWhile,
    List.takeWhile_append_of_pos hbefore, List.dropWhile_append_of_pos hbefore]
  cases tag with
  | none => simp [tagText]
  | some tag => simp [tagText]

/-- Every text is cut at its first hyphen. -/
theorem exists_eq_append_tagText (text : List Char) :
    ∃ before tag, '-' ∉ before ∧ text = before ++ tagText tag := by
  refine ⟨text.takeWhile (· ≠ '-'), ?_⟩
  have hbefore : '-' ∉ text.takeWhile (· ≠ '-') := by
    intro hmem
    simpa using List.mem_takeWhile_imp hmem
  have hsplit := List.takeWhile_append_dropWhile (p := (· ≠ '-')) (l := text)
  have hhead := List.head?_dropWhile_not (· ≠ '-') text
  cases hrest : text.dropWhile (· ≠ '-') with
  | nil =>
      rw [hrest] at hsplit
      exact ⟨none, hbefore, hsplit.symm⟩
  | cons c after =>
      rw [hrest] at hsplit hhead
      obtain rfl : c = '-' := by
        simpa using hhead
      refine ⟨some (String.ofList after), hbefore, ?_⟩
      rw [tagText, String.toList_ofList]
      exact hsplit.symm

/-! ## Components -/

/-- What stands before the first hyphen of a text, cut at its dots. -/
def components (text : List Char) : List (List Char) :=
  (cutAt '-' text).1.splitOn '.'

theorem splitOn_append_dot (h : '.' ∉ major) (rest : List Char) :
    (major ++ '.' :: rest).splitOn '.' = major :: rest.splitOn '.' := by
  rw [List.splitOn_append_cons_self, List.splitOn_eq_singleton h,
    List.singleton_append]

theorem intercalate_dot_cons (first : List Char) {others : List (List Char)}
    (h : others ≠ []) :
    ['.'].intercalate (first :: others)
      = first ++ '.' :: ['.'].intercalate others := by
  rw [List.intercalate_cons_of_ne_nil h]
  simp

theorem parse?_eq_some_iff (text : String) (v : Version) :
    parse? text = some v ↔ ∃ major minor patch rest,
      components text.toList = major :: minor :: patch :: rest ∧
        parseNumber? major = some v.major ∧ parseNumber? minor = some v.minor ∧
        parseNumber? patch = some v.patch ∧
        v.prerelease = (cutAt '-' text.toList).2.map String.ofList := by
  unfold parse? components
  rcases cutAt '-' text.toList with ⟨core, tag⟩
  dsimp only
  split
  next major minor patch rest hcomponents =>
    constructor
    · intro h
      simp only [Option.bind_eq_bind, Option.bind_eq_some_iff, Option.pure_def,
        Option.some.injEq] at h
      rcases h with ⟨first, hfirst, second, hsecond, third, hthird, rfl⟩
      exact ⟨major, minor, patch, rest, hcomponents, hfirst, hsecond,
        hthird, rfl⟩
    · rintro ⟨first, second, third, others, heq, hmajor, hminor, hpatch, htag⟩
      rw [hcomponents] at heq
      cases heq
      rcases v with ⟨majorNumber, minorNumber, patchNumber, prerelease⟩
      dsimp only at hmajor hminor hpatch htag
      rw [hmajor, hminor, hpatch, htag]
      rfl
  next hfew =>
    refine iff_of_false (Option.some_ne_none v).symm ?_
    rintro ⟨major, minor, patch, rest, heq, -⟩
    exact hfew major minor patch rest heq

/-! ## Spellings -/

/-- The texts that spell a version, with something more behind the third number:
a dot and what follows it, up to the tag. -/
def Spells (text : List Char) (v : Version) (more : List Char) : Prop :=
  ∃ major minor patch, SpellsNumber major v.major ∧ SpellsNumber minor v.minor ∧
    SpellsNumber patch v.patch ∧ (more = [] ∨ more.head? = some '.') ∧
      '-' ∉ more ∧
    text
      = (major ++ '.' :: (minor ++ '.' :: (patch ++ more)))
        ++ tagText v.prerelease

theorem components_append_tagText (h : '-' ∉ before) (tag : Option String) :
    components (before ++ tagText tag) = before.splitOn '.' := by
  rw [components, cutAt_append_tagText h]

/-- What is spelled behind the third number is there exactly when there are
further components. -/
theorem Spells.exists_components (h : Spells text v more) :
    ∃ major minor patch rest,
      components text = major :: minor :: patch :: rest ∧
        (rest = [] ↔ more = []) ∧
        SpellsNumber major v.major ∧ SpellsNumber minor v.minor ∧
        SpellsNumber patch v.patch ∧
        (cutAt '-' text).2 = v.prerelease.map String.toList := by
  rcases h with ⟨major, minor, patch, hmajor, hminor, hpatch, hmore,
    hhyphen, rfl⟩
  have hdot : ∀ {text n}, SpellsNumber text n → '.' ∉ text :=
    fun h => h.notMem (by decide) (by decide)
  have hdash : ∀ {text n}, SpellsNumber text n → '-' ∉ text :=
    fun h => h.notMem (by decide) (by decide)
  have hcore : '-' ∉ major ++ '.' :: (minor ++ '.' :: (patch ++ more)) := by
    simp [hdash hmajor, hdash hminor, hdash hpatch, hhyphen]
  have hrest : ∃ rest, (patch ++ more).splitOn '.' = patch :: rest ∧
      (rest = [] ↔ more = []) := by
    rcases hmore with rfl | hmore
    · refine ⟨[], ?_, iff_of_true rfl rfl⟩
      rw [List.append_nil, List.splitOn_eq_singleton (hdot hpatch)]
    · rcases List.head?_eq_some_iff.1 hmore with ⟨behind, rfl⟩
      exact ⟨_, splitOn_append_dot (hdot hpatch) behind,
        iff_of_false (List.splitOn_ne_nil _ _) (List.cons_ne_nil _ _)⟩
  rcases hrest with ⟨rest, hsplit, hnil⟩
  refine ⟨major, minor, patch, rest, ?_, hnil, hmajor, hminor, hpatch, ?_⟩
  · rw [components_append_tagText hcore, splitOn_append_dot (hdot hmajor),
      splitOn_append_dot (hdot hminor), hsplit]
  · rw [cutAt_append_tagText hcore]

theorem Spells.parse? {text : String} (h : Spells text.toList v more) :
    parse? text = some v := by
  rcases h.exists_components with
    ⟨major, minor, patch, rest, hcomponents, -, hmajor, hminor, hpatch, htag⟩
  refine (parse?_eq_some_iff text v).2 ⟨major, minor, patch, rest, hcomponents,
    parseNumber?_eq_some_iff.2 hmajor, parseNumber?_eq_some_iff.2 hminor,
    parseNumber?_eq_some_iff.2 hpatch, ?_⟩
  rw [htag, Option.map_map]
  simp

theorem exists_spells_of_parse? {text : String}
    (h : Version.parse? text = some v) :
    ∃ more, Spells text.toList v more := by
  rcases (parse?_eq_some_iff text v).1 h with
    ⟨major, minor, patch, rest, hcomponents, hmajor, hminor, hpatch, htag⟩
  rcases exists_eq_append_tagText text.toList with ⟨before, tag, hbefore, htext⟩
  rw [htext] at hcomponents htag ⊢
  rw [components_append_tagText hbefore] at hcomponents
  rw [cutAt_append_tagText hbefore, Option.map_map] at htag
  obtain rfl : v.prerelease = tag := by
    simpa using htag
  have hmore : ∃ more, ['.'].intercalate (patch :: rest) = patch ++ more ∧
      (more = [] ∨ more.head? = some '.') := by
    cases rest with
    | nil => exact ⟨[], by simp, .inl rfl⟩
    | cons next others =>
        exact ⟨_, intercalate_dot_cons patch (List.cons_ne_nil next others),
          .inr rfl⟩
  rcases hmore with ⟨more, hmore, hstart⟩
  have hcore : before = major ++ '.' :: (minor ++ '.' :: (patch ++ more)) := by
    rw [← hmore, ← intercalate_dot_cons minor (List.cons_ne_nil _ _),
      ← intercalate_dot_cons major (List.cons_ne_nil _ _), ← hcomponents,
      List.intercalate_splitOn]
  have hhyphen : '-' ∉ more := by
    rw [hcore] at hbefore
    simp only [List.mem_append, List.mem_cons, not_or] at hbefore
    exact hbefore.2.2.2.2.2
  exact ⟨more, major, minor, patch, parseNumber?_eq_some_iff.1 hmajor,
    parseNumber?_eq_some_iff.1 hminor, parseNumber?_eq_some_iff.1 hpatch,
    hstart, hhyphen, by rw [hcore]⟩

theorem spells_display (v : Version) : Spells v.display.toList v [] := by
  refine ⟨_, _, _, spellsNumber_toDigits v.major, spellsNumber_toDigits v.minor,
    spellsNumber_toDigits v.patch, .inl rfl, List.not_mem_nil, ?_⟩
  have hdot : (toString ".").toList = ['.'] := rfl
  rw [display]
  cases v.prerelease with
  | none => simp [tagText, Nat.repr, hdot]
  | some tag => simp [tagText, Nat.repr, hdot]

/-- A text is read as a version exactly when it spells the version, with or
without something more behind a dot after the third number; nothing more is
there exactly when the text has three components.  The text that a version is
displayed as is read as the version. -/
theorem parse?_eq_some_iff_spells (text : String) (v : Version) :
    (Version.parse? text = some v ↔ ∃ more, Spells text.toList v more) ∧
      (Spells text.toList v [] ↔
        Version.parse? text = some v ∧ (components text.toList).length = 3) ∧
      Version.parse? v.display = some v := by
  refine ⟨⟨exists_spells_of_parse?, ?_⟩, ?_, (spells_display v).parse?⟩
  · rintro ⟨more, h⟩
    exact h.parse?
  constructor
  · intro h
    rcases h.exists_components with
      ⟨major, minor, patch, rest, hcomponents, hnil, -⟩
    refine ⟨h.parse?, ?_⟩
    rw [hcomponents, hnil.2 rfl]
    rfl
  · rintro ⟨h, hlength⟩
    rcases exists_spells_of_parse? h with ⟨more, hspells⟩
    rcases hspells.exists_components with
      ⟨major, minor, patch, rest, hcomponents, hnil, -⟩
    obtain rfl : rest = [] := by
      rw [hcomponents] at hlength
      simpa using hlength
    exact hnil.1 rfl ▸ hspells

/-- A text of four components that is read as a version, though it spells
none. -/
theorem parse?_fourComponents_ne :
    let text := "1.2.3.4"
    let v : Version := ⟨1, 2, 3, none⟩
    parse? text = some v ∧ (components text.toList).length = 4 ∧
      ¬ Spells text.toList v [] := by
  intro text v
  have hlength : (components text.toList).length = 4 := by decide
  refine ⟨by decide, hlength, ?_⟩
  intro hspells
  rcases hspells.exists_components with
    ⟨major, minor, patch, rest, hcomponents, hnil, -⟩
  rw [hcomponents, hnil.2 rfl] at hlength
  cases hlength

end Version
end BuildHost
