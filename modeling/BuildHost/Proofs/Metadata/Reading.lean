import BuildHost.Proofs.Metadata.Cache
import Mathlib.Data.List.Induction

/-!
# Reading metadata files

A metadata file that is read for the first time gives the records that it holds
(`answer_readMetadata`), and one more exactly when it holds a record of version
1 and none of the current version (`isSome_outdated?_iff`).  Where only these
two versions occur, the newest of the records then has the current one
(`exists_newest?_current`).
-/

namespace BuildHost
namespace Build

open OrderedMap

variable {build : Build} {state : State} {p declarationFile : Path}
  {text : String} {records : List MetadataRecord} {old : MetadataRecord}

/-! ## The record to upgrade -/

theorem outdated?_eq_some_iff :
    outdated? records = some old ↔
      (∀ record ∈ records, record.version ≠ MetadataRecord.currentVersion) ∧
        records.find? (·.version = MetadataRecord.legacyVersion)
          = some old := by
  unfold outdated?
  by_cases hcurrent : records.any (·.version = MetadataRecord.currentVersion)
    = true
  · rw [if_pos hcurrent]
    rcases List.any_eq_true.1 hcurrent with ⟨record, hmem, hversion⟩
    constructor
    · intro h
      cases h
    · rintro ⟨hnone, _⟩
      exact absurd (of_decide_eq_true hversion) (hnone record hmem)
  · rw [if_neg hcurrent]
    constructor
    · intro h
      refine ⟨?_, h⟩
      intro record hmem hversion
      exact hcurrent
        (List.any_eq_true.2 ⟨record, hmem, decide_eq_true hversion⟩)
    · intro h
      exact h.2

theorem isSome_outdated?_iff (records : List MetadataRecord) :
    (outdated? records).isSome = true ↔
      (∃ record ∈ records, record.version = MetadataRecord.legacyVersion) ∧
        ∀ record ∈ records, record.version ≠ MetadataRecord.currentVersion := by
  rw [Option.isSome_iff_exists]
  constructor
  · rintro ⟨old, hold⟩
    rcases outdated?_eq_some_iff.1 hold with ⟨hnone, hfind⟩
    refine ⟨⟨old, List.mem_of_find?_eq_some hfind, ?_⟩, hnone⟩
    have hversion := List.find?_some hfind
    exact of_decide_eq_true hversion
  · rintro ⟨⟨record, hmem, hversion⟩, hnone⟩
    cases hfind : records.find? (·.version = MetadataRecord.legacyVersion) with
    | none =>
        exact absurd (decide_eq_true hversion)
          (List.find?_eq_none.1 hfind record hmem)
    | some old => exact ⟨old, outdated?_eq_some_iff.2 ⟨hnone, hfind⟩⟩

theorem exists_current_of_outdated?_eq_none (h : outdated? records = none)
    (hne : records ≠ [])
    (hversions : ∀ record ∈ records,
      record.version = MetadataRecord.legacyVersion ∨
      record.version = MetadataRecord.currentVersion) :
    ∃ record ∈ records, record.version = MetadataRecord.currentVersion := by
  rcases List.exists_mem_of_ne_nil records hne with ⟨record, hmem⟩
  cases hversions record hmem with
  | inl hlegacy =>
      by_contra hnone
      have hlacks : ∀ other ∈ records,
          other.version ≠ MetadataRecord.currentVersion := by
        intro other hother hversion
        exact hnone ⟨other, hother, hversion⟩
      have hsome := (isSome_outdated?_iff records).2
        ⟨⟨record, hmem, hlegacy⟩, hlacks⟩
      rw [h] at hsome
      cases hsome
  | inr hcurrent => exact ⟨record, hmem, hcurrent⟩

/-! ## The records of a file -/

theorem answer_readMetadata (build : Build) (declarationFile : Path)
    (hcache : state.cache.lookup p = none)
    (htext : state.files.fs.read p = .ok text)
    (hparse : MetadataRecord.parseFile text = .ok records) :
    ((build.readMetadata p declarationFile).run state).1
      = match outdated? records with
        | none => .ok records
        | some old =>
          ((build.upgrade old declarationFile).run state).1.map fun new =>
              records ++ [new] := by
  rw [(build.readMetadata_of_lookup_eq_none declarationFile hcache).1]
  unfold heldRecords
  rw [htext]
  dsimp only [Except.mapError]
  rw [hparse]
  dsimp only
  cases outdated? records with
  | none => rfl
  | some old =>
      dsimp only
      rcases build.run_upgrade old declarationFile state with ⟨after, hrun, -⟩
      rw [hrun]
      cases build.heldSource state.files.fs declarationFile with
      | error fault => rfl
      | ok file => rfl

/-! ## The newest record -/

theorem newest?_append_singleton (records : List MetadataRecord)
    (record : MetadataRecord) :
    newest? (records ++ [record])
      = match newest? records with
        | none => some record
        | some best =>
            if best.version ≤ record.version then some record
                else some best := by
  unfold newest?
  rw [List.foldl_append]
  rfl

/-- The newest record has the greatest version, and is the last one that has
it. -/
theorem exists_newest?_eq (hne : records ≠ []) :
    ∃ chosen front back, newest? records = some chosen ∧
      records = front ++ chosen :: back ∧
      (∀ record ∈ front, record.version ≤ chosen.version) ∧
        ∀ record ∈ back, record.version < chosen.version := by
  induction records using List.reverseRecOn with
  | nil => exact absurd rfl hne
  | append_singleton rest record ih =>
      rw [newest?_append_singleton]
      by_cases hrest : rest = []
      · subst hrest
        exact ⟨record, [], [], rfl, rfl, by simp, by simp⟩
      · rcases ih hrest with ⟨best, front, back, hbest, hsplit, hfront, hback⟩
        rw [hbest]
        by_cases hle : best.version ≤ record.version
        · refine ⟨record, rest, [], if_pos hle, rfl, ?_, by simp⟩
          intro other hother
          rw [hsplit, List.mem_append, List.mem_cons] at hother
          rcases hother with hother | rfl | hother
          · exact UInt32.le_trans (hfront other hother) hle
          · exact hle
          · exact UInt32.le_trans (UInt32.le_of_lt (hback other hother)) hle
        · refine ⟨best, front, back ++ [record],
            if_neg hle, by simp [hsplit], hfront, ?_⟩
          intro other hother
          rw [List.mem_append, List.mem_singleton] at hother
          rcases hother with hother | rfl
          · exact hback other hother
          · exact UInt32.not_le.1 hle

theorem le_currentVersion {version : UInt32}
    (h : version = MetadataRecord.legacyVersion ∨
      version = MetadataRecord.currentVersion) :
    version ≤ MetadataRecord.currentVersion := by
  rcases h with rfl | rfl
  · decide
  · exact UInt32.le_refl _

/-- Where no record is newer than the current version and a record has that
version, the newest one has it. -/
theorem exists_newest?_current
    (hcurrent : ∃ record ∈ records,
      record.version = MetadataRecord.currentVersion)
    (hle : ∀ record ∈ records, record.version ≤ MetadataRecord.currentVersion) :
    ∃ chosen, newest? records = some chosen ∧
      chosen.version = MetadataRecord.currentVersion := by
  rcases hcurrent with ⟨record, hmem, hversion⟩
  rcases exists_newest?_eq (List.ne_nil_of_mem hmem) with
    ⟨chosen, front, back, hchosen, rfl, hfront, hback⟩
  refine ⟨chosen, hchosen, ?_⟩
  apply UInt32.le_antisymm
  · exact hle chosen (by simp)
  · rw [← hversion]
    rw [List.mem_append, List.mem_cons] at hmem
    rcases hmem with hmem | rfl | hmem
    · exact hfront record hmem
    · exact UInt32.le_refl _
    · exact UInt32.le_of_lt (hback record hmem)

/-! ## What a first reading gives -/

theorem exists_sourceFile_of_upgrade {new : MetadataRecord}
    (h : ((build.upgrade old declarationFile).run state).1 = .ok new) :
    ∃ file, ((build.sourceFile declarationFile).run state).1 = .ok file ∧
      new = upgraded old (build.collector file) := by
  rw [answer_upgrade] at h
  cases hfile : ((build.sourceFile declarationFile).run state).1 with
  | error fault =>
      rw [hfile] at h
      cases h
  | ok file =>
      rw [hfile] at h
      cases h
      exact ⟨file, rfl, rfl⟩

/-- A file that is read for the first time gives its records, and the upgrade of
its first record of version 1 when no record has the current version. -/
theorem readMetadata_completes (hcache : state.cache.lookup p = none)
    (htext : state.files.fs.read p = .ok text)
    (hparse : MetadataRecord.parseFile text = .ok records)
    (hupgrade : ∀ old ∈ outdated? records,
      ∃ new, ((build.upgrade old declarationFile).run state).1 = .ok new)
    (hdistinct : build.collector.HasDistinctNames) :
    ∃ added : Option MetadataRecord,
      ((build.readMetadata p declarationFile).run state).1
        = .ok (records ++ added.toList) ∧
      (added.isSome = true ↔
        (∃ record ∈ records, record.version = MetadataRecord.legacyVersion) ∧
          ∀ record ∈ records, record.version ≠ MetadataRecord.currentVersion) ∧
      (∀ new ∈ added, ∃ old file,
        records.find? (·.version = MetadataRecord.legacyVersion) = some old ∧
        ((build.upgrade old declarationFile).run state).1 = .ok new ∧
        ((build.sourceFile declarationFile).run state).1 = .ok file ∧
        new.symbols.map (·.1)
          = old.symbols.map (·.1)
            ++ ((build.declaredSymbols file).map (·.1)).filter
              fun name => name ∉ old.symbols.map (·.1)) ∧
      (records ≠ [] →
        (∀ record ∈ records, record.version = MetadataRecord.legacyVersion ∨
          record.version = MetadataRecord.currentVersion) →
        ∃ chosen, newest? (records ++ added.toList) = some chosen ∧
          chosen.version = MetadataRecord.currentVersion) := by
  have hanswer := answer_readMetadata build declarationFile hcache htext hparse
  have hlacks := isSome_outdated?_iff records
  cases houtdated : outdated? records with
  | none =>
      rw [houtdated] at hanswer hlacks
      refine ⟨none, ?_, hlacks, by simp, ?_⟩
      · rw [hanswer, Option.toList_none, List.append_nil]
      · intro hne hversions
        rw [Option.toList_none, List.append_nil]
        apply exists_newest?_current
        · exact exists_current_of_outdated?_eq_none houtdated hne hversions
        · intro record hmem
          exact le_currentVersion (hversions record hmem)
  | some old =>
      rcases hupgrade old houtdated with ⟨new, hnew⟩
      rcases exists_sourceFile_of_upgrade hnew with ⟨file, hfile, rfl⟩
      rw [houtdated] at hanswer hlacks
      refine ⟨some (upgraded old (build.collector file)), ?_, hlacks, ?_, ?_⟩
      · rw [hanswer]
        dsimp only
        rw [hnew]
        rfl
      · rintro _ ⟨⟩
        exact ⟨old, file, (outdated?_eq_some_iff.1 houtdated).2, hnew, hfile,
          map_fst_upgraded hdistinct old file⟩
      · intro _ hversions
        apply exists_newest?_current
        · exact ⟨upgraded old (build.collector file), by simp, rfl⟩
        · intro record hmem
          rw [Option.toList_some, List.mem_append, List.mem_singleton] at hmem
          rcases hmem with hmem | rfl
          · exact le_currentVersion (hversions record hmem)
          · exact UInt32.le_refl _

/-- A metadata file of one record of version 1. -/
def legacyText : String :=
  "\x7b\"version\": 1, \"metadata\": \x7b\"Foo\": true\x7d\x7d"

def legacyTree : FileSystem :=
  .inMemory ((MemoryTree.empty true).addFile "/p/a.metadata.json".toList
    legacyText.toUTF8)

theorem readMetadata_completes_classesBuild :
    let state := State.start legacyTree
    ∃ old added chosen, MetadataRecord.parseFile legacyText = .ok [old] ∧
      ((classesBuild.readMetadata "/p/a.metadata.json".toList
        classesFile.path).run state).1
        = .ok [old, added] ∧
      added.symbols.map (·.1) = ["Foo", "Bar"] ∧
      newest? [old, added] = some chosen ∧
      chosen.version = MetadataRecord.currentVersion := by
  intro state
  have hcache : state.cache.lookup "/p/a.metadata.json".toList = none := rfl
  have htext : state.files.fs.read "/p/a.metadata.json".toList
      = .ok legacyText := rfl
  have hdeclared : ((classesBuild.sourceFile classesFile.path).run state).1
      = .ok classesFile :=
    rfl
  have hheld : (MetadataRecord.parseFile legacyText).toOption.map
        (·.map fun record => (record.version, record.symbols.map (·.1)))
      = some [(MetadataRecord.legacyVersion, ["Foo"])] := by
    decide +kernel
  cases hparse : MetadataRecord.parseFile legacyText with
  | error fault =>
      rw [hparse] at hheld
      cases hheld
  | ok records =>
      rw [hparse] at hheld
      rcases List.map_eq_singleton_iff.1 (Option.some_inj.1 hheld) with
        ⟨old, rfl, hold⟩
      rcases Prod.mk.inj hold with ⟨hversion, hold⟩
      have hupgrade : ∀ outdated ∈ outdated? [old], ∃ new,
          ((classesBuild.upgrade outdated classesFile.path).run state).1
            = .ok new := by
        intro outdated _
        exact ⟨_, answer_upgrade classesBuild outdated classesFile.path state⟩
      have hlacks : ∀ record ∈ [old],
          record.version ≠ MetadataRecord.currentVersion := by
        intro record hmem
        rw [List.mem_singleton.1 hmem, hversion]
        decide
      have hknown : ∀ record ∈ [old],
          record.version = MetadataRecord.legacyVersion ∨
          record.version = MetadataRecord.currentVersion := by
        intro record hmem
        left
        rw [List.mem_singleton.1 hmem, hversion]
      rcases readMetadata_completes hcache htext hparse hupgrade
          MetadataCollector.hasDistinctNames_ofText with
        ⟨added, hanswer, hadded, hnames, hnewest⟩
      rcases Option.isSome_iff_exists.1
          (hadded.2 ⟨⟨old, List.mem_singleton_self old, hversion⟩, hlacks⟩) with
          ⟨new, rfl⟩
      rcases hnames new rfl with ⟨first, file, hfirst, _, hfile, hnames⟩
      obtain rfl : old = first :=
        (List.mem_singleton.1 (List.mem_of_find?_eq_some hfirst)).symm
      rw [hdeclared] at hfile
      cases hfile
      rcases hnewest (List.cons_ne_nil old []) hknown with
        ⟨chosen, hchosen, hcurrent⟩
      refine ⟨old, new, chosen, rfl, hanswer, ?_, hchosen, hcurrent⟩
      rw [hnames, hold]
      decide +kernel

end Build
end BuildHost
