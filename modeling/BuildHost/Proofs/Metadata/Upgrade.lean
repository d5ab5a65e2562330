import BuildHost.Proofs.Build.Action
import BuildHost.Proofs.Metadata.Collector

/-!
# Upgrading records of version 1

The names of the old record come first, and then those that only the declaration
file exports (`map_fst_foldl_fillSymbol`).  A name keeps its old description,
with one exception: a name that is described by `null` counts as one without a
description (`lookup_foldl_fillSymbol`), so that it takes over what the
declaration file says of it (`upgrade_prefers_old`).
-/

namespace BuildHost

open Json OrderedMap

theorem Json.Value.isNull_iff {v : Value} : v.isNull = true ↔ v = .null := by
  cases v with
  | null => simp [isNull]
  | bool b => simp [isNull]
  | number n => simp [isNull]
  | string s => simp [isNull]
  | array items => simp [isNull]
  | object members => simp [isNull]

namespace Build

variable {symbols declared : List (String × Value)} {symbol : String × Value}
  {name : String}

/-! ## Filling one name -/

/-- What describes a name that two records may describe: the first one, if it
says more than `null`. -/
def preferred : Option Value → Option Value → Option Value
  | none, declared => declared
  | some old, declared =>
    if old.isNull then some (declared.getD old) else some old

theorem preferred_none_right (old : Option Value) :
    preferred old none = old := by
  cases old with
  | none => rfl
  | some v =>
      show (if v.isNull then some v else some v) = some v
      rw [ite_self]

theorem lookup_fillSymbol :
    (fillSymbol symbols symbol).lookup name
      = if name = symbol.1 then preferred (symbols.lookup name) (some symbol.2)
        else symbols.lookup name := by
  unfold fillSymbol
  by_cases hname : name = symbol.1
  · subst hname
    rw [if_pos rfl]
    cases hold : symbols.lookup symbol.1 with
    | none =>
        simp only [lookup_append_singleton, hold, if_pos]
        rfl
    | some old =>
        unfold preferred
        by_cases hnull : old.isNull = true
        · simp only [if_pos hnull, lookup_insert, if_pos, Option.getD_some]
        · simp only [if_neg hnull, hold]
  · rw [if_neg hname]
    cases symbols.lookup symbol.1 with
    | none =>
        simp only [lookup_append_singleton, if_neg hname, Option.or_none]
    | some old =>
        by_cases hnull : old.isNull = true
        · simp only [if_pos hnull, lookup_insert, if_neg hname]
        · simp only [if_neg hnull]

theorem map_fst_fillSymbol :
    (fillSymbol symbols symbol).map (·.1)
      = if symbol.1 ∈ symbols.map (·.1) then symbols.map (·.1)
        else symbols.map (·.1) ++ [symbol.1] := by
  unfold fillSymbol
  cases hold : symbols.lookup symbol.1 with
  | none =>
      rw [lookup_eq_none_iff] at hold
      rw [if_neg hold, List.map_append, List.map_singleton]
  | some old =>
      have hmem := mem_map_fst_of_lookup_eq_some hold
      rw [if_pos hmem]
      by_cases hnull : old.isNull = true
      · simp only [if_pos hnull]
        rw [map_fst_insert, if_pos hmem]
      · simp only [if_neg hnull]

/-! ## Filling all names -/

theorem lookup_foldl_fillSymbol (hdistinct : HasDistinctKeys declared) :
    (declared.foldl fillSymbol symbols).lookup name
      = preferred (symbols.lookup name) (declared.lookup name) := by
  induction declared generalizing symbols with
  | nil => exact (preferred_none_right _).symm
  | cons symbol rest ih =>
      rcases List.nodup_cons.1 hdistinct with ⟨hfresh, hdistinct⟩
      rw [List.foldl_cons, ih hdistinct, lookup_fillSymbol, lookup_cons]
      by_cases hname : name = symbol.1
      · -- the name does not come again, so that what was filled in stays
        have hrest : rest.lookup name = none := by
          rw [lookup_eq_none_iff, hname]
          exact hfresh
        rw [if_pos hname, if_pos hname, hrest, preferred_none_right]
      · rw [if_neg hname, if_neg hname]

theorem map_fst_foldl_fillSymbol (hdistinct : HasDistinctKeys declared) :
    (declared.foldl fillSymbol symbols).map (·.1)
      = symbols.map (·.1)
        ++ (declared.map (·.1)).filter
          (fun name => name ∉ symbols.map (·.1)) := by
  induction declared generalizing symbols with
  | nil => simp
  | cons symbol rest ih =>
      rcases List.nodup_cons.1 hdistinct with ⟨hfresh, hdistinct⟩
      rw [List.foldl_cons, ih hdistinct, map_fst_fillSymbol, List.map_cons]
      by_cases hmem : symbol.1 ∈ symbols.map (·.1)
      · rw [if_pos hmem, List.filter_cons_of_neg (by simpa using hmem)]
      · have hrest : (rest.map (·.1)).filter
            (fun name => name ∉ symbols.map (·.1) ++ [symbol.1])
            = (rest.map (·.1)).filter
              (fun name => name ∉ symbols.map (·.1)) := by
          apply List.filter_congr
          intro name hname
          have hne : name ≠ symbol.1 := by
            rintro rfl
            exact hfresh hname
          simp [hne]
        rw [if_neg hmem, List.filter_cons_of_pos (by simpa using hmem), hrest,
          List.append_assoc, List.singleton_append]

/-! ## The upgraded record -/

/-- What the declaration file says of its symbols; nothing when nothing is
collected from it. -/
def declaredSymbols (build : Build) (file : SourceFile) :
    List (String × Value) :=
  ((build.collector file).map (·.symbols)).getD []

theorem hasDistinctKeys_declaredSymbols {build : Build}
    (h : build.collector.HasDistinctNames) (file : SourceFile) :
    HasDistinctKeys (build.declaredSymbols file) := by
  unfold declaredSymbols
  cases hcollected : build.collector file with
  | none => exact List.nodup_nil
  | some declared => exact h file declared hcollected

theorem answer_upgrade (build : Build) (old : MetadataRecord)
    (declarationFile : Path) (state : State) :
    ((build.upgrade old declarationFile).run state).1
      = ((build.sourceFile declarationFile).run state).1.map
          fun file => upgraded old (build.collector file) :=
  answer_map _ _ _

theorem lookup_upgraded {build : Build} (h : build.collector.HasDistinctNames)
    (old : MetadataRecord) (file : SourceFile) (name : String) :
    (upgraded old (build.collector file)).symbols.lookup name
      = preferred (old.symbols.lookup name)
        ((build.declaredSymbols file).lookup name) :=
  lookup_foldl_fillSymbol (hasDistinctKeys_declaredSymbols h file)

theorem map_fst_upgraded {build : Build} (h : build.collector.HasDistinctNames)
    (old : MetadataRecord) (file : SourceFile) :
    (upgraded old (build.collector file)).symbols.map (·.1)
      = old.symbols.map (·.1)
        ++ ((build.declaredSymbols file).map (·.1)).filter
          fun name => name ∉ old.symbols.map (·.1) :=
  map_fst_foldl_fillSymbol (hasDistinctKeys_declaredSymbols h file)

/-- A description is kept exactly when it says more than `null`, or nothing says
more. -/
theorem preferred_eq_old_iff (old : Value) (declared : Option Value) :
    preferred (some old) declared = some old ↔
      old.isNull = false ∨ ∀ other, declared = some other →
        other.isNull = true := by
  unfold preferred
  cases hnull : old.isNull with
  | false => simp [hnull]
  | true =>
      rw [Value.isNull_iff] at hnull
      cases declared with
      | none => simp
      | some other => simp [hnull, Value.isNull_iff]

/-- The upgrade of a record of version 1 keeps the descriptions of its names,
except for a `null`, which gives way to what the declaration file says of the
name. -/
theorem upgrade_prefers_old {build : Build} {state : State}
    {old : MetadataRecord} {declarationFile : Path} {file : SourceFile}
    (hfile : ((build.sourceFile declarationFile).run state).1 = .ok file)
    (hdistinct : build.collector.HasDistinctNames) :
    ∃ new, ((build.upgrade old declarationFile).run state).1 = .ok new ∧
      new.version = MetadataRecord.currentVersion ∧
      (∀ name description, old.symbols.lookup name = some description →
        (new.symbols.lookup name = some description ↔
          description.isNull = false ∨
          ∀ other, (build.declaredSymbols file).lookup name = some other →
            other.isNull = true)) ∧
      (∀ name, old.symbols.lookup name = some .null →
        new.symbols.lookup name
          = some (((build.declaredSymbols file).lookup name).getD .null)) ∧
      (∀ name, old.symbols.lookup name = none →
        new.symbols.lookup name = (build.declaredSymbols file).lookup name) ∧
      (∀ directives, old.reExports = some directives →
        new.reExports = some directives) ∧
      (old.reExports = none →
        new.reExports = (build.collector file).bind (·.reExports)) ∧
      new.importAs = old.importAs := by
  have hlookup := lookup_upgraded hdistinct old file
  refine ⟨upgraded old (build.collector file), ?_, rfl, ?_, ?_, ?_, ?_, ?_, rfl⟩
  · rw [answer_upgrade, hfile]
    rfl
  · intro name description hold
    rw [hlookup, hold]
    exact preferred_eq_old_iff description _
  · intro name hold
    rw [hlookup, hold]
    rfl
  · intro name hold
    rw [hlookup, hold]
    rfl
  · intro directives hold
    show (old.reExports <|> _) = _
    rw [hold]
    rfl
  · intro hold
    show (old.reExports <|> _) = _
    rw [hold]
    rfl

/-- A declaration file of two classes. -/
def classesFile : SourceFile where
  path := "/p/a.d.ts".toList
  text := "export declare class Foo \x7b\x7d export declare class Bar \x7b\x7d"

def classesBuild : Build :=
  outsideBuild ⟨[(classesFile.path, classesFile.text)]⟩ .ofText

theorem upgrade_prefers_old_classesBuild :
    let old : MetadataRecord :=
      { MetadataRecord.empty MetadataRecord.legacyVersion with
        symbols := [("Foo", .bool true)] }
    let state := State.start (.inMemory (.empty true))
    ∃ new, ((classesBuild.upgrade old classesFile.path).run state).1 = .ok new ∧
      new.version = MetadataRecord.currentVersion ∧
      new.symbols.lookup "Foo" = some (.bool true) ∧
      (new.symbols.lookup "Bar").isSome = true ∧
      (new.symbols.lookup "Baz").isSome = false := by
  intro old state
  have hdeclared : ((classesBuild.sourceFile classesFile.path).run state).1
      = .ok classesFile :=
    rfl
  rcases @upgrade_prefers_old classesBuild state old classesFile.path
    classesFile hdeclared
      MetadataCollector.hasDistinctNames_ofText with
    ⟨new, hnew, hversion, hkept, _, hadded, _⟩
  refine ⟨new, hnew, hversion,
    (hkept "Foo" (.bool true) rfl).2 (.inl rfl), ?_, ?_⟩
  · rw [hadded "Bar" rfl]
    decide +kernel
  · rw [hadded "Baz" rfl]
    decide +kernel

/-- A name that the old record describes by `null` takes over what the
declaration file says. -/
theorem upgrade_null_ne :
    let old : MetadataRecord :=
      { MetadataRecord.empty MetadataRecord.legacyVersion with
        symbols := [("Foo", .null)] }
    let state := State.start (.inMemory (.empty true))
    (∃ file, ((classesBuild.sourceFile classesFile.path).run state).1
      = .ok file) ∧
      classesBuild.collector.HasDistinctNames ∧
      old.symbols.lookup "Foo" = some .null ∧
      ∃ new,
        ((classesBuild.upgrade old classesFile.path).run state).1 = .ok new ∧
        new.symbols.lookup "Foo" ≠ some .null := by
  refine ⟨⟨_, rfl⟩, MetadataCollector.hasDistinctNames_ofText, rfl, _, rfl, ?_⟩
  intro hkept
  exact absurd (congrArg (·.map Value.isNull) hkept) (by decide +kernel)

end Build
end BuildHost
