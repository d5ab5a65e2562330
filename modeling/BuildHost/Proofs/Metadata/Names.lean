import BuildHost.Metadata.FromValue
import BuildHost.Proofs.Json.Names
import BuildHost.Proofs.Metadata.Reading
import BuildHost.Proofs.Metadata.Sessions
import BuildHost.Proofs.Results

/-!
# Names in records

A record describes each name once.  A record that is read takes its names from
an object of the text (`hasDistinctNames_of_parseFile_eq_ok`), an upgraded one
adds only names that are new to it (`hasDistinctNames_upgraded`), and so every
record that is kept describes each name once, whatever the build was asked for
before (`keepsDistinctNames_afterEvents`).
-/

namespace BuildHost

open Json OrderedMap

namespace MetadataRecord

/-- Whether the record describes each name once. -/
def HasDistinctNames (record : MetadataRecord) : Prop :=
  HasDistinctKeys record.symbols

/-! ## Records of a text -/

theorem hasDistinctKeys_of_symbolsOfValue {v : Value}
    {symbols : List (String × Value)} (hv : v.IsDistinct)
    (h : symbolsOfValue v = .ok symbols) : HasDistinctKeys symbols := by
  cases hv with
  | object hnames hmembers =>
      -- the descriptions are taken as they are
      change List.mapM (fun member => pure (id member)) _ = _ at h
      rw [List.mapM_pure, List.map_id] at h
      cases h
      exact hnames
  | null => cases h
  | bool b => cases h
  | number n => cases h
  | string s => cases h
  | array hitems => cases h

/-- Whether the names that a draft has so far are distinct. -/
def Draft.HasDistinctNames (draft : Draft) : Prop :=
  ∀ symbols ∈ draft.symbols, HasDistinctKeys symbols

theorem Draft.HasDistinctNames.record {draft : Draft}
    (h : draft.HasDistinctNames) :
    draft.record.HasDistinctNames := by
  show HasDistinctKeys (draft.symbols.getD [])
  cases hsymbols : draft.symbols with
  | none => exact List.nodup_nil
  | some symbols => exact h symbols hsymbols

theorem hasDistinctNames_addMember {draft next : Draft} {name : String}
    {v : Value} (hdraft : draft.HasDistinctNames) (hv : v.IsDistinct)
    (h : addMember draft name v = .ok next) : next.HasDistinctNames := by
  unfold addMember at h
  split at h
  · rcases exists_of_bind_eq_ok h with ⟨symbolic, -, h⟩
    cases h
    exact hdraft
  · rcases exists_of_bind_eq_ok h with ⟨version, -, h⟩
    cases h
    exact hdraft
  · rcases exists_of_bind_eq_ok h with ⟨symbols, hsymbols, h⟩
    cases h
    rintro _ ⟨⟩
    exact hasDistinctKeys_of_symbolsOfValue hv hsymbols
  · rcases exists_of_bind_eq_ok h with ⟨reExports, -, h⟩
    cases h
    exact hdraft
  · rcases exists_of_bind_eq_ok h with ⟨importAs, -, h⟩
    cases h
    exact hdraft
  · rcases exists_of_bind_eq_ok h with ⟨origins, -, h⟩
    cases h
    exact hdraft
  · cases h
    exact hdraft

theorem of_takeItem_eq_ok {α : Type} {convert : Value → Except Cause α}
    {items rest : List Value} {taken : Option α}
    (h : Value.takeItem convert items = .ok (taken, rest)) :
    rest ⊆ items ∧ ∀ a ∈ taken, ∃ item ∈ items, convert item = .ok a := by
  cases items with
  | nil =>
      cases h
      exact ⟨List.Subset.refl _, by simp⟩
  | cons item others =>
      rcases exists_of_bind_eq_ok h with ⟨a, ha, h⟩
      cases h
      refine ⟨List.subset_cons_self item _, ?_⟩
      rintro _ ⟨⟩
      exact ⟨item, List.mem_cons_self, ha⟩

theorem hasDistinctNames_of_ofItems {items rest : List Value}
    {record : MetadataRecord} (hitems : ∀ item ∈ items, item.IsDistinct)
    (h : ofItems items = .ok (record, rest)) :
    record.HasDistinctNames := by
  rcases exists_of_bind_eq_ok h with ⟨⟨symbolic, afterKind⟩, hsymbolic, h⟩
  rcases exists_of_bind_eq_ok h with ⟨⟨version, afterVersion⟩, hversion, h⟩
  rcases exists_of_bind_eq_ok h with ⟨⟨symbols, afterSymbols⟩, hsymbols, h⟩
  rcases exists_of_bind_eq_ok h with ⟨⟨reExports, afterExports⟩, -, h⟩
  rcases exists_of_bind_eq_ok h with ⟨⟨importAs, afterImport⟩, -, h⟩
  rcases exists_of_bind_eq_ok h with ⟨⟨origins, afterOrigins⟩, -, h⟩
  cases h
  apply Draft.HasDistinctNames.record
  intro names hnames
  rcases (of_takeItem_eq_ok hsymbols).2 names hnames with ⟨item, hitem, hvalue⟩
  have hmem : item ∈ items :=
    (of_takeItem_eq_ok hsymbolic).1 ((of_takeItem_eq_ok hversion).1 hitem)
  exact hasDistinctKeys_of_symbolsOfValue (hitems item hmem) hvalue

theorem hasDistinctNames_of_ofValue {v : Value} {record : MetadataRecord}
    (hv : v.IsDistinct) (h : ofValue v = .ok record) :
    record.HasDistinctNames := by
  cases hv with
  | object hnames hmembers =>
      rcases exists_of_bind_eq_ok h with ⟨draft, hdraft, h⟩
      cases h
      apply Draft.HasDistinctNames.record
      refine invariant_of_foldlM_eq_ok ?_ ?_ hdraft
      · intro draft hdraft member hmember next hnext
        exact hasDistinctNames_addMember hdraft (hmembers member hmember) hnext
      · rintro _ ⟨⟩
  | array hitems =>
      rcases exists_of_bind_eq_ok h with ⟨⟨first, rest⟩, hfirst, h⟩
      cases rest with
      | nil =>
          cases h
          exact hasDistinctNames_of_ofItems hitems hfirst
      | cons item rest => cases h
  | null => cases h
  | bool b => cases h
  | number n => cases h
  | string s => cases h

theorem hasDistinctNames_of_parseFile_eq_ok {text : String}
    {records : List MetadataRecord} (h : parseFile text = .ok records) :
    ∀ record ∈ records, record.HasDistinctNames := by
  rcases exists_of_bind_eq_ok h with ⟨v, hv, h⟩
  have hdistinct := isDistinct_of_parse_eq_ok hv
  have h := of_mapError_eq_ok h
  intro record hrecord
  split at h
  · cases h
    cases hrecord
  · cases hdistinct with
    | array hitems =>
        rcases exists_of_mem_of_mapM_eq_ok h hrecord with ⟨item, hitem, hvalue⟩
        exact hasDistinctNames_of_ofValue (hitems item hitem) hvalue
  · rcases exists_of_map_eq_ok h with ⟨only, hvalue, rfl⟩
    rw [List.mem_singleton.1 hrecord]
    exact hasDistinctNames_of_ofValue hdistinct hvalue

end MetadataRecord

namespace Build

variable {build : Build} {state : State}

/-! ## Records that are kept -/

theorem hasDistinctNames_upgraded
    (hcollector : build.collector.HasDistinctNames) {old : MetadataRecord}
    (hold : old.HasDistinctNames) (file : SourceFile) :
    (upgraded old (build.collector file)).HasDistinctNames := by
  unfold MetadataRecord.HasDistinctNames HasDistinctKeys
  rw [map_fst_upgraded hcollector]
  have hdeclared := hasDistinctKeys_declaredSymbols hcollector file
  refine List.Nodup.append hold (List.Nodup.filter _ hdeclared) ?_
  intro name hname hadded
  simp only [List.mem_filter, decide_eq_true_eq] at hadded
  exact hadded.2 hname

theorem hasDistinctNames_heldRecords
    (hcollector : build.collector.HasDistinctNames) {fs : FileSystem}
    {p declarationFile : Path} {records : List MetadataRecord}
    (h : build.heldRecords fs p declarationFile = .ok records) :
    ∀ record ∈ records, record.HasDistinctNames := by
  unfold heldRecords at h
  split at h
  next => cases h
  next text _ =>
    split at h
    next => cases h
    next read hparse =>
      have hread := MetadataRecord.hasDistinctNames_of_parseFile_eq_ok
        (of_mapError_eq_ok hparse)
      split at h
      next =>
        cases h
        exact hread
      next old hold =>
        have hmem := List.mem_of_find?_eq_some (outdated?_eq_some_iff.1 hold).2
        rcases exists_of_map_eq_ok h with ⟨file, -, rfl⟩
        intro record hrecord
        rcases List.mem_append.1 hrecord with hrecord | hrecord
        · exact hread record hrecord
        · rw [List.mem_singleton.1 hrecord]
          exact hasDistinctNames_upgraded hcollector (hread old hmem) file

/-- Whether every record that is kept describes each name once. -/
def KeepsDistinctNames (state : State) : Prop :=
  ∀ p records, state.cache.lookup p = some records → ∀ record ∈ records,
    record.HasDistinctNames

theorem hasDistinctNames_keptRecords
    (hcollector : build.collector.HasDistinctNames)
    (hstate : KeepsDistinctNames state) {p declarationFile : Path}
    {records : List MetadataRecord}
    (h : build.keptRecords state p declarationFile = .ok records) :
    ∀ record ∈ records, record.HasDistinctNames := by
  cases hkept : state.cache.lookup p with
  | some kept =>
      rw [keptRecords_of_lookup hkept] at h
      cases h
      exact hstate p records hkept
  | none =>
      rw [keptRecords_of_lookup_eq_none hkept] at h
      exact hasDistinctNames_heldRecords hcollector h

theorem hasDistinctNames_ownDescription
    (hcollector : build.collector.HasDistinctNames) {files : KnownFiles}
    {p : Path} {records : List MetadataRecord}
    (h : build.ownDescription files p = .ok (some records)) :
    ∀ record ∈ records, record.HasDistinctNames := by
  unfold ownDescription at h
  split at h
  · cases h
  · split at h
    · cases h
      intro record hrecord
      rw [List.mem_singleton.1 hrecord]
      exact List.nodup_nil
    · rcases exists_of_map_eq_ok h with ⟨file, -, heq⟩
      cases heq
      intro record hrecord
      exact hcollector file record (Option.mem_toList.1 hrecord)

/-- Every record that describes a file describes each name once. -/
theorem hasDistinctNames_keptDescription
    (hcollector : build.collector.HasDistinctNames)
    (hstate : KeepsDistinctNames state) {p : Path}
    {records : List MetadataRecord}
    (h : build.keptDescription state p = .ok (some records)) :
    ∀ record ∈ records, record.HasDistinctNames := by
  unfold keptDescription at h
  cases hfile : build.describedBy? state.files p with
  | none =>
      rw [hfile] at h
      exact hasDistinctNames_ownDescription hcollector h
  | some metadataFile =>
      rw [hfile] at h
      rcases exists_of_map_eq_ok h with ⟨kept, hrecords, heq⟩
      cases heq
      exact hasDistinctNames_keptRecords hcollector hstate hrecords

/-! ## Sessions -/

theorem hasDistinctNames_of_given?
    (hcollector : build.collector.HasDistinctNames)
    (hstate : KeepsDistinctNames state) {p : Path} {event : Event}
    {records : List MetadataRecord}
    (h : build.given? state p event = some records) :
    ∀ record ∈ records, record.HasDistinctNames := by
  cases event with
  | query query => cases h
  | change fs => cases h
  | reading q declarationFile =>
      rw [given?] at h
      split at h
      · rw [answer_readMetadata_eq_keptRecords] at h
        exact hasDistinctNames_keptRecords hcollector hstate
          (eq_ok_of_toOption_eq_some h)
      · cases h
  | description q =>
      rw [given?] at h
      split at h
      · rw [answer_metadataOf] at h
        have hanswer := eq_ok_of_toOption_eq_some (Option.join_eq_some_iff.1 h)
        exact hasDistinctNames_keptDescription hcollector hstate hanswer
      · cases h

theorem keepsDistinctNames_afterEvent
    (hcollector : build.collector.HasDistinctNames)
    (hstate : KeepsDistinctNames state) (event : Event) :
    KeepsDistinctNames (build.afterEvent state event) := by
  intro p records hkept
  rw [lookup_afterEvent] at hkept
  cases hbefore : state.cache.lookup p with
  | some kept =>
      rw [hbefore] at hkept
      cases hkept
      exact hstate p records hbefore
  | none =>
      rw [hbefore, Option.none_or] at hkept
      exact hasDistinctNames_of_given? hcollector hstate hkept

theorem keepsDistinctNames_afterEvents
    (hcollector : build.collector.HasDistinctNames)
    (hstate : KeepsDistinctNames state) (events : List Event) :
    KeepsDistinctNames (build.afterEvents state events) := by
  induction events generalizing state with
  | nil => exact hstate
  | cons event rest ih =>
      exact ih (keepsDistinctNames_afterEvent hcollector hstate event)

theorem keepsDistinctNames_of_nil (h : state.cache = []) :
    KeepsDistinctNames state := by
  intro p records hkept
  rw [h] at hkept
  cases hkept

end Build
end BuildHost
