import BuildHost.Metadata.FromText
import BuildHost.Proofs.Json.Kinds

/-!
# Records as texts and back

A record that is read from a text names its symbols and its origins once each,
and its descriptions nest no deeper than the reader allows
(`isReadable_of_parse_eq_ok`); so it is read again from its own text.
-/

namespace BuildHost

open Json Json.Reader OrderedMap

/-! ## Exported names and directives -/

theorem ExportedName.ofValue?_toValue (name : ExportedName) :
    ExportedName.ofValue? name.toValue = some name := by
  cases name with
  | plain name => rfl
  | renamed name publicName => rfl

theorem ExportedName.isWithin_toValue (name : ExportedName) (depth : Nat) :
    name.toValue.IsWithin (depth + 2) := by
  cases name with
  | plain name => exact .string _ name
  | renamed name publicName =>
      refine .object (by simp [HasDistinctKeys]) ?_
      intro member hmember
      simp only [List.mem_cons, List.not_mem_nil, or_false] at hmember
      rcases hmember with rfl | rfl
      · exact .string _ _
      · exact .string _ _

theorem ExportedName.hasIntegers_toValue (name : ExportedName) :
    name.toValue.HasIntegers := by
  cases name with
  | plain name => exact .string name
  | renamed name publicName =>
      refine .object ?_
      intro member hmember
      simp only [List.mem_cons, List.not_mem_nil, or_false] at hmember
      rcases hmember with rfl | rfl
      · exact .string _
      · exact .string _

section Reading

variable (printer : Printer)

theorem ExportedName.reads (name : ExportedName) (depth level : Nat) :
    Reads (ExportedName.read (depth + 2)) (printer.text level name.toValue)
      name := by
  refine (reads_rawValue printer (name.isWithin_toValue depth)
    name.hasIntegers_toValue level).followedBy ?_
  intro rest
  rw [ofValue?_toValue]
  exact answers_pure name rest

theorem ReExport.reads_names (names : List ExportedName) (depth level : Nat) :
    Reads (optional (sequence (depth + 3) ExportedName.read))
      (printer.text level (.array (names.map (·.toValue)))) (some names) := by
  apply reads_optional_sequence printer (by omega)
  intro name _
  exact name.reads printer depth (level + 1)

theorem ReExport.finish_draft (e : ReExport) :
    ReExport.finish (ReExport.Draft.mk (some e.source) (e.names.map some))
      = pure e := by
  rcases e with ⟨source, names⟩
  cases names with
  | none => rfl
  | some names => rfl

theorem ReExport.reads (e : ReExport) (depth level : Nat) :
    Reads (ReExport.read (depth + 4)) (printer.text level e.toValue) e := by
  have hsource := passes_field printer (ReExport.field (depth + 3))
    (reads_text printer e.source (level + 1)) "from"
    (fun source => ReExport.Draft.mk source none) rfl
  have hnames := passesInOrder_optional printer (ReExport.field (depth + 3))
    e.names _
      (fun names _ => ReExport.reads_names printer names depth (level + 1))
        "export"
    (ReExport.Draft.mk (some e.source)) rfl
  have horder := (PassesInOrder.cons hsource (.nil _)).append hnames
  rw [← List.map_singleton, ← List.map_append] at horder
  refine reads_struct printer (by omega : 1 < depth + 4) _ level horder ?_
  intro rest
  rw [e.finish_draft]
  exact answers_pure e rest

namespace MetadataRecord

/-- What every record that is read from a text has: each symbol and each origin
is named once, and descriptions nest no deeper than they can be read. -/
structure IsReadable (record : MetadataRecord) : Prop where
  symbols : AreDistinct (Value.IsWithin (maximalDepth - 2)) record.symbols
  origins : ∀ origins ∈ record.origins, HasDistinctKeys origins

/-- Whether no description holds a number in floating point. -/
def HasIntegers (record : MetadataRecord) : Prop :=
  ∀ symbol ∈ record.symbols, symbol.2.HasIntegers

variable {record : MetadataRecord}

theorem reads_symbols (h : record.IsReadable) (hintegers : record.HasIntegers)
    (level : Nat) :
    Reads (readSymbols (maximalDepth - 1))
      (printer.text level (.object record.symbols)) record.symbols := by
  have hread := reads_map printer (by decide : 1 < maximalDepth - 1) id
    h.symbols.1 level fun symbol hsymbol =>
    reads_value printer (h.symbols.2 symbol hsymbol) (hintegers symbol hsymbol)
      (level + 1)
  simp only [id, List.map_id'] at hread
  exact hread

theorem reads_reExports (reExports : List ReExport) (level : Nat) :
    Reads (readReExports (maximalDepth - 1))
      (printer.text level (.array (reExports.map (·.toValue))))
      (some reExports) := by
  apply reads_optional_sequence printer (by decide)
  intro e _
  exact e.reads printer (maximalDepth - 6) (level + 1)

theorem reads_origins {origins : List (String × String)}
    (h : HasDistinctKeys origins) (level : Nat) :
    Reads (readOrigins (maximalDepth - 1))
      (printer.text level
        (.object (origins.map fun origin => (origin.1, .string origin.2))))
        (some origins) := by
  refine reads_optional
    (reads_map printer (by decide) Value.string h level ?_) ?_
  · intro origin _
    exact reads_text printer origin.2 (level + 1)
  · rw [printer.text_object]
    exact head?_ne_of_ne (by decide) _

theorem passesInOrder_given (h : record.IsReadable)
    (hintegers : record.HasIntegers) (level : Nat) :
    PassesInOrder (named (field (maximalDepth - 1)))
      ([("__symbolic", Value.string record.symbolic),
        ("version", .ofNat record.version.toNat),
        ("metadata", .object record.symbols)].map
        (memberText printer.gap (printer.text level))) {}
      (Draft.mk (some record.symbolic) (some record.version)
        (some record.symbols) none none none) := by
  have hsymbolic := passes_field printer (field (maximalDepth - 1))
    (reads_text printer record.symbolic level) "__symbolic"
    (fun symbolic => Draft.mk symbolic none none none none none) rfl
  have hversion := passes_field printer (field (maximalDepth - 1))
    (reads_uint32 printer record.version level) "version"
    (fun version => Draft.mk (some record.symbolic) version none none none none)
      rfl
  have hsymbols := passes_field printer (field (maximalDepth - 1))
    (reads_symbols printer h hintegers level) "metadata"
    (fun symbols => Draft.mk (some record.symbolic) (some record.version)
      symbols none none none) rfl
  exact .cons hsymbolic (.cons hversion (.cons hsymbols (.nil _)))

theorem record_draft (record : MetadataRecord) :
    (Draft.mk (some record.symbolic) (some record.version) (some record.symbols)
      (record.reExports.map some)
      (record.importAs.map some) (record.origins.map some)).record
        = record := by
  rcases record with ⟨symbolic, version, symbols, reExports, importAs, origins⟩
  cases reExports <;> cases importAs <;> cases origins <;> rfl

theorem reads_record (h : record.IsReadable) (hintegers : record.HasIntegers)
    (level : Nat) :
    Reads (MetadataRecord.read maximalDepth) (printer.text level record.toValue)
      record := by
  have hgiven := passesInOrder_given printer h hintegers (level + 1)
  have hreExports :=
    passesInOrder_optional printer (field (maximalDepth - 1)) record.reExports _
      (fun reExports _ => reads_reExports printer reExports (level + 1))
        "exports"
    (fun reExports =>
      Draft.mk (some record.symbolic) (some record.version)
        (some record.symbols) reExports
      none none) rfl
  have himportAs :=
    passesInOrder_optional printer (field (maximalDepth - 1)) record.importAs _
      (fun importAs _ => reads_optional_text printer importAs (level + 1))
        "importAs"
    (fun importAs =>
      Draft.mk (some record.symbolic) (some record.version)
        (some record.symbols)
      (record.reExports.map some) importAs none) rfl
  have horigins :=
    passesInOrder_optional printer (field (maximalDepth - 1)) record.origins _
      (fun origins horigins =>
        reads_origins printer (h.origins origins horigins) (level + 1))
          "origins"
    (fun origins => Draft.mk (some record.symbolic) (some record.version)
      (some record.symbols) (record.reExports.map some)
      (record.importAs.map some) origins) rfl
  have horder := ((hgiven.append hreExports).append himportAs).append horigins
  rw [← List.map_append, ← List.map_append, ← List.map_append] at horder
  refine reads_struct printer (by decide : 1 < maximalDepth) _ level horder ?_
  intro rest
  rw [record_draft]
  exact answers_pure record rest

end MetadataRecord

end Reading

/-! ## Records of a text -/

namespace MetadataRecord

structure Draft.IsReadable (draft : Draft) : Prop where
  symbols : ∀ symbols ∈ draft.symbols,
    AreDistinct (Value.IsWithin (maximalDepth - 2)) symbols
  origins : ∀ given ∈ draft.origins, ∀ origins ∈ given, HasDistinctKeys origins

theorem Draft.IsReadable.record {draft : Draft} (h : draft.IsReadable) :
    draft.record.IsReadable := by
  rcases draft with ⟨symbolic, version, symbols, reExports, importAs, origins⟩
  constructor
  · cases symbols with
    | none => exact ⟨List.nodup_nil, fun _ hmem => absurd hmem List.not_mem_nil⟩
    | some symbols => exact h.symbols symbols rfl
  · cases origins with
    | none => exact fun _ hmem => absurd hmem nofun
    | some given => exact h.origins given rfl

theorem yields_readSymbols :
    Yields (AreDistinct (Value.IsWithin (maximalDepth - 2)))
      (readSymbols (maximalDepth - 1)) :=
  yields_map (yields_value (maximalDepth - 2))

theorem yields_readOrigins :
    Yields (fun given => ∀ origins ∈ given, HasDistinctKeys origins)
      (readOrigins (maximalDepth - 1)) := by
  have hmap : Yields (AreDistinct fun _ => True)
      (map (maximalDepth - 1) fun _ => Reader.text) :=
    yields_map fun _ _ _ _ => trivial
  refine yields_optional ?_
  intro cursor origins after hrun
  exact (hmap cursor origins after hrun).1

theorem yields_field (name : String) {draft : Draft} (h : draft.IsReadable) :
    Yields Draft.IsReadable (field (maximalDepth - 1) name draft) := by
  unfold field
  split
  · exact yields_bind _ fun _ => yields_pure ⟨h.symbols, h.origins⟩
  · exact yields_bind _ fun _ => yields_pure ⟨h.symbols, h.origins⟩
  · exact (yields_once _ _ yields_readSymbols).bind fun _ hsymbols =>
      yields_pure ⟨hsymbols, h.origins⟩
  · exact yields_bind _ fun _ => yields_pure ⟨h.symbols, h.origins⟩
  · exact yields_bind _ fun _ => yields_pure ⟨h.symbols, h.origins⟩
  · exact (yields_once _ _ yields_readOrigins).bind fun _ horigins =>
      yields_pure ⟨h.symbols, horigins⟩
  · exact yields_bind _ fun _ => yields_bind _ fun _ => yields_pure h

theorem yields_inOrder : Yields IsReadable (inOrder (maximalDepth - 1)) := by
  unfold inOrder
  refine yields_bind _ fun symbolic => yields_bind _ fun version => ?_
  refine (yields_element? _ yields_readSymbols).bind fun symbols hsymbols => ?_
  refine yields_bind _ fun reExports => yields_bind _ fun importAs => ?_
  refine (yields_element? _ yields_readOrigins).bind fun origins horigins => ?_
  exact yields_pure (Draft.IsReadable.record ⟨hsymbols, horigins⟩)

theorem isReadable_of_parse_eq_ok {text : String} {record : MetadataRecord}
    (h : parse text = .ok record) :
    record.IsReadable := by
  have hread : Yields IsReadable (MetadataRecord.read maximalDepth) := by
    refine yields_struct structName ?_ (fun name _ => yields_field name)
      (fun draft hdraft => yields_pure hdraft.record) yields_inOrder
    exact ⟨nofun, nofun⟩
  exact hread.of_parse h

/-- A record that is read from a text is read again from its compact text and
from its text over several lines, whatever the record holds but numbers in
floating point. -/
theorem parse_serialized {text : String} {record : MetadataRecord}
    (h : parse text = .ok record) (hintegers : record.HasIntegers) :
    parse record.toValue.compact = .ok record ∧
      parse record.toValue.pretty = .ok record := by
  have hreadable := isReadable_of_parse_eq_ok h
  constructor
  · exact (reads_record compactPrinter hreadable hintegers 0).parse_eq_ok
  · exact (reads_record prettyPrinter hreadable hintegers 0).parse_eq_ok

/-- A record with each form of a directive, and with names that are not written
as they are. -/
def aliasesRecord : MetadataRecord where
  symbolic := moduleKind
  version := currentVersion
  symbols :=
    [("é\n", .object
      [("\"", .array [.number (.int (-1) (by decide)), .null, .bool true])])]
  reExports := some
    [⟨"./a", none⟩, ⟨"./b", some [.plain "b", .renamed "c" "d"]⟩,
      ⟨"./e", some []⟩]
  importAs := none
  origins := some []

def aliasesText : String :=
  "\x7b\"__symbolic\":\"module\",\"version\":3," ++
  "\"metadata\":\x7b\"é\\n\":\x7b\"\\\"\":[-1,null,true]\x7d\x7d," ++
  "\"exports\":[\x7b\"from\":\"./a\"\x7d," ++
    "\x7b\"from\":\"./b\",\"export\":[\"b\"," ++
      "\x7b\"name\":\"c\",\"as\":\"d\"\x7d]\x7d," ++
    "\x7b\"from\":\"./e\",\"export\":[]\x7d],\"origins\":\x7b\x7d\x7d"

theorem parse_serialized_aliases :
    parse aliasesText = .ok aliasesRecord ∧ aliasesRecord.HasIntegers ∧
      aliasesRecord.toValue.compact = aliasesText ∧
      parse aliasesRecord.toValue.compact = .ok aliasesRecord ∧
      parse aliasesRecord.toValue.pretty = .ok aliasesRecord := by
  have htext : aliasesRecord.toValue.compact = aliasesText := by decide +kernel
  have hintegers : aliasesRecord.HasIntegers := by
    refine List.forall_mem_singleton.2
      (.object (List.forall_mem_singleton.2 (.array ?_)))
    simp only [List.forall_mem_cons]
    exact ⟨.integer _ _, .null, .bool true, List.forall_mem_nil _⟩
  have hreadable : aliasesRecord.IsReadable := by
    refine ⟨⟨List.nodup_singleton _, List.forall_mem_singleton.2 ?_⟩, ?_⟩
    · refine @Value.IsWithin.object 124 _ (List.nodup_singleton _)
        (List.forall_mem_singleton.2 ?_)
      refine @Value.IsWithin.array 123 _ ?_
      simp only [List.forall_mem_cons]
      exact ⟨.number 123 _, .null 123, .bool 123 true, List.forall_mem_nil _⟩
    · intro origins horigins
      cases horigins
      exact List.nodup_nil
  have hparse : parse aliasesText = .ok aliasesRecord := by
    rw [← htext]
    exact (reads_record compactPrinter hreadable hintegers 0).parse_eq_ok
  exact ⟨hparse, hintegers, htext, parse_serialized hparse hintegers⟩

end MetadataRecord

end BuildHost
