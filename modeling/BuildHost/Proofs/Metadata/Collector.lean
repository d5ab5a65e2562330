import BuildHost.Metadata.Collector
import BuildHost.Proofs.OrderedMap

/-!
# Records that are collected

A text may declare and export one name many times, and its record describes
every name once (`hasDistinctKeys_recordOf`): each statement leaves it so
(`hasDistinctKeys_addItem`).
-/

namespace BuildHost

namespace Collector

open Json Script OrderedMap

theorem hasDistinctKeys_addItem {record : MetadataRecord}
    (h : HasDistinctKeys record.symbols) (item : Item) :
    HasDistinctKeys (addItem record item).symbols := by
  cases item with
  | exported declaration =>
      refine List.foldlRecOn (motive := HasDistinctKeys) _ _ h ?_
      intro symbols hsymbols symbol _
      exact hsymbols.insert symbol.1 symbol.2
  | exportedNames specifiers =>
      refine List.foldlRecOn (motive := HasDistinctKeys) _ _ h ?_
      intro symbols hsymbols specifier _
      exact hsymbols.insertNew specifier.publicName _
  | reExported source specifiers => exact h
  | reExportedAll source name =>
      cases name with
      | none => exact h
      | some publicName => exact h
  | exportedDefault => exact h
  | other => exact h

theorem hasDistinctKeys_recordOf (items : List Item) :
    HasDistinctKeys (recordOf items).symbols := by
  refine List.foldlRecOn
    (motive := fun record : MetadataRecord => HasDistinctKeys record.symbols)
      items addItem ?_ ?_
  · exact List.nodup_nil
  · intro record hrecord item _
    exact hasDistinctKeys_addItem hrecord item

end Collector

namespace MetadataCollector

/-- Whether the collector describes every name once, whatever file it is
given. -/
def HasDistinctNames (collector : MetadataCollector) : Prop :=
  ∀ file, ∀ record ∈ collector file, OrderedMap.HasDistinctKeys record.symbols

theorem hasDistinctNames_ofText : HasDistinctNames ofText := by
  intro file record hrecord
  rw [Option.mem_def, ofText] at hrecord
  rcases Option.bind_eq_some_iff.1 hrecord with ⟨items, _, hitems⟩
  by_cases hempty : (Collector.recordOf items).isEmpty = true
  · rw [if_pos hempty] at hitems
    cases hitems
  · rw [if_neg hempty] at hitems
    cases hitems
    exact Collector.hasDistinctKeys_recordOf items

end MetadataCollector
end BuildHost
