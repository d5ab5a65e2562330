import BuildHost.OrderedMap
import Mathlib.Data.List.Nodup

/-!
# Keys and values of ordered maps

Inserting changes what is found under one key and keeps the keys that are there
in their places.  Of entries that are inserted one after the other the last one
of a key stays, or the first one where only new keys are inserted.
-/

namespace BuildHost
namespace OrderedMap

variable {κ α : Type}

section Lookup

variable [DecidableEq κ] [BEq κ] [LawfulBEq κ]

theorem lookup_cons (name : κ) (entry : κ × α) (rest : List (κ × α)) :
    (entry :: rest).lookup name = if name = entry.1 then some entry.2
      else rest.lookup name := by
  rcases entry with ⟨key, value⟩
  by_cases h : name = key
  · simp [h]
  · rw [List.lookup_cons, beq_false_of_ne h, if_neg h]

theorem lookup_eq_none_iff (name : κ) (entries : List (κ × α)) :
    entries.lookup name = none ↔ name ∉ entries.map (·.1) := by
  induction entries with
  | nil => simp
  | cons entry rest ih =>
      rw [lookup_cons, List.map_cons, List.mem_cons, not_or]
      by_cases h : name = entry.1
      · simp [h]
      · simp [h, ih]

theorem mem_map_fst_of_lookup_eq_some {name : κ} {value : α}
    {entries : List (κ × α)} (h : entries.lookup name = some value) :
    name ∈ entries.map (·.1) := by
  by_cases hmem : name ∈ entries.map (·.1)
  · exact hmem
  · rw [(lookup_eq_none_iff name entries).2 hmem] at h
    cases h

theorem isSome_lookup_iff {name : κ} {entries : List (κ × α)} :
    (entries.lookup name).isSome = true ↔ name ∈ entries.map (·.1) := by
  rw [Option.isSome_iff_ne_none, Ne, lookup_eq_none_iff, not_not]

theorem lookup_append_singleton (name : κ) (entries : List (κ × α))
    (entry : κ × α) : (entries ++ [entry]).lookup name
      = (entries.lookup name).or (if name = entry.1 then some entry.2
        else none) := by
  rw [List.lookup_append, lookup_cons]
  rfl

theorem lookup_insert (key : κ) (value : α) (entries : List (κ × α))
    (name : κ) : (insert key value entries).lookup name
      = if name = key then some value else entries.lookup name := by
  induction entries with
  | nil =>
      rw [insert, lookup_cons]
  | cons entry rest ih =>
      rw [insert]
      by_cases hentry : entry.1 = key
      · rw [if_pos hentry, lookup_cons, lookup_cons]
        by_cases hname : name = key
        · rw [if_pos hname, if_pos hname]
        · rw [if_neg hname, if_neg hname, if_neg (hentry ▸ hname)]
      · rw [if_neg hentry, lookup_cons, lookup_cons, ih]
        by_cases hname : name = entry.1
        · rw [if_pos hname, if_pos hname, if_neg (hname ▸ hentry)]
        · rw [if_neg hname, if_neg hname]

end Lookup

variable [DecidableEq κ]

theorem map_fst_insert (key : κ) (value : α) (entries : List (κ × α)) :
    (insert key value entries).map (·.1)
      = if key ∈ entries.map (·.1) then entries.map (·.1)
        else entries.map (·.1) ++ [key] := by
  induction entries with
  | nil => simp [insert]
  | cons entry rest ih =>
      rw [insert]
      by_cases hentry : entry.1 = key
      · simp [hentry]
      · rw [if_neg hentry, List.map_cons, ih, List.map_cons]
        by_cases hmem : key ∈ rest.map (·.1)
        · rw [if_pos hmem, if_pos (List.mem_cons_of_mem _ hmem)]
        · have hcons : key ∉ entry.1 :: rest.map (·.1) := by
            rw [List.mem_cons, not_or]
            exact ⟨Ne.symm hentry, hmem⟩
          rw [if_neg hmem, if_neg hcons, List.cons_append]

theorem mem_map_fst_insert {key name : κ} {value : α} {entries : List (κ × α)} :
    name ∈ (insert key value entries).map (·.1) ↔
      name = key ∨ name ∈ entries.map (·.1) := by
  rw [map_fst_insert]
  by_cases hmem : key ∈ entries.map (·.1)
  · rw [if_pos hmem]
    refine ⟨.inr, ?_⟩
    rintro (rfl | hname)
    · exact hmem
    · exact hname
  · rw [if_neg hmem, List.mem_append, List.mem_singleton, or_comm]

theorem map_fst_insertNew (key : κ) (value : α) (entries : List (κ × α)) :
    (insertNew key value entries).map (·.1)
      = if key ∈ entries.map (·.1) then entries.map (·.1)
        else entries.map (·.1) ++ [key] := by
  unfold insertNew
  cases hfound : entries.lookup key with
  | none =>
      rw [lookup_eq_none_iff] at hfound
      simp [hfound]
  | some old =>
      have hmem := mem_map_fst_of_lookup_eq_some hfound
      rw [if_pos hmem, if_pos Option.isSome_some]

theorem mem_of_mem_insert {key : κ} {value : α} {entries : List (κ × α)}
    {entry : κ × α} (h : entry ∈ insert key value entries) :
    entry = (key, value) ∨ entry ∈ entries := by
  induction entries with
  | nil => exact .inl (List.mem_singleton.1 h)
  | cons first rest ih =>
      rw [insert] at h
      by_cases hfirst : first.1 = key
      · rw [if_pos hfirst] at h
        exact (List.mem_cons.1 h).imp_right (List.mem_cons_of_mem first)
      · rw [if_neg hfirst] at h
        rcases List.mem_cons.1 h with rfl | h
        · exact .inr List.mem_cons_self
        · exact (ih h).imp_right (List.mem_cons_of_mem first)

/-! ## Entries that are inserted one after the other -/

def HasDistinctKeys (entries : List (κ × α)) : Prop :=
  (entries.map (·.1)).Nodup

theorem HasDistinctKeys.of_map_fst_eq {key : κ} {entries after : List (κ × α)}
    (h : HasDistinctKeys entries)
    (hafter : after.map (·.1)
      = if key ∈ entries.map (·.1) then entries.map (·.1)
        else entries.map (·.1) ++ [key]) :
    HasDistinctKeys after := by
  unfold HasDistinctKeys
  rw [hafter]
  by_cases hmem : key ∈ entries.map (·.1)
  · rw [if_pos hmem]
    exact h
  · rw [if_neg hmem]
    exact List.Nodup.append h (List.nodup_singleton key)
      (List.disjoint_singleton.2 hmem)

theorem HasDistinctKeys.insert {entries : List (κ × α)}
    (h : HasDistinctKeys entries) (key : κ) (value : α) :
    HasDistinctKeys (insert key value entries) :=
  h.of_map_fst_eq (map_fst_insert key value entries)

theorem HasDistinctKeys.insertNew {entries : List (κ × α)}
    (h : HasDistinctKeys entries) (key : κ) (value : α) :
    HasDistinctKeys (insertNew key value entries) :=
  h.of_map_fst_eq (map_fst_insertNew key value entries)

/-- Under distinct keys every entry is found under its key. -/
theorem lookup_eq_some_iff {κ : Type} [DecidableEq κ] [BEq κ] [LawfulBEq κ]
    {entries : List (κ × α)} (h : HasDistinctKeys entries) {name : κ}
    {value : α} :
    entries.lookup name = some value ↔ (name, value) ∈ entries := by
  induction entries with
  | nil => simp
  | cons entry rest ih =>
      rcases List.nodup_cons.1 h with ⟨hfresh, hrest⟩
      rw [lookup_cons, List.mem_cons]
      by_cases hname : name = entry.1
      · subst hname
        rw [if_pos rfl, Option.some_inj]
        constructor
        · rintro rfl
          exact .inl rfl
        · rintro (heq | hmem)
          · exact (congrArg Prod.snd heq).symm
          · exact absurd (List.mem_map_of_mem hmem) hfresh
      · rw [if_neg hname, ih hrest]
        exact (or_iff_right fun heq => hname (congrArg Prod.fst heq)).symm

theorem lookup_eq_of_perm {κ : Type} [DecidableEq κ] [BEq κ] [LawfulBEq κ]
    {entries other : List (κ × α)} (h : HasDistinctKeys entries)
    (hperm : other.Perm entries) (name : κ) :
    other.lookup name = entries.lookup name := by
  have hother : HasDistinctKeys other := (hperm.map _).nodup_iff.2 h
  ext value
  rw [lookup_eq_some_iff hother, lookup_eq_some_iff h, hperm.mem_iff]

end OrderedMap
end BuildHost
