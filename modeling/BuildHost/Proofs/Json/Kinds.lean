import BuildHost.Proofs.Json.RoundTrip

/-!
# Values of a wanted kind as texts and back

A reader of a wanted kind reads what a value of that kind is written as:
strings, numbers of 32 bits, lists, maps (`reads_map`), and structures whose
members fill the fields of a draft one after the other (`reads_struct`).
-/

namespace BuildHost
namespace Json
namespace Reader

open OrderedMap

variable {α β σ : Type} (printer : Printer)

theorem Reads.followedBy {read : Reader α} {next : α → Reader β}
    {text : List Char} {a : α} {b : β} (h : Reads read text a)
    (hnext : ∀ rest, Answers (next a) rest b rest) :
    Reads (read >>= next) text b where
  starts := h.starts
  passes := fun hblanks after hafter =>
    (h.passes hblanks after hafter).bind (hnext after)

theorem reads_text (s : String) (level : Nat) :
    Reads text (printer.text level (.string s)) s := by
  rw [printer.text_string]
  exact reads_of_valueStart ⟨not_isBlank (by decide), by decide⟩
    (passes_string s)

theorem reads_optional {read : Reader α} {text : List Char} {a : α}
    (h : Reads read text a) (hnull : text.head? ≠ some 'n') :
    Reads (optional read) text (some a) := by
  rcases h.starts with ⟨c, rest, rfl, hc⟩
  refine reads_of_peekToken hc ?_
  split
  next heq => exact absurd heq hnull
  next =>
    have hread := h.passes areBlanks_nil
    exact hread.map some

theorem head?_ne_of_ne {c d : Char} (h : c ≠ d) (rest : List Char) :
    (c :: rest).head? ≠ some d :=
  fun heq => h (Option.some.inj heq)

theorem reads_optional_text (s : String) (level : Nat) :
    Reads (optional text) (printer.text level (.string s)) (some s) := by
  refine reads_optional (reads_text printer s level) ?_
  rw [printer.text_string]
  exact head?_ne_of_ne (by decide) _

/-! ## Numbers of 32 bits -/

theorem fits_toNat (n : UInt32) :
    -0x8000000000000000 ≤ (n.toNat : Int) ∧
      (n.toNat : Int) < 0x10000000000000000 := by
  have hlt := n.toNat_lt
  omega

theorem ofNat_toNat (n : UInt32) :
    Value.ofNat n.toNat = .number (.int n.toNat (fits_toNat n)) := by
  rw [Value.ofNat, ofInt?_eq_some (fits_toNat n)]
  rfl

theorem natural32_toNat (n : UInt32) :
    natural32 (.int n.toNat (fits_toNat n)) = .ok n := by
  have hn : 0 ≤ (n.toNat : Int) ∧ (n.toNat : Int).toNat < UInt32.size :=
    ⟨Int.natCast_nonneg _, n.toNat_lt⟩
  rw [natural32, if_pos hn]
  exact congrArg Except.ok UInt32.ofNat_toNat

theorem reads_uint32 (n : UInt32) (level : Nat) :
    Reads uint32 (printer.text level (.ofNat n.toNat)) n := by
  rw [ofNat_toNat, printer.text_number, text_int_ofNat]
  have hread := passes_ofNat n.toNat (fits_toNat n)
  rcases exists_toDigits_eq_cons n.toNat with ⟨c, ds, hdigits, hc⟩
  rw [hdigits] at hread ⊢
  refine reads_of_valueStart (isStart_of_isDigit hc) ?_
  have hminus : c ≠ '-' := ne_of_isDigit hc rfl
  rw [if_pos (.inr hc), if_neg hminus, decide_eq_false hminus]
  intro after hafter
  refine (hread after hafter).bind ?_
  rw [natural32_toNat]
  exact answers_pure n after

/-! ## Lists and maps -/

section Brackets

variable {depth : Nat} {item : Nat → Reader α}

theorem reads_sequence (hdepth : 1 < depth) (encode : α → Value)
    (items : List α) (level : Nat)
    (h : ∀ a ∈ items,
      Reads (item (depth - 1)) (printer.text (level + 1) (encode a)) a) :
    Reads (sequence depth item) (printer.text level (.array (items.map encode)))
      items := by
  rw [printer.text_array, List.map_map]
  refine reads_of_valueStart ⟨not_isBlank (by decide), by decide⟩ ?_
  show Passes (if depth ≤ 1 then _ else _) _ _
  rw [if_neg (Nat.not_le.2 hdepth)]
  refine passes_list (printer.areBlanks_before _)
    (printer.areBlanks_before _) ?_
    (passesInOrder_items (printer.text (level + 1) ∘ encode) items h []) ?_
  · intro text htext
    rcases List.mem_map.1 htext with ⟨a, ha, rfl⟩
    exact (h a ha).starts
  · intro text
    rw [List.append_nil, List.reverse_reverse]
    exact answers_pure items text

theorem reads_optional_sequence (hdepth : 1 < depth) (encode : α → Value)
    (items : List α) (level : Nat)
    (h : ∀ a ∈ items,
      Reads (item (depth - 1)) (printer.text (level + 1) (encode a)) a) :
    Reads (optional (sequence depth item))
      (printer.text level (.array (items.map encode))) (some items) := by
  refine reads_optional (reads_sequence printer hdepth encode items level h) ?_
  rw [printer.text_array]
  exact head?_ne_of_ne (by decide) _

theorem reads_map (hdepth : 1 < depth) (encode : α → Value)
    {entries : List (String × α)} (hnames : HasDistinctKeys entries)
    (level : Nat)
    (h : ∀ entry ∈ entries,
      Reads (item (depth - 1)) (printer.text (level + 1) (encode entry.2))
      entry.2) :
    Reads (map depth item)
      (printer.text level
        (.object (entries.map fun entry => (entry.1, encode entry.2))))
      entries := by
  have horder := passesInOrder_members printer addsBehind_insert
    (printer.text (level + 1) ∘ encode) entries h [] hnames
  have hobject := passes_object (printer.areBlanks_before (level + 1))
    (printer.areBlanks_before level) (fun _ => startsMember_of_mem_map) horder
    (answers_pure entries)
  simp only [bind_pure] at hobject
  rw [printer.text_object, List.map_map]
  refine reads_of_valueStart ⟨not_isBlank (by decide), by decide⟩ ?_
  show Passes (if depth ≤ 1 then _ else _) _ _
  rw [if_neg (Nat.not_le.2 hdepth)]
  exact hobject

end Brackets

/-! ## Structures -/

/-- A member fills its field of a draft, which is not given yet. -/
theorem passes_field (field : String → σ → Reader σ) {read : Reader α}
    {v : Value} {a : α} {level : Nat} (h : Reads read (printer.text level v) a)
    (name : String) (draft : Option α → σ)
    (hfield : field name (draft none)
      = do return draft (← once name none read)) :
    Passes (named field (draft none))
      (memberText printer.gap (printer.text level) (name, v))
      (draft (some a)) := by
  have hread := passes_behindColon printer h some
  apply passes_member field
  rw [hfield]
  intro after hafter
  exact (hread after hafter).bind (answers_pure _ after)

/-- A member that is written only when it is there. -/
theorem passesInOrder_optional (field : String → σ → Reader σ)
    {read : Reader (Option α)} (given : Option α) (encode : α → Value)
    {level : Nat}
    (h : ∀ a ∈ given, Reads read (printer.text level (encode a)) (some a))
    (name : String) (draft : Option (Option α) → σ)
    (hfield : field name (draft none)
      = do return draft (← once name none read)) :
    PassesInOrder (named field)
      ((given.map fun a => (name, encode a)).toList.map
        (memberText printer.gap (printer.text level)))
      (draft none) (draft (given.map some)) := by
  cases given with
  | none => exact .nil _
  | some a =>
      exact .cons (passes_field printer field (h a rfl) name draft hfield)
        (.nil _)

theorem reads_struct {wanted : String} {depth : Nat} (hdepth : 1 < depth)
    {empty last : σ} {field : Nat → String → σ → Reader σ}
    {finish : σ → Reader α} {inOrder : Nat → Reader α} {a : α}
    (members : List (String × Value)) (level : Nat)
    (h : PassesInOrder (named (field (depth - 1)))
      (members.map (memberText printer.gap (printer.text (level + 1))))
        empty last)
    (hfinish : ∀ rest, Answers (finish last) rest a rest) :
    Reads (struct wanted depth empty field finish inOrder)
      (printer.text level (.object members)) a := by
  rw [printer.text_object]
  refine reads_of_valueStart ⟨not_isBlank (by decide), by decide⟩ ?_
  show Passes (if depth ≤ 1 then _ else _) _ _
  rw [if_neg (Nat.not_le.2 hdepth)]
  exact passes_object (printer.areBlanks_before _) (printer.areBlanks_before _)
    (fun _ => startsMember_of_mem_map) h hfinish

end Reader
end Json
end BuildHost
