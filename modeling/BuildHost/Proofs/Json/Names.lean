import BuildHost.Json.Reader
import BuildHost.Proofs.OrderedMap

/-!
# Names of members

A text may give a member of an object many times; the last one counts, in the
place of the first.  So no value that is read has an object with one name twice,
at any depth (`isDistinct_of_parse_eq_ok`), and its brackets nest no deeper than
the reader allows (`yields_value`).  What a reader answers is described by a
property of the answer, whatever the text is (`Yields`), and a loop keeps what
each of its rounds keeps.
-/

namespace BuildHost
namespace Json

open OrderedMap

/-- A value all of whose objects have distinct names. -/
inductive Value.IsDistinct : Value → Prop
  | null : IsDistinct .null
  | bool (b : Bool) : IsDistinct (.bool b)
  | number (n : Number) : IsDistinct (.number n)
  | string (s : String) : IsDistinct (.string s)
  | array {items : List Value} (hitems : ∀ item ∈ items, item.IsDistinct) :
      IsDistinct (.array items)
  | object {members : List (String × Value)} (hnames : HasDistinctKeys members)
      (hmembers : ∀ member ∈ members, member.2.IsDistinct) : IsDistinct
      (.object members)

/-- A value that a reader of the depth may answer: all its objects have distinct
names, and its brackets nest less deep. -/
inductive Value.IsWithin : Nat → Value → Prop
  | null (depth : Nat) : IsWithin (depth + 1) .null
  | bool (depth : Nat) (b : Bool) : IsWithin (depth + 1) (.bool b)
  | number (depth : Nat) (n : Number) : IsWithin (depth + 1) (.number n)
  | string (depth : Nat) (s : String) : IsWithin (depth + 1) (.string s)
  | array {depth : Nat} {items : List Value}
      (hitems : ∀ item ∈ items, item.IsWithin (depth + 1)) :
      IsWithin (depth + 2) (.array items)
  | object {depth : Nat} {members : List (String × Value)}
      (hnames : HasDistinctKeys members)
      (hmembers : ∀ member ∈ members, member.2.IsWithin (depth + 1)) : IsWithin
      (depth + 2) (.object members)

theorem Value.IsWithin.isDistinct {depth : Nat} {v : Value}
    (h : v.IsWithin depth) : v.IsDistinct := by
  induction h with
  | null depth => exact .null
  | bool depth b => exact .bool b
  | number depth n => exact .number n
  | string depth s => exact .string s
  | array hitems ih => exact .array ih
  | object hnames hmembers ih => exact .object hnames ih

namespace Reader

variable {α β σ : Type} {P : α → Prop} {Q : β → Prop} {S : σ → Prop}

/-! ## Answers of readers -/

/-- Whatever a reader answers has the property. -/
def Yields (P : α → Prop) (read : Reader α) : Prop :=
  ∀ cursor answer after, read cursor = .ok answer after → P answer

theorem yields_pure {answer : α} (h : P answer) :
    Yields P (pure answer : Reader α) := by
  intro cursor result after hrun
  cases hrun
  exact h

theorem yields_faultNext (cause : Cause) : Yields P (faultNext cause) := by
  intro cursor result after hrun
  cases hrun

theorem Yields.bind {read : Reader α} {next : α → Reader β} (h : Yields P read)
    (hnext : ∀ answer, P answer → Yields Q (next answer)) :
    Yields Q (read >>= next) := by
  intro cursor result after hrun
  change EStateM.bind read next cursor = _ at hrun
  unfold EStateM.bind at hrun
  cases hread : read cursor with
  | error fault middle =>
      rw [hread] at hrun
      cases hrun
  | ok answer middle =>
      rw [hread] at hrun
      exact hnext answer (h cursor answer middle hread) middle result after hrun

/-- Nothing need be known of the first answer. -/
theorem yields_bind (read : Reader α) {next : α → Reader β}
    (hnext : ∀ answer, Yields Q (next answer)) :
    Yields Q (read >>= next) := by
  have hread : Yields (fun _ => True) read := fun _ _ _ _ => trivial
  exact hread.bind fun answer _ => hnext answer

theorem yields_enclosed (close : Reader Unit) {body : Reader α}
    (h : Yields P body) :
    Yields P (enclosed close body) := by
  have hbody : Yields P (skip *> body) := yields_bind skip fun _ => h
  intro cursor result after hrun
  unfold enclosed at hrun
  cases hread : (skip *> body) cursor with
  | error fault middle =>
      rw [hread] at hrun
      cases hrun
  | ok answer middle =>
      rw [hread] at hrun
      dsimp only at hrun
      cases hclose : close middle with
      | error fault last =>
          rw [hclose] at hrun
          cases hrun
      | ok _ last =>
          rw [hclose] at hrun
          cases hrun
          exact hbody cursor result middle hread

/-! ## Loops -/

theorem yields_elements {read : σ → Reader σ}
    (hread : ∀ s, S s → Yields S (read s)) (fuel : Nat) (first : Bool) {s : σ}
    (h : S s) : Yields S (elements read fuel first s) := by
  induction fuel generalizing first s with
  | zero => exact yields_pure h
  | succ fuel ih =>
      unfold elements
      apply yields_bind
      intro more
      split
      · exact (hread s h).bind fun next hnext => ih false hnext
      · exact yields_pure h

theorem yields_members {read : String → σ → Reader σ}
    (hread : ∀ name s, S s → Yields S (read name s)) (fuel : Nat) (first : Bool)
    {s : σ} (h : S s) :
    Yields S (members read fuel first s) := by
  induction fuel generalizing first s with
  | zero => exact yields_pure h
  | succ fuel ih =>
      unfold members
      apply yields_bind
      intro more
      split
      · apply yields_bind
        intro name
        exact (hread name s h).bind fun next hnext => ih false hnext
      · exact yields_pure h

/-- The items that are read so far. -/
theorem yields_items {read : Reader α} (h : Yields P read) (fuel : Nat) :
    Yields (fun items => ∀ item ∈ items, P item)
      (elements (fun items => do return (← read) :: items) fuel true []) := by
  apply yields_elements
  · intro items hitems
    exact h.bind fun a ha => yields_pure (List.forall_mem_cons.2 ⟨ha, hitems⟩)
  · intro item hitem
    cases hitem

/-- Whether the names are distinct and what they name has the property. -/
def AreDistinct (P : α → Prop) (entries : List (String × α)) : Prop :=
  HasDistinctKeys entries ∧ ∀ entry ∈ entries, P entry.2

theorem areDistinct_insert {entries : List (String × α)}
    (h : AreDistinct P entries) (name : String) {a : α} (ha : P a) :
    AreDistinct P (insert name a entries) := by
  refine ⟨h.1.insert name a, ?_⟩
  intro entry hentry
  rcases mem_of_mem_insert hentry with rfl | hentry
  · exact ha
  · exact h.2 entry hentry

theorem yields_entries {read : Reader α} (h : Yields P read) (fuel : Nat) :
    Yields (AreDistinct P)
      (members (fun name entries => do
        colon
        return insert name (← read) entries) fuel true []) := by
  apply yields_members
  · intro name entries hentries
    exact yields_bind _ fun _ => h.bind fun a ha =>
      yields_pure (areDistinct_insert hentries name ha)
  · refine ⟨List.nodup_nil, ?_⟩
    intro entry hentry
    cases hentry

/-! ## Any value -/

/-- Reading a value gives every name in an object once: induction on how deep
brackets may nest. -/
theorem yields_value (depth : Nat) :
    Yields (Value.IsWithin depth) (value depth) := by
  unfold value
  induction depth with
  | zero => exact yields_faultNext _
  | succ depth ih =>
      unfold anyValue
      apply yields_bind
      intro token
      split
      · exact yields_faultNext _
      · exact yields_bind _ fun _ => yields_bind _ fun _ =>
          yields_pure (.null depth)
      · exact yields_bind _ fun _ => yields_bind _ fun _ =>
          yields_pure (.bool depth true)
      · exact yields_bind _ fun _ => yields_bind _ fun _ =>
          yields_pure (.bool depth false)
      · exact yields_bind _ fun _ => yields_bind _ fun n =>
          yields_pure (.number depth n)
      · exact yields_bind _ fun s => yields_pure (.string depth s)
      · cases depth with
        | zero => exact yields_faultNext _
        | succ depth =>
            apply yields_enclosed
            exact yields_bind _ fun fuel =>
              (yields_items ih fuel).bind fun items hitems =>
              yields_pure
                (.array fun item hitem =>
                  hitems item (List.mem_reverse.1 hitem))
      · cases depth with
        | zero => exact yields_faultNext _
        | succ depth =>
            apply yields_enclosed
            exact yields_bind _ fun fuel =>
              (yields_entries ih fuel).bind fun entries hentries =>
              yields_pure (.object hentries.1 hentries.2)
      · split
        · exact yields_bind _ fun n => yields_pure (.number depth n)
        · exact yields_faultNext _

/-! ## Values of a wanted kind -/

theorem yields_faultHere (cause : Cause) : Yields P (faultHere cause) := by
  intro cursor result after hrun
  cases hrun

theorem yields_faultWithin (cause : Cause) : Yields P (faultWithin cause) := by
  intro cursor result after hrun
  cases hrun

theorem yields_wrongKind (wanted : String) : Yields P (wrongKind wanted) := by
  unfold wrongKind
  apply yields_bind
  intro token
  split
  · exact yields_bind _ fun _ => yields_bind _ fun _ => yields_faultHere _
  · exact yields_bind _ fun _ => yields_bind _ fun _ => yields_faultHere _
  · exact yields_bind _ fun _ => yields_bind _ fun _ => yields_faultHere _
  · exact yields_bind _ fun _ => yields_bind _ fun _ => yields_faultHere _
  · exact yields_bind _ fun _ => yields_faultHere _
  · exact yields_faultHere _
  · exact yields_faultHere _
  · split
    · exact yields_bind _ fun _ => yields_faultHere _
    · exact yields_faultNext _
  · exact yields_faultNext _

theorem yields_nested {depth : Nat} (close : Reader Unit)
    {body : Nat → Reader α} (h : Yields P (body (depth - 1))) :
    Yields P (nested depth close body) := by
  unfold nested
  split
  · exact yields_faultNext _
  · exact yields_enclosed close h

theorem yields_map {depth : Nat} {item : Nat → Reader α}
    (h : Yields P (item (depth - 1))) :
    Yields (AreDistinct P) (map depth item) := by
  unfold map
  apply yields_bind
  intro start
  split
  · exact yields_nested closeObject
      (yields_bind _ fun fuel => yields_entries h fuel)
  · exact yields_wrongKind _

theorem yields_optional {read : Reader α} (h : Yields P read) :
    Yields (fun answer => ∀ a ∈ answer, P a) (optional read) := by
  unfold optional
  apply yields_bind
  intro token
  split
  · exact yields_bind _ fun _ => yields_bind _ fun _ => yields_pure (by simp)
  · exact h.bind fun a ha => yields_pure (by simpa using ha)

theorem yields_once (name : String) (current : Option α) {read : Reader α}
    (h : Yields P read) :
    Yields (fun answer => ∀ a ∈ answer, P a) (once name current read) := by
  unfold once
  split
  · exact yields_faultWithin _
  · exact yields_bind _ fun _ => h.bind fun a ha =>
      yields_pure (by simpa using ha)

theorem yields_element? (first : Bool) {read : Reader α} (h : Yields P read) :
    Yields (fun answer => ∀ a ∈ answer, P a) (element? first read) := by
  unfold element?
  apply yields_bind
  intro more
  split
  · exact h.bind fun a ha => yields_pure (by simpa using ha)
  · exact yields_pure (by simp)

theorem yields_struct (wanted : String) {depth : Nat} {empty : σ}
    {field : Nat → String → σ → Reader σ} {finish : σ → Reader α}
    {inOrder : Nat → Reader α} (hempty : S empty)
    (hfield : ∀ name s, S s → Yields S (field (depth - 1) name s))
    (hfinish : ∀ s, S s → Yields P (finish s))
    (hinOrder : Yields P (inOrder (depth - 1))) :
    Yields P (struct wanted depth empty field finish inOrder) := by
  unfold struct
  apply yields_bind
  intro start
  split
  · exact yields_nested closeList hinOrder
  · exact yields_nested closeObject
      (yields_bind _ fun fuel =>
        (yields_members hfield fuel true hempty).bind hfinish)
  · exact yields_wrongKind _

theorem Yields.of_parse {read : Reader α} (h : Yields P read) {text : String}
    {answer : α} (hparse : Reader.parse read text = .ok answer) : P answer := by
  unfold Reader.parse at hparse
  dsimp only at hparse
  split at hparse
  next result after hrun =>
    cases hparse
    refine h.bind (fun answer hanswer => yields_bind peekToken fun token => ?_)
      _ answer after hrun
    split
    · exact yields_pure hanswer
    · exact yields_faultNext _
  next => cases hparse

end Reader

theorem isDistinct_of_parse_eq_ok {text : String} {v : Value}
    (h : Value.parse text = .ok v) :
    v.IsDistinct :=
  ((Reader.yields_value Reader.maximalDepth).of_parse h).isDistinct

end Json
end BuildHost
