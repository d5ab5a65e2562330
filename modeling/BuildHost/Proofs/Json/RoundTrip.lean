import BuildHost.Proofs.Json.Names
import BuildHost.Proofs.Json.Printer

/-!
# Values as texts and back

A reader passes the blanks that tell the texts of a value apart.  So a value of
integers that was read from a text is read again from its compact text and from
its text over several lines (`parse_compact`, `parse_pretty`).
-/

namespace BuildHost
namespace Json

open OrderedMap Reader

/-! ## Readers of a value -/

namespace Reader

variable {α : Type}

/-- The reader reads the text of a value, whatever blanks stand before it. -/
structure Reads (read : Reader α) (text : List Char) (a : α) : Prop where
  starts : StartsElement text
  passes : ∀ {blanks}, AreBlanks blanks → Passes read (blanks ++ text) a

/-- Whether a value may start with the character. -/
def IsStart (c : Char) : Prop :=
  ¬ IsBlank c ∧ c ≠ ']'

theorem reads_of_peekToken {next : Option Char → Reader α} {c : Char}
    (hc : IsStart c) {rest : List Char} {a : α}
    (h : Passes (next (some c)) (c :: rest) a) :
    Reads (peekToken >>= next) (c :: rest) a where
  starts := ⟨c, rest, rfl, hc⟩
  passes := by
    intro blanks hblanks after hafter
    rw [List.append_assoc]
    exact (answers_peekToken_cons hblanks hc.1 (rest ++ after)).bind
      (h after hafter)

theorem reads_of_valueStart {next : Char → Reader α} {c : Char} (hc : IsStart c)
    {rest : List Char} {a : α} (h : Passes (next c) (c :: rest) a) :
    Reads (valueStart >>= next) (c :: rest) a where
  starts := ⟨c, rest, rfl, hc⟩
  passes := by
    intro blanks hblanks after hafter
    rw [List.append_assoc]
    have hstart : Answers valueStart (blanks ++ (c :: rest ++ after)) c
        (c :: rest ++ after) :=
      (answers_peekToken_cons hblanks hc.1 (rest ++ after)).bind
        (answers_pure c _)
    exact hstart.bind (h after hafter)

/-- Behind the value there is nothing more. -/
theorem Reads.answers_whole {read : Reader α} {text : List Char} {a : α}
    (h : Reads read text a) :
    Answers (do
      let a ← read
      match ← peekToken with
      | none => return a
      | some _ => faultNext .trailingCharacters) text a [] := by
  have hend : EndsNumber [] := by
    intro c hc
    cases hc
  have htoken : Answers peekToken [] none [] := by
    apply answers_peekToken areBlanks_nil
    intro c hc
    cases hc
  have hread := h.passes areBlanks_nil [] hend
  rw [List.nil_append, List.append_nil] at hread
  exact hread.bind (htoken.bind (answers_pure a []))

theorem Reads.parse_eq_ok {read : Reader α} {text : List Char} {a : α}
    (h : Reads read text a) :
    Reader.parse read (String.ofList text) = .ok a := by
  rcases h.answers_whole ⟨1, 0⟩ with ⟨last, hrun⟩
  unfold Reader.parse Cursor.start
  rw [String.toList_ofList]
  dsimp only
  split
  next b cursor hb =>
    cases hb.symm.trans hrun
    rfl
  next fault cursor hfault => cases hfault.symm.trans hrun

theorem passes_string (s : String) : Passes string (stringText s) s :=
  fun after _ => answers_string s after

theorem Passes.map {β : Type} {read : Reader α} {text : List Char} {a : α}
    (h : Passes read text a) (f : α → β) :
    Passes (do return f (← read)) text (f a) :=
  fun after hafter => (h after hafter).bind (answers_pure (f a) after)

end Reader

/-! ## Numbers -/

/-- A value without numbers in floating point. -/
inductive Value.HasIntegers : Value → Prop
  | null : HasIntegers .null
  | bool (b : Bool) : HasIntegers (.bool b)
  | integer (n : Int)
      (fits : -0x8000000000000000 ≤ n ∧ n < 0x10000000000000000) :
      HasIntegers (.number (.int n fits))
  | string (s : String) : HasIntegers (.string s)
  | array {items : List Value} (hitems : ∀ item ∈ items, item.HasIntegers) :
      HasIntegers (.array items)
  | object {members : List (String × Value)}
      (hmembers : ∀ member ∈ members, member.2.HasIntegers) :
      HasIntegers (.object members)

theorem text_int_ofNat (n : Nat) (fits) :
    (Number.int n fits).text.toList = Nat.toDigits 10 n := by
  show (toString n).toList = _
  rw [Nat.toString_eq_ofList_toDigits, String.toList_ofList]

theorem text_int_negSucc (n : Nat) (fits) :
    (Number.int (.negSucc n) fits).text.toList
      = '-' :: Nat.toDigits 10 (n + 1) := by
  show ("-" ++ toString (n + 1)).toList = _
  rw [Nat.toString_eq_ofList_toDigits, String.toList_append]
  exact congrArg (['-'] ++ ·) String.toList_ofList

theorem exists_toDigits_eq_cons (n : Nat) :
    ∃ c ds, Nat.toDigits 10 n = c :: ds ∧ c.isDigit := by
  cases hdigits : Nat.toDigits 10 n with
  | nil => exact absurd hdigits Nat.toDigits_ne_nil
  | cons c ds =>
      have hmem : c ∈ Nat.toDigits 10 n := hdigits ▸ List.mem_cons_self
      exact ⟨c, ds, rfl,
        Nat.isDigit_of_mem_toDigits (by decide) (by decide) hmem⟩

theorem ne_of_isDigit {c d : Char} (hc : c.isDigit) (hd : d.isDigit = false) :
    c ≠ d := by
  rintro rfl
  rw [hc] at hd
  cases hd

theorem isStart_of_isDigit {c : Char} (hc : c.isDigit) : IsStart c :=
  ⟨not_isBlank ⟨ne_of_isDigit hc rfl, ne_of_isDigit hc rfl,
    ne_of_isDigit hc rfl, ne_of_isDigit hc rfl⟩, ne_of_isDigit hc rfl⟩

theorem ofInt?_eq_some {n : Int}
    (fits : -0x8000000000000000 ≤ n ∧ n < 0x10000000000000000) :
    Number.ofInt? n = some (.int n fits) :=
  dif_pos fits

theorem passes_ofNat (n : Nat) (fits) :
    Passes (number false) (Nat.toDigits 10 n) (.int n fits) := by
  have hn : n < UInt64.size := by
    have := fits.2
    simp only [UInt64.size] at this ⊢
    omega
  have hinteger : integerNumber? false n = some (.int n fits) := by
    unfold integerNumber?
    rw [if_neg Bool.false_ne_true]
    exact ofInt?_eq_some fits
  intro after hafter
  exact answers_number hn hinteger hafter

theorem passes_negSucc (n : Nat) (fits) :
    Passes (number true) (Nat.toDigits 10 (n + 1))
      (.int (.negSucc n) fits) := by
  have hn : n + 1 < UInt64.size := by
    have := fits.1
    simp only [UInt64.size, Int.negSucc_eq] at this ⊢
    omega
  have hinteger : integerNumber? true (n + 1)
      = some (.int (.negSucc n) fits) := by
    unfold integerNumber?
    rw [if_pos rfl, if_neg (Nat.succ_ne_zero n)]
    exact ofInt?_eq_some fits
  intro after hafter
  exact answers_number hn hinteger hafter

/-! ## Reading values -/

section Reading

variable (printer : Printer)
  {add : String → Value → List (String × Value) → List (String × Value)}

theorem reads_integer (depth : Nat) (n : Int)
    (fits : -0x8000000000000000 ≤ n ∧ n < 0x10000000000000000) :
    Reads (anyValue add (depth + 1)) (Number.int n fits).text.toList
      (.number (.int n fits)) := by
  unfold anyValue
  cases n with
  | ofNat n =>
      rw [show (Number.int (.ofNat n) fits).text.toList
        = Nat.toDigits 10 n from text_int_ofNat n fits]
      have hread := (passes_ofNat n fits).map Value.number
      rcases exists_toDigits_eq_cons n with ⟨c, ds, hdigits, hc⟩
      rw [hdigits] at hread ⊢
      refine reads_of_peekToken (isStart_of_isDigit hc) ?_
      split
      next heq => cases heq
      next heq => exact absurd (Option.some.inj heq) (ne_of_isDigit hc rfl)
      next heq => exact absurd (Option.some.inj heq) (ne_of_isDigit hc rfl)
      next heq => exact absurd (Option.some.inj heq) (ne_of_isDigit hc rfl)
      next heq => exact absurd (Option.some.inj heq) (ne_of_isDigit hc rfl)
      next heq => exact absurd (Option.some.inj heq) (ne_of_isDigit hc rfl)
      next heq => exact absurd (Option.some.inj heq) (ne_of_isDigit hc rfl)
      next heq => exact absurd (Option.some.inj heq) (ne_of_isDigit hc rfl)
      next d _ _ _ _ _ _ _ hd =>
        cases hd
        rw [if_pos hc]
        exact hread
  | negSucc n =>
      rw [text_int_negSucc]
      have hread := (passes_negSucc n fits).map Value.number
      refine reads_of_peekToken ⟨not_isBlank (by decide), by decide⟩ ?_
      intro after hafter
      exact (answers_skip '-' _).bind (hread after hafter)

theorem passesInOrder_items {α : Type} {read : Reader α} (text : α → List Char)
    (items : List α) (h : ∀ item ∈ items, Reads read (text item) item)
    (start : List α) :
    PassesInOrder (fun answers => do return (← read) :: answers)
      (items.map text) start (items.reverse ++ start) := by
  induction items generalizing start with
  | nil => exact .nil start
  | cons item rest ih =>
      have hfirst := ((h item List.mem_cons_self).passes areBlanks_nil).map
        (· :: start)
      have hrest := ih
        (fun other hother => h other (List.mem_cons_of_mem item hother))
        (item :: start)
      rw [List.map_cons, List.reverse_cons, List.append_assoc]
      exact .cons hfirst hrest

/-- Adding a name that is new puts it behind the others. -/
def AddsBehind {β : Type}
    (add : String → β → List (String × β) → List (String × β)) : Prop :=
  ∀ name a entries, name ∉ entries.map (·.1) →
    add name a entries = entries ++ [(name, a)]

theorem answers_colon (rest : List Char) :
    Answers colon (':' :: rest) () rest :=
  (answers_peekToken_cons areBlanks_nil (not_isBlank (by decide)) rest).bind
    (answers_skip ':' rest)

theorem passes_behindColon {α β : Type} {read : Reader α} {text : List Char}
    {a : α} (h : Reads read text a) (f : α → β) :
    Passes (do colon; return f (← read)) (':' :: (printer.gap ++ text)) (f a) :=
  fun after hafter =>
    (answers_colon _).bind
      ((h.passes printer.areBlanks_gap after hafter).bind
        (answers_pure (f a) after))

theorem passes_member {σ : Type} (read : String → σ → Reader σ) {name : String}
    {s next : σ} {behind : List Char} (h : Passes (read name s) behind next) :
    Passes (named read s) (stringText name ++ behind) next := by
  intro after hafter
  rw [List.append_assoc]
  exact (answers_string name _).bind (h after hafter)

theorem passesInOrder_members {α : Type}
    {add : String → α → List (String × α) → List (String × α)}
    (hadd : AddsBehind add) {read : Reader α} (text : α → List Char)
    (members : List (String × α))
    (h : ∀ member ∈ members, Reads read (text member.2) member.2)
    (start : List (String × α))
    (hnames : (start.map (·.1) ++ members.map (·.1)).Nodup) :
    PassesInOrder
      (named fun name entries => do colon; return add name (← read) entries)
      (members.map (memberText printer.gap text)) start (start ++ members) := by
  induction members generalizing start with
  | nil =>
      rw [List.append_nil]
      exact .nil start
  | cons member rest ih =>
      have hfresh : member.1 ∉ start.map (·.1) := by
        intro hmem
        exact (List.disjoint_of_nodup_append hnames) hmem List.mem_cons_self
      have hfirst := passes_member
        (fun name entries => do colon; return add name (← read) entries)
        (passes_behindColon printer (h member List.mem_cons_self)
          (add member.1 · start))
      rw [hadd _ _ _ hfresh] at hfirst
      have hothers := ih
        (fun other hother => h other (List.mem_cons_of_mem member hother))
        (start ++ [member]) (by simpa using hnames)
      rw [List.append_assoc, List.singleton_append] at hothers
      exact .cons hfirst hothers

theorem reads_array {depth : Nat} {items : List Value} {level : Nat}
    (h : ∀ item ∈ items,
      Reads (anyValue add (depth + 1)) (printer.text (level + 1) item) item) :
    Reads (anyValue add (depth + 2)) (printer.text level (.array items))
      (.array items) := by
  rw [printer.text_array]
  unfold anyValue
  refine reads_of_peekToken ⟨not_isBlank (by decide), by decide⟩ ?_
  have horder := passesInOrder_items (printer.text (level + 1)) items h []
  have hstarts : ∀ text ∈ items.map (printer.text (level + 1)),
      StartsElement text := by
    intro text htext
    rcases List.mem_map.1 htext with ⟨item, hitem, rfl⟩
    exact (h item hitem).starts
  show Passes (if depth + 1 = 0 then _ else _) _ _
  rw [if_neg (Nat.succ_ne_zero depth)]
  refine passes_list (printer.areBlanks_before _) (printer.areBlanks_before _)
    hstarts horder ?_
  intro text
  rw [List.append_nil, List.reverse_reverse]
  exact answers_pure _ text

theorem reads_members (hadd : AddsBehind add) {depth : Nat}
    {members : List (String × Value)} {level : Nat}
    (hnames : (members.map (·.1)).Nodup) (h : ∀ member ∈ members,
      Reads (anyValue add (depth + 1)) (printer.text (level + 1) member.2)
        member.2) :
    Reads (anyValue add (depth + 2)) (printer.text level (.object members))
      (.object members) := by
  rw [printer.text_object]
  unfold anyValue
  refine reads_of_peekToken ⟨not_isBlank (by decide), by decide⟩ ?_
  have horder := passesInOrder_members printer hadd (printer.text (level + 1))
    members h [] hnames
  show Passes (if depth + 1 = 0 then _ else _) _ _
  rw [if_neg (Nat.succ_ne_zero depth)]
  exact passes_object (printer.areBlanks_before _) (printer.areBlanks_before _)
    (fun _ => startsMember_of_mem_map) horder
    (answers_pure (Value.object members))

theorem reads_anyValue (hadd : AddsBehind add) {depth : Nat} {v : Value}
    (hv : v.IsWithin depth) (hintegers : v.HasIntegers) (level : Nat) :
    Reads (anyValue add depth) (printer.text level v) v := by
  induction hv generalizing level with
  | null depth =>
      rw [printer.text_null]
      unfold anyValue
      refine reads_of_peekToken ⟨not_isBlank (by decide), by decide⟩ ?_
      intro after _
      exact (answers_skip 'n' _).bind
        ((answers_word ['u', 'l', 'l'] after).bind (answers_pure _ after))
  | bool depth b =>
      rw [printer.text_bool]
      unfold anyValue
      cases b with
      | true =>
          refine reads_of_peekToken ⟨not_isBlank (by decide), by decide⟩ ?_
          intro after _
          exact (answers_skip 't' _).bind
            ((answers_word ['r', 'u', 'e'] after).bind (answers_pure _ after))
      | false =>
          refine reads_of_peekToken ⟨not_isBlank (by decide), by decide⟩ ?_
          intro after _
          exact (answers_skip 'f' _).bind
            ((answers_word ['a', 'l', 's', 'e'] after).bind
              (answers_pure _ after))
  | number depth n =>
      rw [printer.text_number]
      cases hintegers with
      | integer n fits => exact reads_integer depth n fits
  | string depth s =>
      rw [printer.text_string]
      unfold anyValue
      exact reads_of_peekToken ⟨not_isBlank (by decide), by decide⟩
        ((passes_string s).map Value.string)
  | @array depth items hitems ih =>
      apply reads_array
      cases hintegers with
      | array hintegers =>
          exact fun item hitem =>
            ih item hitem (hintegers item hitem) (level + 1)
  | @object depth members hnames hmembers ih =>
      apply reads_members printer hadd hnames
      cases hintegers with
      | object hintegers =>
          exact fun member hmember =>
            ih member hmember (hintegers member hmember) (level + 1)

theorem addsBehind_insert {α : Type} :
    AddsBehind (@OrderedMap.insert String α _) := by
  intro name a entries hfresh
  induction entries with
  | nil => rfl
  | cons entry rest ih =>
      rw [List.map_cons, List.mem_cons, not_or] at hfresh
      rw [OrderedMap.insert, if_neg (Ne.symm hfresh.1), ih hfresh.2,
        List.cons_append]

theorem reads_value {depth : Nat} {v : Value} (hv : v.IsWithin depth)
    (hintegers : v.HasIntegers) (level : Nat) :
    Reads (value depth) (printer.text level v) v :=
  reads_anyValue printer addsBehind_insert hv hintegers level

theorem reads_rawValue {depth : Nat} {v : Value} (hv : v.IsWithin depth)
    (hintegers : v.HasIntegers) (level : Nat) :
    Reads (rawValue depth) (printer.text level v) v :=
  reads_anyValue printer (fun _ _ _ _ => rfl) hv hintegers level

end Reading

theorem parse_text (printer : Printer) {text : String} {v : Value}
    (h : Value.parse text = .ok v) (hintegers : v.HasIntegers) :
    Value.parse (String.ofList (printer.text 0 v)) = .ok v :=
  (reads_value printer ((yields_value maximalDepth).of_parse h) hintegers
    0).parse_eq_ok

/-- A value of integers that is read from a text is read again from its compact
text. -/
theorem parse_compact {text : String} {v : Value} (h : Value.parse text = .ok v)
    (hintegers : v.HasIntegers) :
    Value.parse v.compact = .ok v :=
  parse_text compactPrinter h hintegers

theorem parse_pretty {text : String} {v : Value} (h : Value.parse text = .ok v)
    (hintegers : v.HasIntegers) :
    Value.parse v.pretty = .ok v :=
  parse_text prettyPrinter h hintegers

end Json
end BuildHost
