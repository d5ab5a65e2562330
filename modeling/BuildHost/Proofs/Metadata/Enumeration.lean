import BuildHost.Proofs.Metadata.Collector
import BuildHost.Proofs.Number.Counting
import Mathlib.Data.List.Induction

/-!
# Values of the members of an enumeration

A member that states no value is one more than the member in front of it,
whatever the form of that one (`nextValue`).  What is recorded is counted
otherwise in two places: a member whose name stands in brackets is passed over
without being counted, and behind a value in parentheses nothing is counted at
all (`nextAfter_eq`).
-/

namespace BuildHost

/-! ## Members and the values that they state -/

namespace Script

/-- The natural number that a literal stands for, in parentheses or not. -/
def Expr.integer? : Expr → Option Nat
  | .number x => x.toNat?
  | .parenthesized inner => inner.integer?
  | _ => none

namespace EnumMember

/-- The value that a member states. -/
def stated? (member : EnumMember) : Option Nat :=
  member.value.bind Expr.integer?

/-- Whether the value of a member, when it states one, is a literal of fewer
than 32 bits. -/
def IsCounted (member : EnumMember) : Prop :=
  ∀ e ∈ member.value, ∃ n, e.integer? = some n ∧ n < 2 ^ 31

def isNamed (member : EnumMember) : Bool :=
  !member.isBracketed

/-- Whether a member states its value as a number without parentheses. -/
def statesBare (member : EnumMember) : Bool :=
  match member.value with
  | some (.number _) => true
  | _ => false

theorem IsCounted.cases {member : EnumMember} (h : member.IsCounted) :
    member.value = none ∨
      (∃ x n, member.value = some (.number x) ∧ x.toNat? = some n ∧
        n < 2 ^ 31) ∨
      ∃ inner n, member.value = some (.parenthesized inner) ∧
        inner.integer? = some n ∧ n < 2 ^ 31 := by
  cases hvalue : member.value with
  | none => exact .inl rfl
  | some e =>
      obtain ⟨n, hinteger, hlt⟩ := h e hvalue
      cases e with
      | number x => exact .inr (.inl ⟨x, n, rfl, hinteger, hlt⟩)
      | parenthesized inner => exact .inr (.inr ⟨inner, n, rfl, hinteger, hlt⟩)
      | _ => cases hinteger

end EnumMember
end Script

namespace Collector

open Json Script OrderedMap

/-! ## Counting the members -/

/-- The value of a member that states none and stands behind these members: one
more than that of the last of them. -/
def nextValue (members : List EnumMember) : Nat :=
  members.foldl (fun next member => Binary64.countOn (member.stated?.getD next))
    0

/-- Whether the last of these members that states a value states it without
parentheses. -/
def countsFromBare (members : List EnumMember) : Bool :=
  (members.filter (·.value.isSome)).getLast?.all EnumMember.statesBare

/-- The number that is recorded for a member that states none and stands behind
these members. -/
def nextAfter (next : Option Binary64) (members : List EnumMember) :
    Option Binary64 :=
  members.foldl (fun next member => (enumMemberValue next member).2) next

theorem enumMemberValue_of_number {member : EnumMember} {x : Binary64}
    (next : Option Binary64) (h : member.value = some (.number x)) :
    enumMemberValue next member = (numberValue x, some (x.mulAdd 1 1)) := by
  unfold enumMemberValue
  rw [h]

theorem enumMemberValue_of_parenthesized {member : EnumMember} {inner : Expr}
    (next : Option Binary64) (h : member.value = some (.parenthesized inner)) :
    enumMemberValue next member = (literalValue inner, none) := by
  unfold enumMemberValue
  rw [h]
  rfl

theorem enumMemberValue_of_none {member : EnumMember} (next : Option Binary64)
    (h : member.value = none) :
    enumMemberValue next member
      = ((next.map numberValue).getD
        (errorSymbol "Enum member has no computable value"),
          next.map (·.mulAdd 1 1)) := by
  unfold enumMemberValue
  rw [h]
  cases next <;> rfl

theorem nextValue_concat (members : List EnumMember) (member : EnumMember) :
    nextValue (members ++ [member])
      = Binary64.countOn (member.stated?.getD (nextValue members)) :=
  List.foldl_concat _ _ _ _

theorem nextAfter_concat (next : Option Binary64) (members : List EnumMember)
    (member : EnumMember) :
    nextAfter next (members ++ [member])
      = (enumMemberValue (nextAfter next members) member).2 :=
  List.foldl_concat _ _ _ _

theorem countsFromBare_concat (members : List EnumMember)
    (member : EnumMember) :
    countsFromBare (members ++ [member])
      = if member.value.isSome then member.statesBare
        else countsFromBare members := by
  unfold countsFromBare
  rw [List.filter_append]
  by_cases hvalue : member.value.isSome
  · simp [hvalue]
  · simp [hvalue]

theorem nextValue_le (members : List EnumMember) :
    nextValue members ≤ integerLimit := by
  induction members using List.reverseRecOn with
  | nil => exact Nat.zero_le _
  | append_singleton members member _ =>
      rw [nextValue_concat]
      exact Nat.min_le_right _ _

/-- The counter runs with the values of the members until one stands in
parentheses, and is set again by the next number. -/
theorem nextAfter_eq {members : List EnumMember}
    (h : ∀ member ∈ members, member.IsCounted) :
    nextAfter (some (Binary64.zero false)) members
      = if countsFromBare members then some (Binary64.ofNat (nextValue members))
        else none := by
  induction members using List.reverseRecOn with
  | nil =>
      rw [nextValue, List.foldl_nil, Binary64.ofNat, Binary64.ofRatio,
        if_pos rfl]; rfl
  | append_singleton members member ih =>
      have hmembers := ih fun other hother =>
        h other (List.mem_append_left _ hother)
      have hmember :=
        (h member (List.mem_append_right _ (List.mem_singleton_self _))).cases
      rw [nextAfter_concat, nextValue_concat, countsFromBare_concat, hmembers]
      rcases hmember with
        hvalue | ⟨x, n, hvalue, hnat, hlt⟩ | ⟨inner, n, hvalue, -, -⟩
      · -- without a value the counter goes on, if it runs
        have hstated : member.stated? = none := by
          rw [EnumMember.stated?, hvalue]; rfl
        rw [hstated, hvalue, Option.getD_none, Option.isSome_none,
          if_neg Bool.false_ne_true]
        by_cases hbare : countsFromBare members
        · rw [if_pos hbare, if_pos hbare, enumMemberValue_of_none _ hvalue,
            Option.map_some, Option.map_some,
            Binary64.mulAdd_one_ofNat (nextValue_le members)]
        · rw [if_neg hbare, if_neg hbare, enumMemberValue_of_none _ hvalue]
          rfl
      · -- a number sets the counter
        have hstated : member.stated? = some n := by
          rw [EnumMember.stated?, hvalue]; exact hnat
        have hbare : member.statesBare = true := by
          rw [EnumMember.statesBare, hvalue]
        have hcount : Binary64.countOn n = n + 1 :=
          Nat.min_eq_left (by unfold Binary64.fractionSize; omega)
        rw [hstated, hvalue, Option.getD_some, Option.isSome_some, if_pos rfl,
          if_pos hbare, hcount, enumMemberValue_of_number _ hvalue,
          Binary64.mulAdd_one hnat]
      · -- parentheses stop it
        have hbare : member.statesBare = false := by
          rw [EnumMember.statesBare, hvalue]
        rw [hvalue, Option.isSome_some, if_pos rfl, hbare,
          if_neg Bool.false_ne_true, enumMemberValue_of_parenthesized _ hvalue]

/-! ## The values that are recorded -/

theorem enumValues_append (values : List (String × Value))
    (next : Option Binary64) (before after : List EnumMember) :
    enumValues values next (before ++ after)
      = enumValues (enumValues values next before)
          (nextAfter next (before.filter EnumMember.isNamed)) after := by
  induction before generalizing values next with
  | nil => rfl
  | cons member before ih =>
      rw [List.cons_append, enumValues, enumValues]
      by_cases hname : member.isBracketed
      · rw [if_pos hname, if_pos hname,
          List.filter_cons_of_neg (by simp [EnumMember.isNamed, hname])]
        exact ih values next
      · rw [if_neg hname, if_neg hname,
          List.filter_cons_of_pos (by simp [EnumMember.isNamed, hname])]
        exact ih _ _

theorem lookup_enumValues_of_notMem (values : List (String × Value))
    (next : Option Binary64) {members : List EnumMember} {name : String}
    (h : ∀ member ∈ members, member.isBracketed = false → member.name ≠ name) :
    (enumValues values next members).lookup name = values.lookup name := by
  induction members generalizing values next with
  | nil => rfl
  | cons member members ih =>
      have hmembers :=
        fun other hother => h other (List.mem_cons_of_mem member hother)
      rw [enumValues]
      by_cases hbracketed : member.isBracketed
      · rw [if_pos hbracketed]
        exact ih values next hmembers
      · have hname : name ≠ member.name :=
          Ne.symm (h member List.mem_cons_self (Bool.eq_false_iff.2 hbracketed))
        rw [if_neg hbracketed, ih _ _ hmembers, lookup_insert, if_neg hname]

/-- What the metadata of an enumeration gives for the member of that name. -/
def memberSymbol? (enum : String) (members : List EnumMember) (name : String) :
    Option Value :=
  ((declaredSymbols (.enumeration enum members)).lookup enum).bind
    (Value.member? name)

theorem memberSymbol?_eq (enum : String) (members : List EnumMember)
    (name : String) :
    memberSymbol? enum members name
      = (enumValues [] (some (Binary64.zero false)) members).lookup name := by
  rw [memberSymbol?, declaredSymbols, OrderedMap.lookup_cons, if_pos rfl]
  rfl

/-- A member whose name does not come again is recorded with the value that the
counter gives it. -/
theorem memberSymbol?_split (enum : String) {before after : List EnumMember}
    {member : EnumMember} (hname : member.isBracketed = false)
    (hlast : ∀ other ∈ after, other.isBracketed = false →
      other.name ≠ member.name) :
    memberSymbol? enum (before ++ member :: after) member.name
      = some (enumMemberValue
          (nextAfter (some (Binary64.zero false))
            (before.filter EnumMember.isNamed)) member).1 := by
  have hnamed : ¬ member.isBracketed = true := by
    rw [hname]; exact Bool.false_ne_true
  rw [memberSymbol?_eq, enumValues_append, enumValues, if_neg hnamed,
    lookup_enumValues_of_notMem _ _ hlast, lookup_insert, if_pos rfl]

/-! ## Numbers as values -/

theorem numberValue_of_toNat? {x : Binary64} {n : Nat} (hx : x.toNat? = some n)
    (h : n < integerLimit) : numberValue x = .ofNat n := by
  unfold numberValue
  rw [hx]
  exact if_pos h

theorem numberValue_ofNat {n : Nat} (h : n < integerLimit) :
    numberValue (Binary64.ofNat n) = .ofNat n :=
  numberValue_of_toNat? (Binary64.toNat?_ofNat (Nat.le_of_lt h)) h

/-- The number at the limit is no integer any more. -/
theorem numberValue_integerLimit :
    ∃ x, numberValue (Binary64.ofNat integerLimit) = .number (.float x) := by
  have hlimit : (Binary64.ofNat integerLimit).toNat? = some integerLimit :=
    Binary64.toNat?_ofNat (Nat.le_refl _)
  refine ⟨Binary64.ofNat integerLimit, ?_⟩
  unfold numberValue
  rw [hlimit]
  exact if_neg (Nat.lt_irrefl _)

theorem ofNat_eq_int {n : Nat} (h : n < integerLimit) :
    ∃ fits, Value.ofNat n = .number (.int n fits) := by
  have fits : -0x8000000000000000 ≤ (n : Int) ∧
      (n : Int) < 0x10000000000000000 := by
    unfold integerLimit at h
    omega
  refine ⟨fits, ?_⟩
  rw [Value.ofNat, Number.ofInt?, dif_pos fits]
  rfl

theorem numberValue_ofNat_inj {m n : Nat} (hm : m ≤ integerLimit)
    (hn : n ≤ integerLimit)
    (h : numberValue (Binary64.ofNat m) = numberValue (Binary64.ofNat n)) :
    m = n := by
  obtain ⟨x, hlimit⟩ := numberValue_integerLimit
  rcases Nat.lt_or_eq_of_le hm with hm | rfl <;>
    rcases Nat.lt_or_eq_of_le hn with hn | rfl
  · obtain ⟨_, hleft⟩ := ofNat_eq_int hm
    obtain ⟨_, hright⟩ := ofNat_eq_int hn
    rw [numberValue_ofNat hm, numberValue_ofNat hn, hleft, hright,
      Value.number.injEq, Number.int.injEq] at h
    exact Int.ofNat_inj.1 h
  · obtain ⟨_, hleft⟩ := ofNat_eq_int hm
    rw [numberValue_ofNat hm, hleft, hlimit] at h
    cases h
  · obtain ⟨_, hright⟩ := ofNat_eq_int hn
    rw [numberValue_ofNat hn, hright, hlimit] at h
    cases h
  · rfl

theorem numberValue_eq (x : Binary64) :
    (∃ number, numberValue x = .number number) ∨ numberValue x = .null := by
  have hofNat : ∀ n, (∃ number, Value.ofNat n = .number number) ∨
      Value.ofNat n = .null := by
    intro n
    unfold Value.ofNat
    cases Number.ofInt? n with
    | none => exact .inr rfl
    | some number => exact .inl ⟨number, rfl⟩
  unfold numberValue
  split
  next n _ =>
    split
    · exact hofNat n
    · exact .inl ⟨_, rfl⟩
  next =>
    split
    · exact .inl ⟨_, rfl⟩
    · exact .inr rfl

theorem numberValue_ne_errorSymbol (x : Binary64) (message : String) :
    numberValue x ≠ errorSymbol message := by
  intro h
  rcases numberValue_eq x with ⟨number, hnumber⟩ | hnull
  · rw [hnumber] at h
    cases h
  · rw [hnull] at h
    cases h

/-- The value of a literal is found in any number of parentheses. -/
theorem literalValue_of_integer? {e : Expr} {n : Nat} (he : e.integer? = some n)
    (h : n < integerLimit) : literalValue e = .ofNat n := by
  fun_induction Expr.integer? e with
  | case1 x => exact numberValue_of_toNat? he h
  | case2 inner ih => rw [literalValue]; exact ih he
  | case3 => cases he

theorem enumMemberValue_of_stated {member : EnumMember} {n : Nat}
    (next : Option Binary64) (hcounted : member.IsCounted)
    (h : member.stated? = some n) :
    (enumMemberValue next member).1 = .ofNat n := by
  have hlimit : ∀ {k : Nat}, k < 2 ^ 31 → k < integerLimit := by
    unfold integerLimit
    omega
  rw [EnumMember.stated?] at h
  rcases hcounted.cases with
    hvalue | ⟨x, k, hvalue, hnat, hlt⟩ | ⟨inner, k, hvalue, hnat, hlt⟩
  · rw [hvalue] at h
    cases h
  · rw [hvalue] at h
    obtain rfl : k = n := Option.some_inj.1 (hnat.symm.trans h)
    rw [enumMemberValue_of_number next hvalue]
    exact numberValue_of_toNat? hnat (hlimit hlt)
  · rw [hvalue] at h
    obtain rfl : k = n := Option.some_inj.1 (hnat.symm.trans h)
    rw [enumMemberValue_of_parenthesized next hvalue]
    exact literalValue_of_integer? hnat (hlimit hlt)

/-- What is recorded for a member that states no value, from the members in
front of it that are named without brackets. -/
theorem memberSymbol?_of_none (enum : String) {before after : List EnumMember}
    {member : EnumMember} (hbefore : ∀ other ∈ before, other.IsCounted)
    (hname : member.isBracketed = false)
    (hlast : ∀ other ∈ after, other.isBracketed = false →
      other.name ≠ member.name)
    (hvalue : member.value = none) :
    memberSymbol? enum (before ++ member :: after) member.name
      = some (if countsFromBare (before.filter EnumMember.isNamed) then
          numberValue
            (Binary64.ofNat (nextValue (before.filter EnumMember.isNamed)))
        else errorSymbol "Enum member has no computable value") := by
  have hnamed : ∀ other ∈ before.filter EnumMember.isNamed, other.IsCounted :=
    fun other hother => hbefore other (List.mem_of_mem_filter hother)
  rw [memberSymbol?_split enum hname hlast, enumMemberValue_of_none _ hvalue,
    nextAfter_eq hnamed]
  by_cases hbare : countsFromBare (before.filter EnumMember.isNamed)
  · rw [if_pos hbare, if_pos hbare]
    rfl
  · rw [if_neg hbare, if_neg hbare]
    rfl

/-- The value that is recorded for a member is the one that it states.  One that
states none has the value behind the member in front of it exactly if the last
value stated in front of it, in a member named without brackets, stands in no
parentheses, and the members in brackets can be left out without a change of the
value; otherwise it has an error, or the value that it has without them. -/
theorem memberSymbol?_eq_iff (enum : String) {before after : List EnumMember}
    {member : EnumMember}
    (hcounted : ∀ other ∈ before ++ member :: after, other.IsCounted)
    (hname : member.isBracketed = false)
    (hlast : ∀ other ∈ after, other.isBracketed = false →
      other.name ≠ member.name) :
    let recorded := memberSymbol? enum (before ++ member :: after) member.name
    let named := before.filter EnumMember.isNamed
    (∀ n, member.stated? = some n → recorded = some (.ofNat n)) ∧
      (member.value = none →
        recorded = some (if countsFromBare named then
          numberValue (Binary64.ofNat (nextValue named))
        else errorSymbol "Enum member has no computable value") ∧
        (recorded = some (numberValue (Binary64.ofNat (nextValue before))) ↔
          countsFromBare named ∧ nextValue named = nextValue before)) ∧
      ∀ n < integerLimit, numberValue (Binary64.ofNat n) = .ofNat n := by
  intro recorded named
  have hbefore := fun other hother =>
    hcounted other (List.mem_append_left _ hother)
  have hmember := hcounted member (List.mem_append_right _ List.mem_cons_self)
  refine ⟨?stated, ?unstated, fun n => numberValue_ofNat⟩
  case stated =>
    intro n hstated
    exact (memberSymbol?_split enum hname hlast).trans
      (congrArg some (enumMemberValue_of_stated _ hmember hstated))
  case unstated =>
    intro hvalue
    have hrecorded : recorded = _ :=
      memberSymbol?_of_none enum hbefore hname hlast hvalue
    refine ⟨hrecorded, ?_⟩
    rw [hrecorded]
    by_cases hbare : countsFromBare named
    · rw [if_pos hbare, Option.some_inj]
      constructor
      · intro hsame
        exact ⟨hbare, numberValue_ofNat_inj (nextValue_le _)
          (nextValue_le _) hsame⟩
      · intro hsame
        rw [hsame.2]
    · rw [if_neg hbare, Option.some_inj]
      constructor
      · intro herror
        exact (numberValue_ne_errorSymbol _ _ herror.symm).elim
      · intro hsame
        exact (hbare hsame.1).elim

/-- Behind a number, members are counted from it, in spite of parentheses and
brackets in front of it. -/
theorem memberSymbol?_eq_iff_behindNumber :
    let before : List EnumMember :=
      [⟨"A", false, some (.parenthesized (.number (.ofNat 5)))⟩,
        ⟨"X", true, none⟩, ⟨"B", false, some (.number (.ofNat 7))⟩,
        ⟨"C", false, none⟩]
    let member : EnumMember := ⟨"D", false, none⟩
    (∀ other ∈ before ++ [member], other.IsCounted) ∧
      member.isBracketed = false ∧
      memberSymbol? "E" (before ++ [member]) "D" = some (.ofNat 9) := by
  intro before member
  have hfive : (Binary64.ofNat 5).toNat? = some 5 :=
    Binary64.toNat?_ofNat (by decide)
  have hseven : (Binary64.ofNat 7).toNat? = some 7 :=
    Binary64.toNat?_ofNat (by decide)
  have hcounted : ∀ other ∈ before ++ [member], other.IsCounted := by
    simp [before, member, EnumMember.IsCounted, Expr.integer?, hfive, hseven]
  have hnext : nextValue before = 9 := by
    simp [before, nextValue, EnumMember.stated?, Expr.integer?, hseven,
      Binary64.countOn, Binary64.fractionSize]
  have hnamed : nextValue (before.filter EnumMember.isNamed) = 9 := by
    simp [before, nextValue, EnumMember.isNamed, EnumMember.stated?,
      Expr.integer?, hseven, Binary64.countOn, Binary64.fractionSize]
  obtain ⟨-, hunstated, hvalues⟩ :=
    memberSymbol?_eq_iff "E" hcounted rfl (List.forall_mem_nil _)
  have hrecorded := (hunstated rfl).2.2 ⟨rfl, hnamed.trans hnext.symm⟩
  rw [hnext, hvalues 9 (by decide)] at hrecorded
  exact ⟨hcounted, rfl, hrecorded⟩

/-- A member in brackets moves the values behind it, and behind a value in
parentheses there is none. -/
theorem memberSymbol?_ne_nextValue :
    let bracketed : List EnumMember := [⟨"A", false, none⟩, ⟨"B", true, none⟩]
    let enclosed : List EnumMember :=
      [⟨"A", false, some (.parenthesized (.number (.ofNat 5)))⟩]
    let member : EnumMember := ⟨"C", false, none⟩
    (∀ other ∈ bracketed ++ enclosed ++ [member], other.IsCounted) ∧
      nextValue bracketed = 2 ∧
      memberSymbol? "E" (bracketed ++ [member]) "C" = some (.ofNat 1) ∧
      nextValue enclosed = 6 ∧
      memberSymbol? "E" (enclosed ++ [member]) "C"
        = some (errorSymbol "Enum member has no computable value") ∧
      Value.ofNat 1 ≠ Value.ofNat 2 := by
  intro bracketed enclosed member
  have hfive : (Binary64.ofNat 5).toNat? = some 5 :=
    Binary64.toNat?_ofNat (by decide)
  have hcounted : ∀ other ∈ bracketed ++ enclosed ++ [member],
      other.IsCounted := by
    simp [bracketed, enclosed, member, EnumMember.IsCounted,
      Expr.integer?, hfive]
  have hbare : countsFromBare (bracketed.filter EnumMember.isNamed)
      = true := rfl
  have hone : nextValue (bracketed.filter EnumMember.isNamed) = 1 := rfl
  refine ⟨hcounted, rfl, ?_, ?_, ?_, ?_⟩
  · have hbefore : ∀ other ∈ bracketed, other.IsCounted :=
      fun other hother => hcounted other (by simp [hother])
    have hrecorded : memberSymbol? "E" (bracketed ++ [member]) member.name
        = _ :=
      memberSymbol?_of_none "E" hbefore rfl (List.forall_mem_nil _) rfl
    rw [hrecorded, if_pos hbare, hone, numberValue_ofNat (by decide)]
  · simp [enclosed, nextValue, EnumMember.stated?, Expr.integer?, hfive,
      Binary64.countOn, Binary64.fractionSize]
  · have hbefore : ∀ other ∈ enclosed, other.IsCounted :=
      fun other hother => hcounted other (by simp [hother])
    have hrecorded : memberSymbol? "E" (enclosed ++ [member]) member.name = _ :=
      memberSymbol?_of_none "E" hbefore rfl (List.forall_mem_nil _) rfl
    exact hrecorded
  · simp [Value.ofNat, Number.ofInt?]

end Collector
end BuildHost
