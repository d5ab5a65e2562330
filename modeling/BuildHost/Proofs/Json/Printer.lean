import BuildHost.Proofs.Json.Brackets

/-!
# Texts of values

The compact text of a value and its text over several lines differ in blanks
only: both are the texts of a `Printer`.
-/

namespace BuildHost
namespace Json

open Reader

/-- A way to write values: `before` stands before each element of a level and,
one level up, before the closing bracket, and `gap` behind the colon of a
member. -/
structure Printer where
  text : Nat → Value → List Char
  before : Nat → List Char
  gap : List Char
  areBlanks_before : ∀ level, AreBlanks (before level)
  areBlanks_gap : AreBlanks gap
  text_null : ∀ level, text level .null = "null".toList
  text_bool : ∀ level b, text level (.bool b) = if b then "true".toList
    else "false".toList
  text_number : ∀ level n, text level (.number n) = n.text.toList
  text_string : ∀ level s, text level (.string s) = stringText s
  text_array : ∀ level items, text level (.array items)
    = '[' :: bracketed ']' (before (level + 1)) (before level) (items.map
      (text (level + 1)))
  text_object : ∀ level members, text level (.object members)
    = '\x7b' :: bracketed '\x7d' (before (level + 1)) (before level)
        (members.map (memberText gap (text (level + 1))))

/-- A text that goes on behind a comma as long as there is more. -/
theorem eq_append_others {α : Type} (f : List α → List Char) (inner : List Char)
    (text : α → List Char) (hlast : ∀ a, f [a] = inner ++ text a)
    (hnext : ∀ a b rest,
      f (a :: b :: rest) = inner ++ text a ++ ',' :: f (b :: rest)) (a : α)
    (rest : List α) :
    f (a :: rest) = inner ++ text a ++ others inner (rest.map text) := by
  induction rest generalizing a with
  | nil => rw [hlast, List.map_nil, others, List.flatMap_nil, List.append_nil]
  | cons b rest ih =>
      rw [hnext, ih b]
      simp only [others, List.map_cons, List.flatMap_cons, List.cons_append,
        List.append_assoc]

theorem compactText_array (items : List Value) :
    compactText (.array items)
      = '[' :: bracketed ']' [] [] (items.map compactText) := by
  cases items with
  | nil => rfl
  | cons item rest =>
      have hitems := eq_append_others compactItems [] compactText (fun _ => rfl)
        (fun _ _ _ => rfl) item rest
      rw [compactText, hitems, List.map_cons, bracketed, List.append_nil,
        List.cons_append]

theorem compactText_object (members : List (String × Value)) :
    compactText (.object members)
      = '\x7b' :: bracketed '\x7d' [] []
          (members.map (memberText [] compactText)) := by
  cases members with
  | nil => rfl
  | cons member rest =>
      have hmembers := eq_append_others compactMembers []
        (memberText [] compactText) (fun _ => rfl)
        (fun _ _ _ => rfl) member rest
      rw [compactText, hmembers, List.map_cons, bracketed, List.append_nil,
        List.cons_append]

theorem prettyText_array (level : Nat) (items : List Value) :
    prettyText level (.array items)
      = '[' :: bracketed ']' (lineBreak (level + 1)) (lineBreak
        level) (items.map (prettyText (level + 1))) := by
  cases items with
  | nil => rfl
  | cons item rest =>
      have hitems := eq_append_others (prettyItems (level + 1))
        (lineBreak (level + 1)) (prettyText (level + 1)) (fun _ => rfl)
        (fun _ _ _ => rfl) item rest
      rw [prettyText, hitems, List.map_cons, bracketed, List.cons_append,
        List.cons_append]

theorem prettyText_object (level : Nat) (members : List (String × Value)) :
    prettyText level (.object members)
      = '\x7b' :: bracketed '\x7d' (lineBreak (level + 1)) (lineBreak level)
          (members.map (memberText [' '] (prettyText (level + 1)))) := by
  cases members with
  | nil => rfl
  | cons member rest =>
      have hmembers :=
        eq_append_others (prettyMembers (level + 1)) (lineBreak (level + 1))
          (memberText [' '] (prettyText (level + 1)))
          (fun _ => by simp [prettyMembers, memberText])
        (fun _ _ _ => by simp [prettyMembers, memberText]) member rest
      rw [prettyText, hmembers, List.map_cons, bracketed, List.cons_append,
        List.cons_append]

def compactPrinter : Printer where
  text _ := compactText
  before _ := []
  gap := []
  areBlanks_before _ := areBlanks_nil
  areBlanks_gap := areBlanks_nil
  text_null _ := rfl
  text_bool _ b := by cases b <;> rfl
  text_number _ n := rfl
  text_string _ s := rfl
  text_array _ := compactText_array
  text_object _ := compactText_object

theorem areBlanks_lineBreak (level : Nat) : AreBlanks (lineBreak level) := by
  intro c hc
  rcases List.mem_cons.1 hc with rfl | hc
  · exact .inr (.inl rfl)
  · exact .inl (List.eq_of_mem_replicate hc)

def prettyPrinter : Printer where
  text := prettyText
  before := lineBreak
  gap := [' ']
  areBlanks_before := areBlanks_lineBreak
  areBlanks_gap := by
    intro c hc
    exact .inl (List.mem_singleton.1 hc)
  text_null _ := rfl
  text_bool _ b := by cases b <;> rfl
  text_number _ n := rfl
  text_string _ s := rfl
  text_array := prettyText_array
  text_object := prettyText_object

end Json
end BuildHost
