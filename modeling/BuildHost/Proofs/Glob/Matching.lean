import BuildHost.Proofs.Glob.Walk
import Mathlib.Data.List.Infix

/-!
# How a pattern stands for a text

A text that a pattern accepts falls into parts that its tokens stand for one
after the other (`accepts_iff_reads`).  What the wildcards stand for may be
restricted: where they pass no separator, a pattern is read name by name.
-/

namespace BuildHost
namespace Glob

open BuildHost.Path

/-- The tokens stand for the parts of the text one after the other.  A wildcard
stands for characters that it `passes`; directories stand for themselves with
the separator behind them, and at the end of a pattern for anything. -/
inductive Reads (passes : Char → Prop) : List Token → List Char → Prop
  | nil : Reads passes [] []
  | one {token : Token} {tokens : List Token} {c : Char} {text : List Char}
      (hadmits : token.admits c = true)
      (hpasses : token = .char c ∨ passes c) (h : Reads passes tokens text) :
        Reads passes (token :: tokens) (c :: text)
  | sequence {tokens : List Token} {text : List Char} (part : List Char)
      (hpart : ∀ c ∈ part, passes c)
      (h : Reads passes tokens text) : Reads passes (.anySequence :: tokens)
      (part ++ text)
  | anything (text : List Char) : Reads passes [.anyDirectories] text
  | stay {tokens : List Token} {text : List Char}
      (h : Reads passes tokens text) :
      Reads passes (.anyDirectories :: tokens) text
  | enter {tokens : List Token} {text : List Char} (part : List Char)
      (h : Reads passes tokens text) :
      Reads passes (.anyDirectories :: tokens) (part ++ separator :: text)

variable {passes others : Char → Prop} {token : Token}
  {tokens more : List Token} {text : List Char}

/-! ## Parts of a text -/

theorem suffixes_eq_tails (text : List Char) : suffixes text = text.tails := by
  induction text with
  | nil => rfl
  | cons c rest ih => rw [suffixes, ih, List.tails]

theorem mem_suffixes_iff {suffix : List Char} :
    suffix ∈ suffixes text ↔ suffix <:+ text := by
  rw [suffixes_eq_tails, List.mem_tails]

theorem mem_directoryStarts_iff {start : List Char} :
    start ∈ directoryStarts text ↔
      start = text ∨ ∃ part, text = part ++ separator :: start := by
  simp only [directoryStarts, List.mem_cons, List.mem_filterMap,
    mem_suffixes_iff]
  constructor
  · rintro (heq | ⟨suffix, ⟨part, hpart⟩, hstart⟩)
    · exact .inl heq
    · split at hstart
      next hhead =>
        cases suffix with
        | nil => cases hhead
        | cons c rest =>
            cases hhead
            cases hstart
            exact .inr ⟨part, hpart.symm⟩
      next => cases hstart
  · rintro (heq | ⟨part, hpart⟩)
    · exact .inl heq
    · exact .inr ⟨separator :: start, ⟨part, hpart.symm⟩, rfl⟩

/-! ## Acceptance -/

theorem reads_of_accepts (h : accepts tokens text = true) :
    Reads (fun _ => True) tokens text := by
  induction tokens generalizing text with
  | nil =>
      rw [accepts, List.isEmpty_iff] at h
      rw [h]
      exact .nil
  | cons token tokens ih =>
      have hone (hplain : token ≠ .anySequence)
          (hdirectories : token ≠ .anyDirectories) :
          Reads (fun _ => True) (token :: tokens) text := by
        cases text with
        | nil =>
            cases token <;> first
              | exact absurd rfl hplain
              | exact absurd rfl hdirectories
              | cases h
        | cons c rest =>
            have hboth : token.admits c = true ∧
                accepts tokens rest = true := by
              cases token <;> first
                | exact absurd rfl hplain
                | exact absurd rfl hdirectories
                | exact Bool.and_eq_true_iff.1 h
            exact .one hboth.1 (.inr trivial) (ih hboth.2)
      cases token with
      | char c => exact hone (by simp) (by simp)
      | anyChar => exact hone (by simp) (by simp)
      | charClass negated ranges => exact hone (by simp) (by simp)
      | anySequence =>
          rw [accepts] at h
          rcases List.any_eq_true.1 h with ⟨suffix, hsuffix, haccepts⟩
          rcases mem_suffixes_iff.1 hsuffix with ⟨part, rfl⟩
          exact .sequence part (fun _ _ => trivial) (ih haccepts)
      | anyDirectories =>
          cases tokens with
          | nil => exact .anything text
          | cons next tokens =>
              rw [accepts] at h
              · rcases List.any_eq_true.1 h with ⟨start, hstart, haccepts⟩
                rcases mem_directoryStarts_iff.1 hstart with rfl | ⟨part, rfl⟩
                · exact .stay (ih haccepts)
                · exact .enter part (ih haccepts)
              · exact List.cons_ne_nil _ _

theorem Reads.accepts (h : Reads passes tokens text) :
    Glob.accepts tokens text = true := by
  induction h with
  | nil => rfl
  | @one token tokens c text hadmits hpasses h ih =>
      cases token with
      | char d => exact Bool.and_eq_true_iff.2 ⟨hadmits, ih⟩
      | anyChar => exact Bool.and_eq_true_iff.2 ⟨hadmits, ih⟩
      | charClass negated ranges => exact Bool.and_eq_true_iff.2 ⟨hadmits, ih⟩
      | anySequence => cases hadmits
      | anyDirectories => cases hadmits
  | sequence part hpart h ih =>
      rw [Glob.accepts]
      exact List.any_eq_true.2
        ⟨_, mem_suffixes_iff.2 (List.suffix_append part _), ih⟩
  | anything text => rw [Glob.accepts]
  | @stay tokens text h ih =>
      cases tokens with
      | nil => rw [Glob.accepts]
      | cons next tokens =>
          rw [Glob.accepts]
          · exact List.any_eq_true.2
              ⟨text, mem_directoryStarts_iff.2 (.inl rfl), ih⟩
          · exact List.cons_ne_nil _ _
  | @enter tokens text part h ih =>
      cases tokens with
      | nil => rw [Glob.accepts]
      | cons next tokens =>
          rw [Glob.accepts]
          · exact List.any_eq_true.2
              ⟨text, mem_directoryStarts_iff.2 (.inr ⟨part, rfl⟩), ih⟩
          · exact List.cons_ne_nil _ _

theorem accepts_iff_reads :
    accepts tokens text = true ↔ Reads (fun _ => True) tokens text :=
  ⟨reads_of_accepts, Reads.accepts⟩

/-! ## What wildcards pass -/

/-- Wildcards may pass what no part of the text is. -/
theorem Reads.of_forall (h : Reads passes tokens text)
    (hothers : ∀ c ∈ text, others c) : Reads others tokens text := by
  induction h with
  | nil => exact .nil
  | one hadmits hpasses h ih =>
      exact .one hadmits (.inr (hothers _ List.mem_cons_self))
        (ih fun c hc => hothers c (List.mem_cons_of_mem _ hc))
  | sequence part hpart h ih =>
      exact .sequence part (fun c hc => hothers c (List.mem_append_left _ hc))
        (ih fun c hc => hothers c (List.mem_append_right _ hc))
  | anything text => exact .anything text
  | stay h ih => exact .stay (ih hothers)
  | enter part h ih =>
      exact .enter part
        (ih fun c hc =>
          hothers c (List.mem_append_right _ (List.mem_cons_of_mem _ hc)))

/-- A pattern whose only wildcards are whole directories has nothing to pass. -/
theorem Reads.of_forall_token (h : Reads passes tokens text)
    (htokens : ∀ token ∈ tokens, token = .anyDirectories ∨
      ∃ c, token = .char c) : Reads others tokens text := by
  induction h with
  | nil => exact .nil
  | one hadmits hpasses h ih =>
      refine .one hadmits (.inl ?_)
        (ih fun token htoken => htokens token (List.mem_cons_of_mem _ htoken))
      rcases htokens _ List.mem_cons_self with rfl | ⟨c, rfl⟩
      · cases hadmits
      · rw [of_decide_eq_true hadmits]
  | sequence part hpart h ih =>
      rcases htokens _ List.mem_cons_self with heq | ⟨c, heq⟩ <;> cases heq
  | anything text => exact .anything text
  | stay h ih =>
      exact .stay
        (ih fun token htoken => htokens token (List.mem_cons_of_mem _ htoken))
  | enter part h ih =>
      exact .enter part
        (ih fun token htoken => htokens token (List.mem_cons_of_mem _ htoken))

/-! ## Tokens one after the other -/

theorem reads_cons_char_iff {c : Char} :
    Reads passes (.char c :: tokens) text ↔
      ∃ rest, text = c :: rest ∧ Reads passes tokens rest := by
  constructor
  · intro h
    cases h with
    | one hadmits hpasses h => exact ⟨_, by rw [of_decide_eq_true hadmits], h⟩
  · rintro ⟨rest, rfl, h⟩
    exact .one (decide_eq_true rfl) (.inl rfl) h

/-- Tokens without directories stand for a text of their own, whatever follows
them. -/
theorem reads_append_iff (hdirectories : .anyDirectories ∉ tokens) :
    Reads passes (tokens ++ more) text ↔
      ∃ front back, text = front ++ back ∧ Reads passes tokens front ∧
        Reads passes more back := by
  induction tokens generalizing text with
  | nil =>
      constructor
      · exact fun h => ⟨[], text, rfl, .nil, h⟩
      · rintro ⟨front, back, rfl, hfront, hback⟩
        cases hfront
        exact hback
  | cons token tokens ih =>
      have hrest : .anyDirectories ∉ tokens :=
        fun hmem => hdirectories (List.mem_cons_of_mem token hmem)
      constructor
      · intro h
        rw [List.cons_append] at h
        generalize hall : tokens ++ more = all at h
        cases h with
        | one hadmits hpasses h =>
            rw [← hall] at h
            rcases (ih hrest).1 h with ⟨front, back, rfl, hfront, hback⟩
            exact ⟨_ :: front, back, rfl, .one hadmits hpasses hfront, hback⟩
        | sequence part hpart h =>
            rw [← hall] at h
            rcases (ih hrest).1 h with ⟨front, back, rfl, hfront, hback⟩
            exact ⟨part ++ front, back, (List.append_assoc ..).symm,
              .sequence part hpart hfront, hback⟩
        | anything => exact absurd List.mem_cons_self hdirectories
        | stay => exact absurd List.mem_cons_self hdirectories
        | enter => exact absurd List.mem_cons_self hdirectories
      · rintro ⟨front, back, rfl, hfront, hback⟩
        cases hfront with
        | one hadmits hpasses h =>
            exact .one hadmits hpasses ((ih hrest).2 ⟨_, back, rfl, h, hback⟩)
        | sequence part hpart h =>
            rw [List.append_assoc]
            exact .sequence part hpart ((ih hrest).2 ⟨_, back, rfl, h, hback⟩)
        | anything => exact absurd List.mem_cons_self hdirectories
        | stay => exact absurd List.mem_cons_self hdirectories
        | enter => exact absurd List.mem_cons_self hdirectories

end Glob
end BuildHost
