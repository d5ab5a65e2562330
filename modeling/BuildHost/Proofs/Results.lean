/-!
# Results that are there

What is known of the parts of a computation when its result is there: of its
steps (`exists_of_bind_eq_ok`), and of the rounds of a loop
(`exists_of_mem_of_mapM_eq_ok`, `invariant_of_foldlM_eq_ok`).
-/

namespace BuildHost

/-! ## Steps -/

theorem exists_of_bind_eq_ok {ε α β : Type} {first : Except ε α}
    {next : α → Except ε β} {b : β} (h : (first >>= next) = .ok b) :
    ∃ a, first = .ok a ∧ next a = .ok b := by
  cases first with
  | error fault => cases h
  | ok a => exact ⟨a, rfl, h⟩

theorem exists_of_map_eq_ok {ε α β : Type} {f : α → β}
    {result : Except ε α} {b : β} (h : result.map f = .ok b) :
    ∃ a, result = .ok a ∧ f a = b := by
  cases result with
  | error fault => cases h
  | ok a => exact ⟨a, rfl, Except.ok.inj h⟩

theorem eq_ok_of_toOption_eq_some {ε α : Type} {result : Except ε α} {a : α}
    (h : result.toOption = some a) : result = .ok a := by
  cases result with
  | error fault => cases h
  | ok b => exact congrArg Except.ok (Option.some.inj h)

theorem of_mapError_eq_ok {ε ε' α : Type} {f : ε → ε'}
    {result : Except ε α} {a : α} (h : result.mapError f = .ok a) :
    result = .ok a := by
  cases result with
  | error fault => cases h
  | ok b =>
      cases h
      rfl

/-! ## Loops -/

theorem exists_of_mem_of_mapM_eq_ok {ε α β : Type} {f : α → Except ε β}
    {items : List α} {results : List β} (h : items.mapM f = .ok results)
    {result : β} (hresult : result ∈ results) :
    ∃ item ∈ items, f item = .ok result := by
  induction items generalizing results with
  | nil =>
      cases h
      cases hresult
  | cons item rest ih =>
      rw [List.mapM_cons] at h
      rcases exists_of_bind_eq_ok h with ⟨first, hfirst, h⟩
      rcases exists_of_bind_eq_ok h with ⟨others, hothers, h⟩
      cases h
      rcases List.mem_cons.1 hresult with rfl | hresult
      · exact ⟨item, List.mem_cons_self, hfirst⟩
      · rcases ih hothers hresult with ⟨other, hother, heq⟩
        exact ⟨other, List.mem_cons_of_mem item hother, heq⟩

theorem invariant_of_foldlM_eq_ok {ε σ α : Type} {P : σ → Prop}
    {f : σ → α → Except ε σ} {items : List α}
    (hstep : ∀ s, P s → ∀ item ∈ items, ∀ next, f s item = .ok next → P next)
    {start last : σ} (hstart : P start) (h : items.foldlM f start = .ok last) :
    P last := by
  induction items generalizing start with
  | nil =>
      cases h
      exact hstart
  | cons item rest ih =>
      rw [List.foldlM_cons] at h
      rcases exists_of_bind_eq_ok h with ⟨middle, hmiddle, h⟩
      have hnext := hstep start hstart item List.mem_cons_self middle hmiddle
      exact ih
        (fun s hs other hother =>
          hstep s hs other (List.mem_cons_of_mem item hother)) hnext h

end BuildHost
