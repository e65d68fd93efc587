/-!
# Runs that may fail

## Main statements

- `bind_eq_ok_iff` — a run in two steps succeeds exactly if both of them do
- `foldlM_eq_error_iff` — a run for one item after the other fails where one of its steps does
- `exists_mapM_eq_ok_iff` — runs for all items of a list succeed exactly if each of them does
-/

namespace GridAccess

variable {α β ε : Type} {run : Except ε α} {next : α → Except ε β} {result : β}

/-- A run in two steps succeeds exactly if both of them do. -/
theorem bind_eq_ok_iff : (run >>= next) = .ok result ↔
    ∃ middle, run = .ok middle ∧ next middle = .ok result := by
  cases run with
  | error e => simp [bind, Except.bind]
  | ok middle => simp [bind, Except.bind]

theorem bind_eq_error_iff {e : ε} : (run >>= next) = .error e ↔
    run = .error e ∨ ∃ middle, run = .ok middle ∧ next middle = .error e := by
  cases run with
  | error f => simp [bind, Except.bind]
  | ok middle => simp [bind, Except.bind]

/-- A run for one item after the other fails exactly if its step fails for an item, after steps for
all items before it. -/
theorem foldlM_eq_error_iff {step : β → α → Except ε β} {start : β} {items : List α} {e : ε} :
    items.foldlM step start = .error e ↔
      ∃ before item after middle, items = before ++ item :: after ∧
        before.foldlM step start = .ok middle ∧ step middle item = .error e := by
  induction items generalizing start with
  | nil => simp [pure, Except.pure]
  | cons item items ih =>
    rw [List.foldlM_cons, bind_eq_error_iff]
    constructor
    · rintro (hitem | ⟨state, hitem, hrest⟩)
      · exact ⟨[], item, items, start, rfl, rfl, hitem⟩
      · obtain ⟨before, failing, after, middle, rfl, hbefore, hfailing⟩ := ih.1 hrest
        refine ⟨item :: before, failing, after, middle, rfl, ?_, hfailing⟩
        rw [List.foldlM_cons, hitem]
        exact hbefore
    · rintro ⟨before, failing, after, middle, hitems, hbefore, hfailing⟩
      cases before with
      | nil =>
        cases hitems
        cases hbefore
        exact Or.inl hfailing
      | cons first before =>
        rw [List.cons_append, List.cons.injEq] at hitems
        obtain ⟨rfl, rfl⟩ := hitems
        rw [List.foldlM_cons, bind_eq_ok_iff] at hbefore
        obtain ⟨state, hitem, hbefore⟩ := hbefore
        exact Or.inr ⟨state, hitem, ih.2 ⟨before, failing, after, middle, rfl, hbefore, hfailing⟩⟩

/-- Runs for all items of a list succeed exactly if each of them does. -/
theorem exists_mapM_eq_ok_iff {runOf : α → Except ε β} {items : List α} :
    (∃ results, items.mapM runOf = .ok results) ↔
      ∀ item ∈ items, ∃ result, runOf item = .ok result := by
  induction items with
  | nil => simp [pure, Except.pure]
  | cons item items ih =>
    rw [List.forall_mem_cons, ← ih, List.mapM_cons]
    simp only [bind_eq_ok_iff]
    constructor
    · rintro ⟨_, result, hitem, results, hitems, -⟩
      exact ⟨⟨result, hitem⟩, results, hitems⟩
    · rintro ⟨⟨result, hitem⟩, results, hitems⟩
      exact ⟨_, result, hitem, results, hitems, rfl⟩

end GridAccess
