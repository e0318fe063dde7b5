import Mathlib.Data.List.Forall2

/-! Outcomes of steps that succeed with a result or end with a fault. What is left of an outcome
without its result is its verdict.
-/

namespace QueryTree

variable {ε φ α β : Type}

theorem bind_eq_ok {step : Except ε α} {next : α → Except ε β} {result : β}
    : (step >>= next) = .ok result ↔ ∃ value, step = .ok value ∧ next value = .ok result := by
  cases step with
  | error fault => simp [bind, Except.bind]
  | ok value => simp [bind, Except.bind]

theorem map_eq_ok {step : Except ε α} {change : α → β} {result : β}
    : step.map change = .ok result ↔ ∃ value, step = .ok value ∧ change value = result := by
  cases step with
  | error fault => simp [Except.map]
  | ok value => simp [Except.map]

theorem mapError_eq_ok {step : Except ε α} {change : ε → φ} {value : α}
    : step.mapError change = .ok value ↔ step = .ok value := by
  cases step <;> simp [Except.mapError]

/-- A step that is made for one value after the other succeeds exactly if it succeeds for each of
them, by induction on the values.
-/
theorem eq_ok_iff_forall₂ {step : α → Except ε β} {run : List α → Except ε (List β)}
    (none : run [] = .ok [])
    (first
      : ∀ value rest,
          run (value :: rest)
          = step value >>= fun result => run rest >>= fun results => pure (result :: results))
    {values : List α} {results : List β}
    : run values = .ok results
      ↔ List.Forall₂ (fun value result => step value = .ok result) values results := by
  induction values generalizing results with
  | nil => rw [none, List.forall₂_nil_left_iff, Except.ok.injEq, eq_comm]
  | cons value rest ih =>
      rw [first]
      simp only [bind_eq_ok, pure, Except.pure, Except.ok.injEq]
      constructor
      · rintro ⟨result, done, others, after, rfl⟩
        exact .cons done (ih.mp after)
      · rintro (_ | ⟨done, after⟩)
        exact ⟨_, done, _, ih.mpr after, rfl⟩

/-- The outcome of a step without its result: success, or the fault. -/
def verdict (outcome : Except ε α) : Except ε Unit :=
  outcome.map fun _ => ()

theorem verdict_map (change : α → β) (outcome : Except ε α)
    : verdict (outcome.map change) = verdict outcome := by
  cases outcome <;> rfl

/-- Two runs of the same steps have one verdict if each step has, whatever results they pass on. -/
theorem verdict_bind {left right : Except ε α} {next other : α → Except ε β}
    (first : verdict left = verdict right)
    (second : ∀ one two, verdict (next one) = verdict (other two))
    : verdict (left >>= next) = verdict (right >>= other) := by
  cases left with
  | error fault =>
      cases right with
      | error found => simpa [verdict, Except.map, bind, Except.bind] using first
      | ok value => simp [verdict, Except.map] at first
  | ok value =>
      cases right with
      | error found => simp [verdict, Except.map] at first
      | ok found => exact second value found

theorem verdict_eq_error {outcome : Except ε α} {fault : ε}
    : verdict outcome = .error fault ↔ outcome = .error fault := by
  cases outcome <;> simp [verdict, Except.map]

theorem verdict_eq_ok {outcome : Except ε α}
    : verdict outcome = .ok () ↔ ∃ value, outcome = .ok value := by
  cases outcome <;> simp [verdict, Except.map]

theorem error_of_verdict_eq {left right : Except ε α} (same : verdict left = verdict right)
    {fault : ε} (failed : left = .error fault)
    : right = .error fault := by
  rw [← verdict_eq_error, ← same]
  exact verdict_eq_error.mpr failed

theorem ok_of_verdict_eq {left right : Except ε α} (same : verdict left = verdict right)
    {value : α} (done : left = .ok value)
    : ∃ found, right = .ok found := by
  rw [← verdict_eq_ok, ← same]
  exact verdict_eq_ok.mpr ⟨value, done⟩

end QueryTree
