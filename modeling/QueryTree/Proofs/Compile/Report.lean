import QueryTree.Proofs.Compile.Place
import QueryTree.Proofs.Compile.Verdict

/-! Reports on places that are judged in order. A report ends at the first place with a fault, so it
says of all places before that nothing is wrong with them.
-/

namespace QueryTree

/-- What is reported of places in order: success if nothing is wrong with any of them, and otherwise
the fault of the first one with a fault.
-/
inductive Reports (wrong : Place → CompileFault → Prop)
    : List Place → Except CompileFault Unit → Prop
  | done : Reports wrong [] (.ok ())
  | here {place rest fault} (found : wrong place fault)
    : Reports wrong (place :: rest) (.error fault)
  | later {place rest outcome} (right : ∀ fault, ¬wrong place fault)
    (after : Reports wrong rest outcome)
    : Reports wrong (place :: rest) outcome

namespace Reports

variable {wrong : Place → CompileFault → Prop} {places rest : List Place}

/-- After places with a fault, the places behind them do not matter. -/
theorem append_error {fault : CompileFault} (first : Reports wrong places (.error fault))
    (rest : List Place)
    : Reports wrong (places ++ rest) (.error fault) := by
  generalize stopped : Except.error fault = outcome at first
  induction first with
  | done => cases stopped
  | here found => cases stopped; exact .here found
  | later right _ ih => exact .later right (ih stopped)

theorem append_ok {outcome : Except CompileFault Unit} (first : Reports wrong places (.ok ()))
    (second : Reports wrong rest outcome)
    : Reports wrong (places ++ rest) outcome := by
  generalize passed : Except.ok () = all at first
  induction first with
  | done => exact second
  | here found => cases passed
  | later right _ ih => exact .later right (ih passed)

/-- Steps that report on places one after the other report on all of them. -/
theorem bind {α β : Type} {step : Except CompileFault α} {next : α → Except CompileFault β}
    (first : Reports wrong places (verdict step))
    (second : ∀ value, Reports wrong rest (verdict (next value)))
    : Reports wrong (places ++ rest) (verdict (step >>= next)) := by
  cases step with
  | error fault => exact append_error first rest
  | ok value => exact append_ok first (second value)

/-- What is made of the result of a step does not matter for the report. -/
theorem bind_pure {α β : Type} {step : Except CompileFault α}
    (reports : Reports wrong places (verdict step)) (change : α → β)
    : Reports wrong places (verdict (step >>= fun value => pure (change value))) := by
  cases step <;> exact reports

/-- A step whose faults are those of a place reports on that place. -/
theorem single {α : Type} {step : Except CompileFault α} {place : Place}
    (faults : ∀ fault, step = .error fault ↔ wrong place fault)
    : Reports wrong [place] (verdict step) := by
  cases step with
  | error fault => exact .here ((faults fault).mp rfl)
  | ok value => exact .later (fun fault found => by cases (faults fault).mpr found) .done

/-- A report of success says that there is nothing wrong with any place. -/
theorem forall_right (reports : Reports wrong places (.ok ()))
    : ∀ place ∈ places, ∀ fault, ¬wrong place fault := by
  generalize passed : Except.ok () = outcome at reports
  induction reports with
  | done => exact fun _ absent => absurd absent List.not_mem_nil
  | here found => cases passed
  | later right _ ih => exact List.forall_mem_cons.mpr ⟨right, ih passed⟩

theorem exists_first {fault : CompileFault} (reports : Reports wrong places (.error fault))
    : ∃ before place after,
        places = before ++ place :: after
        ∧ (∀ earlier ∈ before, ∀ other, ¬wrong earlier other)
        ∧ wrong place fault := by
  generalize stopped : Except.error fault = outcome at reports
  induction reports with
  | done => cases stopped
  | @here place rest _ found =>
      cases stopped
      exact ⟨[], place, rest, rfl, fun _ absent => absurd absent List.not_mem_nil, found⟩
  | @later place _ _ right _ ih =>
      obtain ⟨before, faulty, after, rfl, sound, found⟩ := ih stopped
      exact ⟨place :: before, faulty, after, rfl, List.forall_mem_cons.mpr ⟨right, sound⟩, found⟩

/-- There is no other report than success on places without a fault. -/
theorem eq_ok {outcome : Except CompileFault Unit} (reports : Reports wrong places outcome)
    (right : ∀ place ∈ places, ∀ fault, ¬wrong place fault)
    : outcome = .ok () := by
  induction reports with
  | done => rfl
  | here found => exact absurd found (right _ List.mem_cons_self _)
  | later _ _ ih => exact ih fun place present => right place (List.mem_cons_of_mem _ present)

/-- There is no other report than the fault of the first place with a fault, if no place has two. -/
theorem eq_error {before after : List Place} {place : Place} {fault : CompileFault}
    {outcome : Except CompileFault Unit}
    (reports : Reports wrong (before ++ place :: after) outcome)
    (right : ∀ earlier ∈ before, ∀ other, ¬wrong earlier other) (found : wrong place fault)
    (one : ∀ other, wrong place other → other = fault)
    : outcome = .error fault := by
  induction before with
  | nil =>
      cases reports with
      | here again => rw [one _ again]
      | later sound _ => exact absurd found (sound fault)
  | cons first others ih =>
      obtain ⟨here, below⟩ := List.forall_mem_cons.mp right
      cases reports with
      | here again => exact absurd again (here _)
      | later _ next => exact ih next below

/-- A report is settled by the places it is made on. -/
theorem eq_ok_iff {outcome : Except CompileFault Unit} (reports : Reports wrong places outcome)
    : outcome = .ok () ↔ ∀ place ∈ places, ∀ fault, ¬wrong place fault :=
  ⟨fun passed => forall_right (passed ▸ reports), eq_ok reports⟩

theorem eq_error_iff {outcome : Except CompileFault Unit} (reports : Reports wrong places outcome)
    (one : ∀ place fault other, wrong place fault → wrong place other → other = fault)
    {fault : CompileFault}
    : outcome = .error fault
      ↔ ∃ before place after,
          places = before ++ place :: after
          ∧ (∀ earlier ∈ before, ∀ other, ¬wrong earlier other)
          ∧ wrong place fault := by
  constructor
  · rintro rfl
    exact reports.exists_first
  · rintro ⟨before, place, after, rfl, right, found⟩
    exact reports.eq_error right found fun other => one place fault other found

end Reports

end QueryTree
