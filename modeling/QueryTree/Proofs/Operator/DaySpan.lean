import QueryTree.Proofs.Code.Number
import QueryTree.Proofs.Code.Term
import QueryTree.Proofs.Compile.Node
import QueryTree.Proofs.Operator.Shape

/-! Days in generated code. An operator on spans of days writes how far from the evaluation a span
ends: the days of its operand, with a minus in front of them if the span lies before the evaluation.
What it writes is a number of its own, unless the operand has a plus where the minus goes.
-/

namespace QueryTree

open Literal.Grammar (numeral)

namespace Operator

/-- The operators on spans that end at the evaluation. -/
def pastSpans : List Operator :=
  [.inTheLast, .notInTheLast]

/-- The operators on spans that start at the evaluation. -/
def futureSpans : List Operator :=
  [.inTheNext, .notInTheNext]

/-- The operators whose operand is a number of days. -/
def daySpans : List Operator :=
  pastSpans ++ futureSpans

/-- What an operator writes for the days of its operand. -/
def dayOffset (operator : Operator) (days : String) : String :=
  if operator ∈ pastSpans then "-" ++ days else days

/-- The code that compares a time with the day at an offset from the evaluation. -/
def spanCode? (time offset : String) : Operator → Option String
  | .inTheLast =>
      some ("(" ++ time ++ " <= Dates.queryTime()) && (" ++ time ++ " >= Dates.add(\"day\", "
        ++ offset ++ ", Dates.queryTime()))")
  | .notInTheLast => some (time ++ " < Dates.add(\"day\", " ++ offset ++ ", Dates.queryTime())")
  | .inTheNext =>
      some ("(" ++ time ++ " >= Dates.queryTime()) && (" ++ time ++ " <= Dates.add(\"day\", "
        ++ offset ++ ", Dates.queryTime()))")
  | .notInTheNext => some (time ++ " > Dates.add(\"day\", " ++ offset ++ ", Dates.queryTime())")
  | _ => none

variable {operator : Operator}

theorem mem_daySpans
    : operator ∈ daySpans
      ↔ operator = .inTheLast ∨ operator = .notInTheLast
        ∨ operator = .inTheNext ∨ operator = .notInTheNext := by
  simp [daySpans, pastSpans, futureSpans]

/-- The code of an operator on days writes its offset, operator by operator. -/
theorem spanCode?_dayOffset (span : operator ∈ daySpans) (value : Term) (days : String)
    : operator.spanCode? value.code (operator.dayOffset days)
      = some (operator.shape.apply value (.literal (.number days))).code := by
  rcases mem_daySpans.mp span with rfl | rfl | rfl | rfl
  · simp [spanCode?, dayOffset, pastSpans, shape, OperatorShape.apply, Combiner.symbol,
      ← String.toList_inj]
  · simp [spanCode?, dayOffset, pastSpans, shape, OperatorShape.apply, ← String.toList_inj]
  · simp [spanCode?, dayOffset, pastSpans, shape, OperatorShape.apply, Combiner.symbol,
      ← String.toList_inj]
  · simp [spanCode?, dayOffset, pastSpans, shape, OperatorShape.apply, ← String.toList_inj]

/-- The offset is a number if the days are, but for a minus in front of a sign. -/
theorem dayOffset_mem_numeral {days : String} (matched : days.toList ∈ numeral.matches')
    (unnegated : days.toList.head? ≠ some '-')
    : (operator.dayOffset days).toList ∈ numeral.matches'
      ↔ (operator ∈ pastSpans → days.toList.head? ≠ some '+') := by
  unfold dayOffset
  split
  · rename_i past
    have negated := Literal.Grammar.minus_mem_numeral matched unnegated
    rw [String.toList_append, imp_iff_right past]
    exact negated
  · rename_i future
    exact iff_of_true matched fun past => absurd past future

end Operator

namespace DataType

open Operator (daySpans pastSpans mem_daySpans)

variable {operator : Operator}

theorem findOperator_daySpan (span : operator ∈ daySpans)
    : ∃ displayName,
        DataType.time.findOperator operator
        = .ok (OperatorTable.daySpan operator displayName operator.shape) := by
  rcases mem_daySpans.mp span with rfl | rfl | rfl | rfl <;> exact ⟨_, rfl⟩

/-- Times are compared with a span of as many days as the operand says, without a minus. -/
theorem compare_daySpan (span : operator ∈ daySpans) (value : Term) (days : String)
    : DataType.time.compare value operator days
      = if days.toList ∈ numeral.matches' ∧ days.toList.head? ≠ some '-' then
          .ok (operator.shape.apply value (.literal (.number days)))
        else .error (.invalidLiteral .number days) := by
  obtain ⟨displayName, found⟩ := findOperator_daySpan span
  simp only [compare, found, OperatorTable.daySpan, OperatorEntry.operandTypeFor,
    OperatorEntry.generate, Option.getD_some, Literal.read_days]
  by_cases accepted : days.toList ∈ numeral.matches' ∧ days.toList.head? ≠ some '-'
  · simp only [if_pos accepted]
  · simp only [if_neg accepted]

/-- Times are compared with spans of all numbers of days that the grammar matches without a minus,
and the code writes the offset of the day. That offset is a number itself, except where a span
before the evaluation is asked for with a plus: then the minus stands in front of the plus.
-/
theorem day_offset_is_number (span : operator ∈ daySpans) (value : Term) (days : String)
    : ((∃ term, DataType.time.compare value operator days = .ok term)
        ↔ days.toList ∈ numeral.matches' ∧ days.toList.head? ≠ some '-')
      ∧ ∀ term,
          DataType.time.compare value operator days = .ok term
          → operator.spanCode? value.code (operator.dayOffset days) = some term.code
            ∧ ((operator.dayOffset days).toList ∈ numeral.matches'
              ↔ (operator ∈ pastSpans → days.toList.head? ≠ some '+')) := by
  rw [compare_daySpan span]
  split
  · rename_i accepted
    refine ⟨iff_of_true ⟨_, rfl⟩ accepted, fun term compiled => ?_⟩
    obtain rfl := Except.ok.inj compiled
    exact ⟨Operator.spanCode?_dayOffset span value days,
      Operator.dayOffset_mem_numeral accepted.1 accepted.2⟩
  · rename_i refused
    exact ⟨iff_of_false nofun refused, nofun⟩

/-- Three days and a half, signed: in the next days their code has a number, in the last it has not.
-/
theorem signed_days_are_no_number_in_the_past
    : (∃ term,
        DataType.time.compare (.member (.name "d") "seen") .notInTheNext "+3.5" = .ok term
        ∧ term.code = "d.seen > Dates.add(\"day\", +3.5, Dates.queryTime())"
        ∧ "+3.5".toList ∈ numeral.matches')
      ∧ ∃ term,
          DataType.time.compare (.member (.name "d") "seen") .notInTheLast "+3.5" = .ok term
          ∧ term.code = "d.seen < Dates.add(\"day\", -+3.5, Dates.queryTime())"
          ∧ "-+3.5".toList ∉ numeral.matches' := by
  have accepted : "+3.5".toList ∈ numeral.matches' ∧ "+3.5".toList.head? ≠ some '-' := by
    decide
  constructor
  · obtain ⟨accepts, writes⟩ :=
      day_offset_is_number (by decide : Operator.notInTheNext ∈ daySpans)
        (.member (.name "d") "seen") "+3.5"
    obtain ⟨term, compiled⟩ := accepts.mpr accepted
    obtain ⟨written, isNumber⟩ := writes term compiled
    exact ⟨term, compiled, (Option.some.inj written).symm, isNumber.mpr (by decide)⟩
  · obtain ⟨accepts, writes⟩ :=
      day_offset_is_number (by decide : Operator.notInTheLast ∈ daySpans)
        (.member (.name "d") "seen") "+3.5"
    obtain ⟨term, compiled⟩ := accepts.mpr accepted
    obtain ⟨written, isNumber⟩ := writes term compiled
    exact ⟨term, compiled, (Option.some.inj written).symm, fun matched =>
      isNumber.mp matched (by decide) (by decide)⟩

/-- Three days with a plus, in the last days: the operand is accepted, and what is written for them
is no number.
-/
theorem plus_days_before_evaluation
    : (DataType.time.compare (.name "x") .inTheLast "+3").map Term.code
        = .ok "(x <= Dates.queryTime()) && (x >= Dates.add(\"day\", -+3, Dates.queryTime()))"
      ∧ Operator.inTheLast.dayOffset "+3" = "-+3"
      ∧ "-+3".toList ∉ numeral.matches' := by
  have past : Operator.inTheLast ∈ daySpans := mem_daySpans.mpr (.inl rfl)
  have accepted : "+3".toList ∈ numeral.matches' ∧ "+3".toList.head? ≠ some '-' := by decide
  have written := Operator.spanCode?_dayOffset past (.name "x") "+3"
  rw [compare_daySpan past, if_pos accepted]
  refine ⟨?_, rfl, by decide⟩
  exact congrArg Except.ok (Option.some.inj written).symm

end DataType

end QueryTree
