import QueryTree.Proofs.Code.Term
import QueryTree.Proofs.Compile.Node
import QueryTree.Proofs.Operator.Shape

/-! Line breaks in generated code. The fixed code of operators and literals has none, and quoting
leaves them as they are, so a line break in code is one of the texts that the code was made from.
-/

namespace QueryTree

namespace Text

/-- There is a line break in the text. -/
def Breaks (text : String) : Prop :=
  '\n' ∈ text.toList

instance : DecidablePred Breaks :=
  fun text => inferInstanceAs (Decidable ('\n' ∈ text.toList))

@[simp]
theorem breaks_append {first second : String}
    : Breaks (first ++ second) ↔ Breaks first ∨ Breaks second := by
  rw [Breaks, String.toList_append, List.mem_append]
  rfl

theorem breaks_intercalate {separator : String} (whole : ¬Breaks separator) {texts : List String}
    : Breaks (separator.intercalate texts) ↔ ∃ text ∈ texts, Breaks text := by
  induction texts with
  | nil => simp [Breaks]
  | cons first rest ih =>
      cases rest with
      | nil => simp
      | cons next others =>
          rw [String.intercalate_cons_cons, breaks_append, breaks_append, ih, or_iff_left whole]
          simp only [List.mem_cons, exists_eq_or_imp]

/-- A line break in a literal is one of the text it stands for. -/
theorem breaks_quote (text : String) : Breaks (quote text) ↔ Breaks text := by
  have escaped (c : Char) : '\n' ∈ Quoted.escape c ↔ '\n' = c := by
    unfold Quoted.escape
    split <;> simp
  simp [Breaks, quote, Quoted.body, escaped]

end Text

open Text (Breaks)

/-- A literal breaks where the operand does that it was read from. -/
theorem Literal.breaks_of_read {dataType : DataType} {raw : String}
    {stereotype : Option Stereotype} {literal : Literal}
    (read : Literal.read dataType raw stereotype = .ok literal)
    : Breaks literal.code ↔ Breaks raw := by
  cases dataType with
  | number =>
      simp only [Literal.read] at read
      split at read
      · obtain rfl := Except.ok.inj read
        rfl
      · cases read
  | boolean =>
      simp only [Literal.read] at read
      split at read
      · rename_i same
        obtain rfl := Except.ok.inj read
        exact same ▸ Iff.rfl
      · split at read
        · rename_i same
          obtain rfl := Except.ok.inj read
          exact same ▸ Iff.rfl
        · cases read
  | string =>
      obtain rfl := Except.ok.inj read
      exact Text.breaks_quote raw
  | time =>
      obtain rfl := Except.ok.inj read
      change Breaks ("Dates.parseIso(" ++ Text.quote raw ++ ")") ↔ Breaks raw
      simp +decide [Text.breaks_quote]
  | stringList => cases read

/-- An operator puts no line break between its two sides, shape by shape. -/
theorem Operator.breaks_apply (operator : Operator) (left right : Term)
    : Breaks (operator.shape.apply left right).code ↔ Breaks left.code ∨ Breaks right.code := by
  cases operator <;>
    simp +decide [Operator.shape, OperatorShape.apply, OperatorShape.signed]

theorem OperatorEntry.breaks_generate {dataType : DataType} {operator : Operator}
    {entry : OperatorEntry} (supported : dataType.findOperator operator = .ok entry)
    {operand : String} {literal : Literal}
    (read : Literal.read (entry.operandTypeFor dataType) operand entry.stereotype = .ok literal)
    (value : Term)
    : Breaks (entry.generate value (.literal literal)).code
      ↔ Breaks value.code ∨ Breaks operand := by
  rw [generate, DataType.shape_of_findOperator supported, Operator.breaks_apply, Term.code_literal,
    Literal.breaks_of_read read]

end QueryTree
