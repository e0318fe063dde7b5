import QueryTree.Operator.Table

/-! The shape of an operator's code is the same in every table that has the operator. -/

namespace QueryTree

/-- The shape of the code that an operator becomes. -/
def Operator.shape : Operator → OperatorShape
  | .equal => .infixed "=="
  | .notEqual => .infixed "!="
  | .greater => .infixed ">"
  | .greaterOrEqual => .infixed ">="
  | .lessOrEqual => .infixed "<="
  | .less => .infixed "<"
  | .contains => .call "Strings.contains" false
  | .notContains => .call "Strings.contains" true
  | .startsWith => .call "Strings.startsWith" false
  | .endsWith => .call "Strings.endsWith" false
  | .notStartsWith => .call "Strings.startsWith" true
  | .notEndsWith => .call "Strings.endsWith" true
  | .inTheLast => .withinPast
  | .notInTheLast => .beforePast
  | .inTheNext => .withinFuture
  | .notInTheNext => .afterFuture
  | .includes => .includes false
  | .notIncludes => .includes true

namespace DataType

/-- Every entry of a table has the shape of its operator. -/
theorem shape_of_mem_operators (dataType : DataType)
    : ∀ entry ∈ dataType.operators, entry.shape = entry.operator.shape := by
  cases dataType <;> decide

theorem shape_of_findOperator {dataType : DataType} {operator : Operator} {entry : OperatorEntry}
    (supported : dataType.findOperator operator = .ok entry)
    : entry.shape = operator.shape := by
  -- The table is searched by operator, so the entry that is found is one of this operator.
  unfold findOperator at supported
  split at supported
  · rename_i found hit
    obtain rfl := Except.ok.inj supported
    have same : found.operator = operator := by simpa using List.find?_some hit
    rw [shape_of_mem_operators dataType found (List.mem_of_find?_eq_some hit), same]
  · cases supported

end DataType

end QueryTree
