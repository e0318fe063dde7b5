import QueryTree.Code.Term

/-! The operators that each data type supports, in the order they are offered. The first operator of
a table is the one a new property test starts with.
-/

namespace QueryTree

/-- The shape of the code that an operator becomes. -/
inductive OperatorShape where
  /-- The two sides around a symbol. -/
  | infixed (symbol : String)
  /-- A function of the two sides, or its negation. -/
  | call (function : String) (negated : Bool)
  /-- At most so many days before the evaluation, and not after it. -/
  | withinPast
  /-- More than so many days before the evaluation. -/
  | beforePast
  /-- At most so many days after the evaluation, and not before it. -/
  | withinFuture
  /-- More than so many days after the evaluation. -/
  | afterFuture
  /-- Whether a list has the right side as an element, or the negation. -/
  | includes (negated : Bool)
deriving DecidableEq

namespace OperatorShape

/-- A term, or its negation. -/
def signed (negated : Bool) (term : Term) : Term :=
  if negated then .not term else term

/-- The variable bound to an element of a list of strings. -/
def elementName : String := "s"

/-- The code of an operator between two sides. -/
def apply (left right : Term) : OperatorShape → Term
  | .infixed symbol => .compare left symbol right
  | .call function negated => signed negated (.call function [left, right])
  | .withinPast =>
      .connect .and [
        .group (.compare left "<=" Term.queryTime),
        .group (.compare left ">=" (Term.daysFromQueryTime (.minus right)))]
  | .beforePast => .compare left "<" (Term.daysFromQueryTime (.minus right))
  | .withinFuture =>
      .connect .and [
        .group (.compare left ">=" Term.queryTime),
        .group (.compare left "<=" (Term.daysFromQueryTime right))]
  | .afterFuture => .compare left ">" (Term.daysFromQueryTime right)
  | .includes negated =>
      signed negated (.any left elementName (.compare (.name elementName) "==" right))

end OperatorShape

/-- An entry of an operator table. -/
structure OperatorEntry where
  operator : Operator
  displayName : String
  /-- The data type of the operand, where it is not that of the property. -/
  operandType : Option DataType
  stereotype : Option Stereotype
  shape : OperatorShape
deriving DecidableEq

namespace OperatorEntry

/-- The data type of the operand for a property of type `property`. -/
def operandTypeFor (entry : OperatorEntry) (property : DataType) : DataType :=
  entry.operandType.getD property

/-- The code of the operator between two sides. -/
def generate (entry : OperatorEntry) (left right : Term) : Term :=
  entry.shape.apply left right

end OperatorEntry

namespace OperatorTable

/-- The six comparisons that numbers, strings and times share. -/
def comparisons (operandType : Option DataType) : List OperatorEntry :=
  [ ⟨.equal, "=", operandType, none, .infixed "=="⟩,
    ⟨.notEqual, "≠", operandType, none, .infixed "!="⟩,
    ⟨.greater, ">", operandType, none, .infixed ">"⟩,
    ⟨.greaterOrEqual, "≥", operandType, none, .infixed ">="⟩,
    ⟨.lessOrEqual, "≤", operandType, none, .infixed "<="⟩,
    ⟨.less, "<", operandType, none, .infixed "<"⟩ ]

/-- An entry whose operand is a number of days. -/
def daySpan (operator : Operator) (displayName : String) (shape : OperatorShape)
    : OperatorEntry :=
  ⟨operator, displayName, some .number, some .timeSpan, shape⟩

/-- The operators of numbers. -/
def number : List OperatorEntry :=
  comparisons none

/-- The operators of strings. -/
def string : List OperatorEntry :=
  comparisons none
    ++ [ ⟨.contains, "contains", none, none, .call "Strings.contains" false⟩,
         ⟨.notContains, "does not contain", none, none, .call "Strings.contains" true⟩,
         ⟨.startsWith, "starts with", none, none, .call "Strings.startsWith" false⟩,
         ⟨.endsWith, "ends with", none, none, .call "Strings.endsWith" false⟩,
         ⟨.notStartsWith, "does not start with", none, none, .call "Strings.startsWith" true⟩,
         ⟨.notEndsWith, "does not end with", none, none, .call "Strings.endsWith" true⟩ ]

/-- The operators of truth values. -/
def boolean : List OperatorEntry :=
  [⟨.equal, "=", none, none, .infixed "=="⟩]

/-- The operators of times. -/
def time : List OperatorEntry :=
  comparisons (some .time)
    ++ [ daySpan .inTheLast "in the last" .withinPast,
         daySpan .notInTheLast "not in the last" .beforePast,
         daySpan .inTheNext "in the next" .withinFuture,
         daySpan .notInTheNext "not in the next" .afterFuture ]

/-- The operators of lists of strings; the operand is one element. -/
def stringList : List OperatorEntry :=
  [ ⟨.includes, "includes", some .string, none, .includes false⟩,
    ⟨.notIncludes, "does not include", some .string, none, .includes true⟩ ]

end OperatorTable

namespace DataType

/-- The operators of a data type, in the order they are offered. -/
def operators : DataType → List OperatorEntry
  | .number => OperatorTable.number
  | .string => OperatorTable.string
  | .boolean => OperatorTable.boolean
  | .time => OperatorTable.time
  | .stringList => OperatorTable.stringList

/-- The entry of an operator in the table of a data type. -/
def findOperator (dataType : DataType) (operator : Operator)
    : Except CompileFault OperatorEntry :=
  match dataType.operators.find? fun entry => entry.operator = operator with
  | some entry => .ok entry
  | none => .error (.unsupportedOperator operator dataType)

/-- The code that compares a value of a data type with a raw operand. -/
def compare (dataType : DataType) (value : Term) (operator : Operator) (operand : String)
    : Except CompileFault Term :=
  match dataType.findOperator operator with
  | .error fault => .error fault
  | .ok entry =>
      match Literal.read (entry.operandTypeFor dataType) operand entry.stereotype with
      | .error fault => .error fault
      | .ok literal => .ok (entry.generate value (.literal literal))

end DataType

end QueryTree
