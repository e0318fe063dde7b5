import QueryTree.Vocabulary

/-! The data types of properties, the operators that compare a property with an operand, and their
tokens. Each data type has its own operators and its own literals.
-/

namespace QueryTree

/-- What kind of value a property holds. -/
inductive DataType where
  | number
  | string
  | boolean
  | time
  | stringList
deriving DecidableEq

/-- The token of a data type. -/
def DataType.token : DataType → String
  | .number => "number"
  | .string => "string"
  | .boolean => "boolean"
  | .time => "time"
  | .stringList => "stringList"

instance : Vocabulary DataType where
  noun := "data type"
  all := [.number, .string, .boolean, .time, .stringList]
  token := DataType.token

/-- How a property is compared with an operand. -/
inductive Operator where
  | equal
  | notEqual
  | greater
  | greaterOrEqual
  | lessOrEqual
  | less
  | contains
  | notContains
  | startsWith
  | endsWith
  | notStartsWith
  | notEndsWith
  | inTheLast
  | notInTheLast
  | inTheNext
  | notInTheNext
  | includes
  | notIncludes
deriving DecidableEq

/-- The token of an operator in a stored expression. -/
def Operator.token : Operator → String
  | .equal => "="
  | .notEqual => "!="
  | .greater => ">"
  | .greaterOrEqual => ">="
  | .lessOrEqual => "<="
  | .less => "<"
  | .contains => "ct"
  | .notContains => "nct"
  | .startsWith => "stw"
  | .endsWith => "enw"
  | .notStartsWith => "nstw"
  | .notEndsWith => "nenw"
  | .inTheLast => "itl"
  | .notInTheLast => "nitl"
  | .inTheNext => "itn"
  | .notInTheNext => "nitn"
  | .includes => "inc"
  | .notIncludes => "ninc"

instance : Vocabulary Operator where
  noun := "operator"
  all := [.equal, .notEqual, .greater, .greaterOrEqual, .lessOrEqual, .less, .contains,
    .notContains, .startsWith, .endsWith, .notStartsWith, .notEndsWith, .inTheLast, .notInTheLast,
    .inTheNext, .notInTheNext, .includes, .notIncludes]
  token := Operator.token

end QueryTree
